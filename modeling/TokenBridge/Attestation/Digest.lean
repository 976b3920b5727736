import TokenBridge.Attestation.Frame
import TokenBridge.Hash.Keccak
import TokenBridge.Value.Display

/-!
# Digests of bodies

What guardians and other signers sign. Guardians sign the hash of the hash of a body; wallets sign
the hash of that hash as a personal message, which is preceded by a marker and its length.
-/

namespace TokenBridge.Attestation

/-- The marker of a personal message. -/
def personalMarker : Bytes :=
  0x19 :: "Ethereum Signed Message:\n".toList.map fun c => c.toNat.toUInt8

/-- The decimal digits of a length. -/
def decimalText (n : Nat) : Bytes := (Nat.toDigits 10 n).map fun c => c.toNat.toUInt8

/-- What is hashed of a personal message: the marker, the length in decimal, the message. -/
def personalPreimage (message : Bytes) : Bytes :=
  personalMarker ++ decimalText message.length ++ message

/-- The hash of a personal message. -/
def personalHash (message : Bytes) : Bytes := Keccak.digest (personalPreimage message)

/-- The ways in which a body is digested before it is signed. -/
inductive DigestScheme where
  | doubleKeccak
  | ethSigned
deriving DecidableEq, Repr

namespace DigestScheme

/-- All schemes, in the order in which they are tried. -/
def all : List DigestScheme := [.doubleKeccak, .ethSigned]

/-- The name of a scheme. -/
def name : DigestScheme → String
  | .doubleKeccak => "doubleKeccak"
  | .ethSigned => "ethSignedMsgHash32"

/-- The scheme that a value names. -/
def ofValue (v : Value) : Except Fault DigestScheme :=
  match all.find? fun scheme => match v with
    | .text s => scheme.name == s
    | _ => false with
  | some scheme => .ok scheme
  | none => do
    let shown ← liftDigits v.shown
    .error (.unknownScheme shown)

/-- The digest of a body under a scheme. -/
def digest (scheme : DigestScheme) (body : Bytes) : Bytes :=
  match scheme with
  | .doubleKeccak => Keccak.digest (Keccak.digest body)
  | .ethSigned => personalHash (Keccak.digest body)

end DigestScheme

end TokenBridge.Attestation
