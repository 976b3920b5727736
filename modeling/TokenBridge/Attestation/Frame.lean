import TokenBridge.Log
import TokenBridge.Number.Decimal
import TokenBridge.Value.ByteString

/-!
# Frames of attestations

An attestation is a body with the signatures of guardians over it. On the wire:

* the version (1 byte), the index of the guardian set (4 bytes), the number of signatures (1 byte);
* for each signature the guardian's index (1), `r` (32), `s` (32) and the recovery id (1);
* the body, which is whatever follows.

Reading neither orders the signatures nor removes repetitions, so that every accepted byte string is
written back as it was.
-/

namespace TokenBridge

/-- The signature of a guardian. -/
structure Attestation.GuardianSignature where
  guardianIndex : Int
  r : Bytes
  s : Bytes
  recoveryId : Int
deriving DecidableEq, Repr

/-- A body with the signatures of guardians. -/
structure Attestation where
  version : Int
  guardianSet : Int
  signatures : List Attestation.GuardianSignature
  body : Bytes
deriving DecidableEq, Repr

namespace Attestation

open Value (uintBytes)

/-- The bytes before the signatures. -/
def headerLength : Nat := 6

/-- The bytes of a signature. -/
def signatureLength : Nat := 66

/-- The bytes of a body before its payload. -/
def bodyHeaderLength : Nat := 51

/-- Why an attestation could not be read or written. -/
inductive Fault where
  /-- Fewer bytes than a header has. -/
  | headerTruncated (length : Nat)
  /-- A header that announces no signatures. -/
  | noSignatures
  /-- Fewer bytes than the announced signatures have. -/
  | signaturesTruncated (count needed length : Nat)
  /-- An attestation to write that has no signatures. -/
  | unsigned
  /-- More signatures than one byte counts. -/
  | tooManySignatures (count : Nat)
  /-- A signature whose `r` or `s` is not of thirty-two bytes. -/
  | wrongPartLength
  /-- Fewer bytes than a body's header has. -/
  | bodyTruncated (length : Nat)
  /-- An emitter's address that is not of thirty-two bytes. -/
  | wrongAddressLength
  /-- A digest to sign that is not of thirty-two bytes. -/
  | wrongDigestLength (length : Nat)
  /-- A private key that is not of thirty-two bytes. -/
  | wrongKeyLength (length : Nat)
  /-- A value that is not the name of a digest scheme. -/
  | unknownScheme (shown : String)
  /-- A field that cannot be written. -/
  | field (fault : Value.ByteFault)
  /-- An integer of too many digits for the message that would show it. -/
  | digits (fault : Number.DigitFault)
  /-- An argument that a body does not have. -/
  | unknownArgument
  /-- A value without the parts of a signature or of an attestation. -/
  | partsMissing
deriving DecidableEq, Repr

/-- The family of a fault. -/
def Fault.kind : Fault → ErrorKind
  | .headerTruncated _ | .noSignatures | .signaturesTruncated .. | .unsigned
  | .tooManySignatures _ | .wrongPartLength | .bodyTruncated _ => .malformedAttestation
  | .wrongAddressLength | .wrongDigestLength _ | .wrongKeyLength _ | .unknownScheme _ =>
    .invalidValue
  | .field fault => fault.kind
  | .digits fault => fault.kind
  | .unknownArgument => .wrongKind
  | .partsMissing => .missingMember

/-- The wording of a fault. -/
def Fault.message : Fault → String
  | .headerTruncated length => s!"VAA header truncated: {length} bytes, need {headerLength}"
  | .noSignatures => "No signatures in VAA"
  | .signaturesTruncated count needed length =>
    s!"VAA declares {count} signatures ({needed} bytes) but only {length} bytes present"
  | .unsigned => "A VAA needs at least one signature"
  | .tooManySignatures count => s!"Too many signatures: {count}"
  | .wrongPartLength => "Signature r and s must be 32 bytes each"
  | .bodyTruncated length => s!"VAA body truncated: {length} bytes, need {bodyHeaderLength}"
  | .wrongAddressLength => "emitter_address must be 32 bytes"
  | .wrongDigestLength length => s!"digest must be 32 bytes, got {length}"
  | .wrongKeyLength length => s!"private key must be 32 bytes, got {length}"
  | .unknownScheme shown => shown ++ " is not a valid DigestScheme"
  | .field fault => fault.message
  | .digits fault => fault.message
  | .unknownArgument => "the body has no such argument"
  | .partsMissing => "the value has no such part"

/-- A field's bytes, or the fault of the attestation. -/
def liftField {α : Type} : Except Value.ByteFault α → Except Fault α
  | .ok a => .ok a
  | .error fault => .error (.field fault)

/-- A text for a message, or the fault of the attestation. -/
def liftDigits {α : Type} : Except Number.DigitFault α → Except Fault α
  | .ok a => .ok a
  | .error fault => .error (.digits fault)

/-! ## Reading -/

/-- The signature in its first sixty-six bytes. -/
def readSignature (chunk : Bytes) : GuardianSignature where
  guardianIndex := (chunk.headD 0).toNat
  r := (chunk.drop 1).take 32
  s := (chunk.drop 33).take 32
  recoveryId := ((chunk.drop 65).headD 0).toNat

/-- So many signatures one after another. -/
def readSignatures : Nat → Bytes → List GuardianSignature
  | 0, _ => []
  | n + 1, data => readSignature data :: readSignatures n (data.drop signatureLength)

/-- The attestation that bytes write. -/
def parse (data : Bytes) : Except Fault Attestation :=
  if data.length < headerLength then .error (.headerTruncated data.length)
  else
    let count := ((data.drop 5).headD 0).toNat
    let needed := headerLength + count * signatureLength
    if count = 0 then .error .noSignatures
    else if data.length < needed then
      .error (.signaturesTruncated count needed data.length)
    else
      .ok {
        version := (data.headD 0).toNat
        guardianSet := Bytes.readBigEndian ((data.drop 1).take 4)
        signatures := readSignatures count (data.drop headerLength)
        body := data.drop needed }

/-- The report on an attestation that was read. -/
def readLog (x : Attestation) : List LogRecord :=
  [⟨"vaa.parser", .debug,
    s!"Parsed VAA v{x.version} gsi={x.guardianSet} sigs={x.signatures.length} " ++
      s!"body={x.body.length} bytes"⟩]

/-! ## Writing -/

/-- The bytes of a signature. Its `r` and `s` are written whatever their length. -/
def GuardianSignature.toBytes (x : GuardianSignature) : Except Value.ByteFault Bytes := do
  let index ← uintBytes 1 x.guardianIndex
  let recovery ← uintBytes 1 x.recoveryId
  .ok (index ++ x.r ++ x.s ++ recovery)

/-- The bytes of an attestation. The number of signatures and the lengths of their parts are judged
before any field is written. -/
def serialize (x : Attestation) : Except Fault Bytes :=
  if x.signatures.isEmpty then .error .unsigned
  else if 255 < x.signatures.length then .error (.tooManySignatures x.signatures.length)
  else if x.signatures.any fun sig => sig.r.length != 32 || sig.s.length != 32 then
    .error .wrongPartLength
  else liftField do
    let version ← uintBytes 1 x.version
    let guardianSet ← uintBytes 4 x.guardianSet
    let count ← uintBytes 1 x.signatures.length
    let signatures ← x.signatures.mapM GuardianSignature.toBytes
    .ok (version ++ guardianSet ++ count ++ signatures.flatten ++ x.body)

end Attestation

end TokenBridge
