import TokenBridge.Hash.Keccak
import TokenBridge.Value.ByteString

/-!
# Account addresses

The text of an account's address. The account of a public key is the last twenty bytes of the key's
hash; its text is hexadecimal, and the case of each letter is a check digit: a letter is a capital
when the digit at its place in the hash of the lower-case text is eight or more.
-/

namespace TokenBridge.Address

/-- Why bytes have no address text. -/
inductive Fault where
  /-- An address that is not of twenty bytes. -/
  | wrongLength (length : Nat)
  /-- A value without a length. -/
  | notBytes
  /-- A value with a length that is not written in hexadecimal. -/
  | notHexadecimal
deriving DecidableEq, Repr

/-- The family of a fault. -/
def Fault.kind : Fault → ErrorKind
  | .wrongLength _ => .invalidValue
  | .notBytes => .wrongKind
  | .notHexadecimal => .missingMember

/-- The wording of a fault. -/
def Fault.message : Fault → String
  | .wrongLength length => s!"Address must be 20 bytes, got {length}"
  | .notBytes | .notHexadecimal => "the value is no address"

/-- A hexadecimal digit, a capital when the check digit is eight or more. -/
def checkedChar (c : Char) (check : Nat) : Char :=
  if 8 ≤ check then c.toUpper else c

/-- The hexadecimal digits of a byte string as numbers. -/
def nibbles (data : Bytes) : List Nat :=
  data.flatMap fun byte => [byte.toNat / 16, byte.toNat % 16]

/-- The digits of an address under a hash of their lower-case text. -/
def checkedDigits (account hash : Bytes) : List Char :=
  List.zipWith checkedChar (account.flatMap Bytes.hexByte) (nibbles hash)

/-- The hash of the lower-case digits of an address. -/
def checkHash (account : Bytes) : Bytes :=
  Keccak.digest ((account.flatMap Bytes.hexByte).map fun c => UInt8.ofNat c.toNat)

/-- The text of an account of twenty bytes. -/
def text (account : Bytes) : String :=
  String.ofList ('0' :: 'x' :: checkedDigits account (checkHash account))

/-- The text of an account, which must be of twenty bytes. -/
def checksum (account : Bytes) : Except Fault String :=
  if account.length = 20 then .ok (text account) else .error (.wrongLength account.length)

/-- The text of an account of any kind, the length of which is judged first. -/
def checksumOf (account : Value) : Except Fault String :=
  match account.length?, account.byteString? with
  | none, _ => .error .notBytes
  | some _, some data => checksum data
  | some length, none => .error (if length = 20 then .notHexadecimal else .wrongLength length)

/-- The account of a public key of sixty-four bytes. -/
def accountOfKey (key : Bytes) : Bytes := (Keccak.digest key).drop 12

/-- The address text of the public key with the given coordinates, each below `2 ^ 256`. -/
def ofCoordinates (x y : Nat) : String :=
  text (accountOfKey (Bytes.bigEndian 32 x ++ Bytes.bigEndian 32 y))

/-- The address text of the public key with coordinates of any kind. -/
def ofValues (x y : Value) : Except Value.ByteFault String := do
  let xs ← Value.toUintBytes 32 x
  let ys ← Value.toUintBytes 32 y
  .ok (text (accountOfKey (xs ++ ys)))

end TokenBridge.Address
