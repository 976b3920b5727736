import TokenBridge.ErrorKind
import TokenBridge.Value

/-!
# Byte strings of values

How a value of any kind is taken for a byte string where one is hashed, framed or signed: a byte
string is itself, a number stands for as many zero bytes, and a sequence of small numbers is the
bytes with these values. All other values have none.
-/

namespace TokenBridge.Value

/-- Why a value has no byte string, or no fixed-width bytes. -/
inductive ByteFault where
  /-- The value is of a kind without bytes. -/
  | wrongKind
  /-- A negative number of zero bytes. -/
  | negativeCount
  /-- A number of zero bytes that no index can hold. -/
  | countTooLarge
  /-- A number of zero bytes that no byte string can hold. -/
  | stringTooLarge
  /-- A number of zero bytes that there is no memory for. -/
  | outOfMemory
  /-- An item of a sequence that is no byte. -/
  | notAByte
  /-- A value without the operation of writing itself at a width. -/
  | notAnInteger
  /-- An integer too large for its width. -/
  | tooBig
  /-- An integer below zero. -/
  | negative
  /-- Bytes for what can only be empty. -/
  | notEmpty
deriving DecidableEq, Repr

/-- The family of a fault. -/
def ByteFault.kind : ByteFault → ErrorKind
  | .wrongKind => .wrongKind
  | .negativeCount | .notAByte | .notEmpty => .invalidValue
  | .notAnInteger => .missingMember
  | .countTooLarge | .stringTooLarge | .tooBig | .negative => .overflow
  | .outOfMemory => .outOfMemory

/-- The wording of a fault. -/
def ByteFault.message : ByteFault → String
  | .wrongKind => "the value has no bytes"
  | .negativeCount => "negative count"
  | .countTooLarge => "cannot fit 'int' into an index-sized integer"
  | .stringTooLarge => "byte string is too large"
  | .outOfMemory => ""
  | .notAByte => "bytes must be in range(0, 256)"
  | .notAnInteger => "the value is no integer"
  | .tooBig => "int too big to convert"
  | .negative => "can't convert negative int to unsigned"
  | .notEmpty => "PrefixedEmpty can only hold empty bytes"

/-- The empty bytes of an explicit zero length, made from bytes that must be empty. -/
def prefixedEmptyOf (data : Bytes) : Except ByteFault Value :=
  if data.isEmpty then .ok .prefixedEmpty else .error .notEmpty

/-- The byte that an item of a sequence is. -/
def itemByte (v : Value) : Except ByteFault UInt8 :=
  match v.int? with
  | some n => if 0 ≤ n ∧ n < 256 then .ok (UInt8.ofNat n.toNat) else .error .notAByte
  | none => .error .wrongKind

/-- So many zero bytes; the number must fit a signed index of sixty-four bits, of which the head of
a byte string takes thirty-three, and the memory that there is. -/
def zeroBytes (n : Int) : Except ByteFault Bytes :=
  if n < -2 ^ 63 ∨ 2 ^ 63 ≤ n then .error .countTooLarge
  else if n < 0 then .error .negativeCount
  else if 2 ^ 63 - 33 ≤ n then .error .stringTooLarge
  else if 2 ^ 36 < n then .error .outOfMemory
  else .ok (List.replicate n.toNat 0)

/-- The byte string that a value is taken for. -/
def toByteString (v : Value) : Except ByteFault Bytes :=
  match v.byteString?, v.items?, v.int? with
  | some data, _, _ => .ok data
  | none, some items, _ => items.mapM itemByte
  | none, none, some n => zeroBytes n
  | none, none, none =>
    match v with
    | .map [] | .view [] => .ok []
    | _ => .error .wrongKind

/-- The number of items, characters or bytes of a value that has some. -/
def length? (v : Value) : Option Nat :=
  match v with
  | .text s => some s.length
  | .map entries | .view entries => some entries.length
  | _ => (v.byteString?.map List.length).or (v.items?.map List.length)

/-- The big-endian bytes of an integer at a width. -/
def uintBytes (width : Nat) (n : Int) : Except ByteFault Bytes :=
  if n < 0 then .error .negative
  else if 256 ^ width ≤ n.toNat then .error .tooBig
  else .ok (Bytes.bigEndian width n.toNat)

/-- The big-endian bytes of a value at a width; it must be an integer. -/
def toUintBytes (width : Nat) (v : Value) : Except ByteFault Bytes :=
  match v.int? with
  | some n => uintBytes width n
  | none => .error .notAnInteger

/-! ## Laws -/

theorem uintBytes_eq_ok_iff {width : Nat} {n : Int} {data : Bytes} :
    uintBytes width n = .ok data ↔
      0 ≤ n ∧ n.toNat < 256 ^ width ∧ data = Bytes.bigEndian width n.toNat := by
  unfold uintBytes
  split
  · simp only [reduceCtorEq, false_iff]
    omega
  · split
    · simp only [reduceCtorEq, false_iff]
      omega
    · simp only [Except.ok.injEq]
      constructor
      · intro h
        exact ⟨by omega, by omega, h.symm⟩
      · intro h
        exact h.2.2.symm

end TokenBridge.Value
