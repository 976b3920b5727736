import TokenBridge.ErrorKind
import TokenBridge.Value.Equality

/-!
# Arithmetic on values

What can be computed with values of any kind. Numbers are multiplied and divided as numbers; a text,
a byte string or a sequence times a number is so many copies of it one after another.
-/

namespace TokenBridge.Value

/-- Why something cannot be computed. -/
inductive ArithmeticFault where
  /-- A value of a kind that is not computed with. -/
  | wrongKind
  /-- Numbers without a result. -/
  | quantity (fault : Quantity.Fault)
  /-- A number of copies that no index can hold. -/
  | countTooLarge
  /-- A repeated text whose length no index can hold. -/
  | textTooLong
  /-- Repeated bytes whose number no index can hold. -/
  | bytesTooLong
  /-- More copies than there is memory for. -/
  | outOfMemory
deriving DecidableEq, Repr

/-- The family of a fault. -/
def ArithmeticFault.kind : ArithmeticFault → ErrorKind
  | .wrongKind => .wrongKind
  | .outOfMemory => .outOfMemory
  | .quantity _ | .countTooLarge | .textTooLong | .bytesTooLong => .overflow

/-- The wording of a fault. -/
def ArithmeticFault.message : ArithmeticFault → String
  | .wrongKind => "the value is no number"
  | .quantity .tooLargeForDouble => "int too large to convert to float"
  | .quantity .powerTooLarge => "(34, 'Numerical result out of range')"
  | .countTooLarge => "cannot fit 'int' into an index-sized integer"
  | .textTooLong => "repeated string is too long"
  | .bytesTooLong => "repeated bytes are too long"
  | .outOfMemory => ""

/-- The result of a computation with numbers. -/
def liftQuantity : Except Quantity.Fault Quantity → Except ArithmeticFault Quantity
  | .ok q => .ok q
  | .error fault => .error (.quantity fault)

/-- A number as a value. -/
def ofQuantity : Quantity → Value
  | .whole n => .int n
  | .double x => .float x

/-- The number that a value must be. -/
def requireQuantity (v : Value) : Except ArithmeticFault Quantity :=
  v.quantity?.elim (.error .wrongKind) .ok

/-! ## Copies -/

/-- The greatest index. -/
def maxIndex : Int := 2 ^ 63 - 1

/-- The greatest size that there is memory for. -/
def maxSize : Int := 2 ^ 36

/-- So many copies one after another. A number below zero counts as none; `tooLong` is the fault of
copies that no index can count. -/
def copies {α : Type} (tooLong : ArithmeticFault) (items : List α) (count : Int) :
    Except ArithmeticFault (List α) :=
  if count < -2 ^ 63 ∨ maxIndex < count then .error .countTooLarge
  else if maxIndex < items.length * count then .error tooLong
  else if maxSize < items.length * count then .error .outOfMemory
  else .ok ((List.range (if items.isEmpty then 0 else count.toNat)).flatMap fun _ => items)

/-- So many copies of a value that can be repeated. -/
def repeated (v : Value) (count : Int) : Except ArithmeticFault Value :=
  match v with
  | .text s => (copies .textTooLong s.toList count).map fun cs => .text (String.ofList cs)
  | .bytes data => (copies .bytesTooLong data count).map .bytes
  | .prefixedEmpty => (copies .bytesTooLong ([] : Bytes) count).map .bytes
  | .buffer data => (copies .outOfMemory data count).map .buffer
  | .list items => (copies .outOfMemory items count).map .list
  | .tuple items => (copies .outOfMemory items count).map .tuple
  | _ => .error .wrongKind

/-! ## Operations -/

/-- A value times a number. -/
def times (v : Value) (factor : Quantity) : Except ArithmeticFault Value :=
  match v.quantity?, factor with
  | some q, factor => (liftQuantity (q.multiply factor)).map ofQuantity
  | none, .whole n => v.repeated n
  | none, .double _ => .error .wrongKind

/-- A value divided by a number other than zero, rounded down. -/
def dividedBy (v : Value) (divisor : Quantity) : Except ArithmeticFault Value := do
  let q ← v.requireQuantity
  (liftQuantity (q.floorDivide divisor)).map ofQuantity

/-- Ten to the power of a difference of numbers. -/
def powerOfTen (a b : Quantity) : Except ArithmeticFault Quantity :=
  liftQuantity (do Quantity.powerOfTen (← a.subtract b))

/-! ## Laws -/

@[simp] theorem quantity?_int (n : Int) : (Value.int n).quantity? = some (.whole n) := rfl

theorem powerOfTen_whole {a b : Int} (h : b ≤ a) :
    powerOfTen (.whole a) (.whole b) = .ok (.whole (10 ^ (a - b).toNat)) := by
  have : (0 : Int) ≤ a - b := by omega
  show liftQuantity (Quantity.powerOfTen (.whole (a - b))) = _
  rw [Quantity.powerOfTen, if_pos this]
  rfl

theorem times_int (m n : Int) : (Value.int m).times (.whole n) = .ok (.int (m * n)) := rfl

theorem dividedBy_int (m : Int) {n : Int} (h : 0 ≤ n) :
    (Value.int m).dividedBy (.whole n) = .ok (.int (m / n)) := by
  rw [← Int.fdiv_eq_ediv_of_nonneg m h]
  rfl

end TokenBridge.Value
