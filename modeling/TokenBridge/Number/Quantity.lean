import TokenBridge.Number.Arithmetic

/-!
# Quantities

Numbers of either sort, integers of any size and doubles, and what is computed with both: an integer
stays one as long as it meets integers only, and comparisons never round.
-/

namespace TokenBridge

/-- An integer or a double. -/
inductive Quantity where
  | whole (n : Int)
  | double (x : Binary64)
deriving DecidableEq, Repr

namespace Quantity

/-- Why there is no such quantity. -/
inductive Fault where
  /-- An integer beyond the largest double, where a double is needed. -/
  | tooLargeForDouble
  /-- A power beyond the largest double. -/
  | powerTooLarge
deriving DecidableEq, Repr

/-- Where a quantity lies: nowhere, at an end, or at a multiple of the least positive double. -/
inductive Place where
  | nowhere
  | bottom
  | point (multiple : Int)
  | top
deriving DecidableEq, Repr

/-- The place of a quantity. -/
def place : Quantity → Place
  | whole n => .point (n * Binary64.unit)
  | double x =>
    if x.isNaN then .nowhere
    else if x.isInfinite then if x.isNegative then .bottom else .top
    else .point x.multiple

/-- Two quantities are the same number. What is no number is not the same as anything. -/
def equal (a b : Quantity) : Bool :=
  a.place != .nowhere && a.place == b.place

/-- A quantity is less than another. -/
def less (a b : Quantity) : Bool :=
  match a.place, b.place with
  | .nowhere, _ | _, .nowhere | .top, _ | _, .bottom => false
  | .bottom, _ | _, .top => true
  | .point m, .point n => decide (m < n)

/-- The double that a quantity is used as beside a double. -/
def toDouble : Quantity → Except Fault Binary64
  | whole n => (Binary64.ofInt? n).elim (.error .tooLargeForDouble) .ok
  | double x => .ok x

/-- An operation on integers, or on doubles as soon as there is one. -/
def combine (onWhole : Int → Int → Int) (onDouble : Binary64 → Binary64 → Binary64)
    (a b : Quantity) : Except Fault Quantity :=
  match a, b with
  | whole m, whole n => .ok (.whole (onWhole m n))
  | a, b => do
    let x ← a.toDouble
    let y ← b.toDouble
    .ok (.double (onDouble x y))

/-- The difference. -/
def subtract : Quantity → Quantity → Except Fault Quantity := combine (· - ·) Binary64.subtract

/-- The product. -/
def multiply : Quantity → Quantity → Except Fault Quantity := combine (· * ·) Binary64.multiply

/-- The quotient by a quantity other than zero, rounded down. -/
def floorDivide : Quantity → Quantity → Except Fault Quantity :=
  combine Int.fdiv Binary64.floorDivide

/-- Ten to a power: an integer for an exponent that is a natural, and else a double. -/
def powerOfTen : Quantity → Except Fault Quantity
  | whole n =>
    if 0 ≤ n then .ok (.whole (10 ^ n.toNat)) else .ok (.double (.ofDecimal false 1 n))
  | double y => (Binary64.powerOfTen y).elim (.error .powerTooLarge) fun x => .ok (.double x)

/-! ## Laws -/

theorem unit_pos : (0 : Int) < Binary64.unit := Int.natCast_pos.2 Binary64.unit_pos

@[simp] theorem equal_whole (m n : Int) : equal (.whole m) (.whole n) = decide (m = n) := by
  have same : m * (Binary64.unit : Int) = n * Binary64.unit ↔ m = n :=
    Int.mul_eq_mul_right_iff (Int.ne_of_gt unit_pos)
  have places : equal (.whole m) (.whole n)
      = (Place.point (m * Binary64.unit) == Place.point (n * Binary64.unit)) := rfl
  rw [places, Bool.eq_iff_iff, beq_iff_eq, decide_eq_true_iff, Place.point.injEq, same]

@[simp] theorem less_whole (m n : Int) : less (.whole m) (.whole n) = decide (m < n) := by
  have same : m * (Binary64.unit : Int) < n * Binary64.unit ↔ m < n :=
    Int.mul_lt_mul_right unit_pos
  have places : less (.whole m) (.whole n)
      = decide (m * (Binary64.unit : Int) < n * Binary64.unit) := rfl
  rw [places, decide_eq_decide, same]

end Quantity

end TokenBridge
