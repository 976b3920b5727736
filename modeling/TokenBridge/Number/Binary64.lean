/-!
# Double-precision numbers

Double-precision floating-point numbers as their 64-bit patterns, with everything computed on the
exact values: the sign of a number, its integer part, and the nearest double to a ratio of naturals
or to a decimal. No machine floating-point operation is involved, so each function can be reasoned
about on naturals and integers.
-/

namespace TokenBridge

/-- A double-precision number: sign bit, eleven exponent bits, fifty-two fraction bits. -/
structure Binary64 where
  bits : UInt64
deriving DecidableEq, Repr

namespace Binary64

/-- The number with the given sign bit, exponent field and fraction field. -/
def ofFields (negative : Bool) (exponent fraction : Nat) : Binary64 :=
  ⟨UInt64.ofNat ((if negative then 2 ^ 63 else 0) + exponent * 2 ^ 52 + fraction)⟩

/-- The sign bit. -/
def isNegative (x : Binary64) : Bool :=
  2 ^ 63 ≤ x.bits.toNat

/-- The exponent field. -/
def exponentField (x : Binary64) : Nat :=
  x.bits.toNat / 2 ^ 52 % 2 ^ 11

/-- The fraction field. -/
def fractionField (x : Binary64) : Nat :=
  x.bits.toNat % 2 ^ 52

/-- The number is no number. -/
def isNaN (x : Binary64) : Bool :=
  x.exponentField == 2047 && x.fractionField != 0

/-- The number is one of the two infinities. -/
def isInfinite (x : Binary64) : Bool :=
  x.exponentField == 2047 && x.fractionField == 0

/-- The number is one of the two zeros. -/
def isZero (x : Binary64) : Bool :=
  x.exponentField == 0 && x.fractionField == 0

/-- Infinity of either sign. -/
def infinity (negative : Bool) : Binary64 := ofFields negative 2047 0

/-- The number that is no number. -/
def nan : Binary64 := ofFields false 2047 (2 ^ 51)

/-- Zero of either sign. -/
def zero (negative : Bool) : Binary64 := ofFields negative 0 0

/-- The significand `m` and the exponent `q` of a finite number, whose magnitude is `m * 2 ^ q`. -/
def magnitude (x : Binary64) : Nat × Int :=
  if x.exponentField = 0 then (x.fractionField, -1074)
  else (2 ^ 52 + x.fractionField, x.exponentField - 1075)

/-- `x ≤ 0`, which a number that is no number does not satisfy. -/
def isAtMostZero (x : Binary64) : Bool :=
  !x.isNaN && (x.isNegative || x.isZero)

/-- The integer part of a finite number, toward zero. -/
def truncate (x : Binary64) : Int :=
  let (m, q) := x.magnitude
  let whole := if 0 ≤ q then m * 2 ^ q.toNat else m / 2 ^ (-q).toNat
  if x.isNegative then -whole else whole

/-- The integer that a number is equal to, if there is one. -/
def toInt? (x : Binary64) : Option Int :=
  let (m, q) := x.magnitude
  if x.exponentField = 2047 then none
  else if 0 ≤ q ∨ m % 2 ^ (-q).toNat = 0 then some x.truncate
  else none

/-- `0 ≤ x ≤ bound`, which a number that is no number does not satisfy. -/
def isWithin (bound : Nat) (x : Binary64) : Bool :=
  x.isZero || (!x.isNegative && x.exponentField != 2047 &&
    (x.truncate < bound || x.toInt? == some (bound : Int)))

/-! ## Rounding -/

/-- The natural nearest to `num / den`, a half going to the even neighbour. -/
def roundQuotient (num den : Nat) : Nat :=
  let floor := num / den
  let rest := num % den
  if 2 * rest < den then floor
  else if den < 2 * rest then floor + 1
  else floor + floor % 2

/-- The exponent `e` for which `num / den / 2 ^ e` lies between `2 ^ 52` and `2 ^ 53`, or the least
exponent of all if that is larger. -/
def scaleExponent (num den : Nat) : Int :=
  let guess : Int := (num.log2 : Int) - den.log2 - 52
  let low := if 0 ≤ guess then num < den * 2 ^ (52 + guess.toNat)
    else num * 2 ^ (-guess).toNat < den * 2 ^ 52
  max (if low then guess - 1 else guess) (-1074)

/-- The double nearest to `num / den`, a tie going to the even significand; beyond the largest
double it is infinity. -/
def ofRatio (negative : Bool) (num den : Nat) : Binary64 :=
  if num = 0 then zero negative
  else
    let e := scaleExponent num den
    let m := if 0 ≤ e then roundQuotient num (den * 2 ^ e.toNat)
      else roundQuotient (num * 2 ^ (-e).toNat) den
    let (m, e) := if m = 2 ^ 53 then (2 ^ 52, e + 1) else (m, e)
    if m < 2 ^ 52 then ofFields negative 0 m
    else if 971 < e then infinity negative
    else ofFields negative (e + 1075).toNat (m - 2 ^ 52)

/-- The number of decimal digits of a natural, at least one. -/
def digitCount (n : Nat) : Nat :=
  (Nat.toDigits 10 n).length

/-- The double nearest to `digits * 10 ^ exponent`. Far outside the range of the format the answer
is infinity or zero and no power is computed. -/
def ofDecimal (negative : Bool) (digits : Nat) (exponent : Int) : Binary64 :=
  if digits = 0 then zero negative
  else
    let top : Int := digitCount digits + exponent
    if 400 < top then infinity negative
    else if top < -400 then zero negative
    else if 0 ≤ exponent then ofRatio negative (digits * 10 ^ exponent.toNat) 1
    else ofRatio negative digits (10 ^ (-exponent).toNat)

end Binary64

end TokenBridge
