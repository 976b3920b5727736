import TokenBridge.Number.Binary64

/-!
# Arithmetic on doubles

Each operation is computed on the exact values, which are whole multiples of the least positive
double, and rounded once. Powers of ten with a fraction in the exponent have no exact value; they
are products of repeated square roots of ten, taken far beyond the precision of the format.
-/

namespace TokenBridge.Binary64

/-- The least positive double is `1 / unit`, and every finite double is a multiple of it. -/
def unit : Nat := 2 ^ 1074

theorem unit_pos : 0 < unit := by decide +kernel

/-- How many times the least positive double a finite double is. -/
def multiple (x : Binary64) : Int :=
  let (m, q) := x.magnitude
  let size : Nat := m * 2 ^ (q + 1074).toNat
  if x.isNegative then -size else size

/-- The double nearest to `n / den`; of the two zeros the one with the given sign. -/
def ofFraction (negativeZero : Bool) (n : Int) (den : Nat) : Binary64 :=
  if n = 0 then zero negativeZero else ofRatio (decide (n < 0)) n.natAbs den

/-- The double nearest to an integer; none when that is beyond the largest double. -/
def ofInt? (n : Int) : Option Binary64 :=
  let x := ofFraction false n 1
  if x.isInfinite then none else some x

/-- The double with the other sign. -/
def negate (x : Binary64) : Binary64 :=
  ofFields (!x.isNegative) x.exponentField x.fractionField

/-- The sum, rounded. -/
def add (x y : Binary64) : Binary64 :=
  if x.isNaN || y.isNaN then nan
  else if x.isInfinite then
    if y.isInfinite && x.isNegative != y.isNegative then nan else x
  else if y.isInfinite then y
  else ofFraction (x.isNegative && y.isNegative) (x.multiple + y.multiple) unit

/-- The difference, rounded. -/
def subtract (x y : Binary64) : Binary64 :=
  if y.isNaN then nan else add x y.negate

/-- The product, rounded. -/
def multiply (x y : Binary64) : Binary64 :=
  let negative := x.isNegative != y.isNegative
  if x.isNaN || y.isNaN then nan
  else if x.isInfinite || y.isInfinite then
    if x.isZero || y.isZero then nan else infinity negative
  else ofFraction negative (x.multiple * y.multiple) (unit * unit)

/-- The quotient by a number other than zero, rounded. -/
def divide (x y : Binary64) : Binary64 :=
  let negative := x.isNegative != y.isNegative
  if x.isNaN || y.isNaN then nan
  else if x.isInfinite then if y.isInfinite then nan else infinity negative
  else if y.isInfinite then zero negative
  else ofRatio negative x.multiple.natAbs y.multiple.natAbs

/-- What a division toward zero leaves over, exactly; it has the sign of the dividend. -/
def remainder (x y : Binary64) : Binary64 :=
  if x.isNaN || y.isNaN || x.isInfinite then nan
  else if y.isInfinite then x
  else ofFraction x.isNegative (x.multiple.tmod y.multiple) unit

/-- The greatest whole number that is not above a double. -/
def floor (x : Binary64) : Binary64 :=
  if x.isNaN || x.isInfinite then x
  else ofFraction x.isNegative (x.multiple / unit) 1

/-- One. -/
def one : Binary64 := ofFraction false 1 1

/-- The quotient by a number other than zero, rounded down to a whole number. The remainder is taken
off first, so the quotient is all but whole; it is then moved to the whole number at hand, and a
quotient of zero has the sign of the exact one. -/
def floorDivide (x y : Binary64) : Binary64 :=
  let rest := remainder x y
  let quotient := divide (subtract x rest) y
  let crosses := !rest.isZero && !rest.isNaN && y.isNegative != rest.isNegative
  let quotient := if crosses then subtract quotient one else quotient
  if quotient.isNaN then nan
  else if quotient.isZero then zero (x.isNegative != y.isNegative)
  else
    let whole := floor quotient
    let above := subtract quotient whole
    if !above.isNaN && unit < 2 * above.multiple then add whole one else whole

/-! ## Powers of ten -/

/-- The whole part of a square root. -/
def wholeRoot (n : Nat) : Nat :=
  if _h : n < 2 then n
  else
    let r := 2 * wholeRoot (n / 4)
    if (r + 1) * (r + 1) ≤ n then r + 1 else r
termination_by n

/-- The precision of the roots of ten. -/
def rootUnit : Nat := 2 ^ 256

/-- The product of the roots `10 ^ (1 / 2 ^ i)` for the binary digits of a fraction that are set,
the first digit first; `root` is the root that the previous digit stands for. -/
def rootProduct : Nat → List Bool → Nat → Nat
  | _, [], product => product
  | root, digit :: digits, product =>
    let next := wholeRoot (root * rootUnit)
    rootProduct next digits (if digit then product * next / rootUnit else product)

/-- The first binary digits of `fraction / unit`. -/
def binaryDigits (fraction : Nat) : List Bool :=
  (List.range 128).map fun i => fraction / 2 ^ (1073 - i) % 2 == 1

/-- Ten to the power of a finite double; none when that is beyond the largest double. The product of
roots is rounded down, so half of its last place is put on top, and halfway cases go up. -/
def finitePowerOfTen (y : Binary64) : Option Binary64 :=
  let whole := y.multiple / unit
  let fraction := (y.multiple % unit).toNat
  if 400 < whole then none
  else if whole < -400 then some (zero false)
  else
    let root := if fraction = 0 then rootUnit
      else rootProduct (10 * rootUnit) (binaryDigits fraction) rootUnit
    let x := if 0 ≤ whole then ofRatio false (2 * (10 ^ whole.toNat * root) + 1) (2 * rootUnit)
      else ofRatio false (2 * root + 1) (2 * (10 ^ (-whole).toNat * rootUnit))
    if x.isInfinite then none else some x

/-- Ten to the power of a double; none when a finite power is beyond the largest double. -/
def powerOfTen (y : Binary64) : Option Binary64 :=
  if y.isNaN then some nan
  else if y.isInfinite then some (if y.isNegative then zero false else infinity false)
  else finitePowerOfTen y

/-! ## Hexadecimal text -/

/-- The text of a double with its significand in hexadecimal and its exponent in decimal. -/
def hexText (x : Binary64) : String :=
  let sign := if x.isNegative then "-" else ""
  let fraction := Nat.toDigits 16 x.fractionField
  let digits := List.replicate (13 - fraction.length) '0' ++ fraction
  let exponent : Int := if x.exponentField = 0 then -1022 else x.exponentField - 1023
  let lead := if x.exponentField = 0 then "0x0." else "0x1."
  if x.isNaN then "nan"
  else if x.isInfinite then sign ++ "inf"
  else if x.isZero then sign ++ "0x0.0p+0"
  else
    sign ++ lead ++ String.ofList digits ++ "p" ++ (if exponent < 0 then "-" else "+") ++
      toString exponent.natAbs

end TokenBridge.Binary64
