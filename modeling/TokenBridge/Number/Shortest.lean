import TokenBridge.Number.Binary64

/-!
# Shortest decimal text of a double

The decimal with the fewest digits that reads back to a given double, and of those the nearest. For
each digit count from one to seventeen the two neighbours of the value on that decimal grid are
compared with the interval of reals that round to it; all arithmetic is on naturals.

How the chosen digits are laid out is a `Notation`'s business: the record says which exponents are
written positionally and how an exponent is spelled.
-/

namespace TokenBridge.Number

/-- A positive decimal `digits * 10 ^ exponent`. -/
structure Decimal where
  digits : Nat
  exponent : Int
deriving DecidableEq, Repr

/-- The interval of reals that round to a positive finite double, over a common denominator, with
the value itself; the ends belong to it when the significand is even. -/
structure RoundingInterval where
  low : Nat
  value : Nat
  high : Nat
  den : Nat
  closed : Bool

/-- The rounding interval of the magnitude of a nonzero finite double: halfway to each neighbour.
The neighbour below a power of two is half as far as the one above. -/
def RoundingInterval.of (x : Binary64) : RoundingInterval :=
  let (m, q) := x.magnitude
  let below := if m = 2 ^ 52 ∧ x.exponentField ≠ 1 then 1 else 2
  let scale := if 0 ≤ q then 2 ^ q.toNat else 1
  let den := if 0 ≤ q then 4 else 4 * 2 ^ (-q).toNat
  { low := (4 * m - below) * scale, value := 4 * m * scale, high := (4 * m + 2) * scale, den,
    closed := m % 2 == 0 }

/-- Whether a decimal lies in the interval. -/
def RoundingInterval.contains (i : RoundingInterval) (d : Decimal) : Bool :=
  let num := if 0 ≤ d.exponent then d.digits * 10 ^ d.exponent.toNat * i.den else d.digits * i.den
  let unit := if 0 ≤ d.exponent then 1 else 10 ^ (-d.exponent).toNat
  if i.closed then i.low * unit ≤ num && num ≤ i.high * unit
  else i.low * unit < num && num < i.high * unit

/-- The floor of `value / 10 ^ exponent`, with what is left over and the unit it is a part of. -/
def RoundingInterval.onGrid (i : RoundingInterval) (exponent : Int) : Nat × Nat × Nat :=
  let num := if 0 ≤ exponent then i.value else i.value * 10 ^ (-exponent).toNat
  let unit := if 0 ≤ exponent then i.den * 10 ^ exponent.toNat else i.den
  (num / unit, num % unit, unit)

/-- The neighbour of the value on the grid of `10 ^ exponent` that reads back; of two the nearer,
and of two equally near the even one. -/
def RoundingInterval.neighbour? (i : RoundingInterval) (exponent : Int) : Option Decimal :=
  let (floor, rest, unit) := i.onGrid exponent
  let low : Decimal := ⟨floor, exponent⟩
  let high : Decimal := ⟨floor + 1, exponent⟩
  match 0 < floor && i.contains low, i.contains high with
  | true, true =>
    if 2 * rest < unit ∨ 2 * rest = unit ∧ floor % 2 = 0 then some low else some high
  | true, false => some low
  | false, true => some high
  | false, false => none

/-- The power of ten of the leading digit of `num / den`, sought upward from below. -/
def leadingPower (num den : Nat) : Nat → Int → Int
  | 0, k => k
  | fuel + 1, k =>
    let above := if 0 ≤ k + 1 then den * 10 ^ (k + 1).toNat ≤ num
      else den ≤ num * 10 ^ (-(k + 1)).toNat
    if above then leadingPower num den fuel (k + 1) else k

/-- The power of ten of the leading digit of the value. -/
def RoundingInterval.magnitude (i : RoundingInterval) : Int :=
  let guess := ((i.value.log2 : Int) - i.den.log2 - 1) * 30103 / 100000 - 2
  leadingPower i.value i.den 6 guess

/-- The first grid, from one digit up to seventeen, on which a neighbour reads back. -/
def RoundingInterval.search (i : RoundingInterval) (top : Int) : Nat → Nat → Option Decimal
  | _, 0 => none
  | digits, fuel + 1 =>
    match i.neighbour? (top - digits) with
    | some d => some d
    | none => i.search top (digits + 1) fuel

/-- A decimal without trailing zeros among its digits. -/
def Decimal.strip (d : Decimal) : Nat → Decimal
  | 0 => d
  | fuel + 1 =>
    if d.digits % 10 = 0 ∧ d.digits ≠ 0 then strip ⟨d.digits / 10, d.exponent + 1⟩ fuel else d

/-- The shortest decimal that reads back to a nonzero finite double. -/
def shortest (x : Binary64) : Decimal :=
  let i := RoundingInterval.of x
  match i.search i.magnitude 0 18 with
  | some d => d.strip 20
  | none => ⟨i.value / i.den, 0⟩

/-! ## Layout -/

/-- How the digits of a number are laid out: the powers of ten of the leading digit that are written
positionally, and the least number of digits of a written exponent. -/
structure Layout where
  leastPositional : Int
  greatestPositional : Int
  exponentDigits : Nat

/-- Zeros. -/
def zeros (n : Nat) : List Char := List.replicate n '0'

/-- The digits of a natural padded with zeros to a width. -/
def padded (width n : Nat) : List Char :=
  let digits := Nat.toDigits 10 n
  zeros (width - digits.length) ++ digits

/-- A decimal written under a layout. A positional number always has a digit after its point; a
number with an exponent has a point only when it has a second digit. -/
def Layout.write (layout : Layout) (d : Decimal) : List Char :=
  let digits := Nat.toDigits 10 d.digits
  let top : Int := digits.length - 1 + d.exponent
  if layout.leastPositional ≤ top ∧ top ≤ layout.greatestPositional then
    if 0 ≤ d.exponent then digits ++ zeros d.exponent.toNat ++ ['.', '0']
    else if 0 ≤ top then
      digits.take (top.toNat + 1) ++ '.' :: digits.drop (top.toNat + 1)
    else ['0', '.'] ++ zeros (-top - 1).toNat ++ digits
  else
    let mantissa := match digits with
      | first :: second :: rest => first :: '.' :: second :: rest
      | short => short
    mantissa ++ ['e', if top < 0 then '-' else '+'] ++ padded layout.exponentDigits top.natAbs

/-- Numbers are positional from `0.0001` up to sixteen digits before the point, and an exponent has
at least two digits. -/
def plainLayout : Layout := ⟨-4, 15, 2⟩

/-- The text of a double: its sign, then `inf`, `nan`, `0.0` or the shortest digits. -/
def text (x : Binary64) : String :=
  let body :=
    if x.isInfinite then "inf".toList
    else if x.isZero then "0.0".toList
    else plainLayout.write (shortest x)
  if x.isNaN then "nan"
  else String.ofList (if x.isNegative then '-' :: body else body)

end TokenBridge.Number
