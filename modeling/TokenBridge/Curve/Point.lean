/-!
# The curve secp256k1

Points of `y² = x³ + 7` over the field of `fieldPrime` elements, with addition and multiples. Sums
are computed on Jacobian coordinates, where `(x, y, z)` stands for `(x / z², y / z³)` and `z = 0`
for the point at infinity, so that a multiple needs a single division at its end.
-/

namespace TokenBridge.Curve

/-- The number of elements of the field. -/
def fieldPrime : Nat := 2 ^ 256 - 2 ^ 32 - 977

/-- The number of points of the curve, which is prime. -/
def order : Nat := 0xfffffffffffffffffffffffffffffffebaaedce6af48a03bbfd25e8cd0364141

/-- A point of the curve. -/
inductive Point where
  | infinity
  | affine (x y : Nat)
deriving DecidableEq, Repr

/-- The two coordinates of a point, zero for the point at infinity. -/
def Point.coordinates : Point → Nat × Nat
  | .infinity => (0, 0)
  | .affine x y => (x, y)

/-- The generator. -/
def generator : Point :=
  .affine 0x79be667ef9dcbbac55a06295ce870b07029bfcdb2dce28d959f2815b16f81798
    0x483ada7726a3c4655da4fbfc0e1108a8fd17b448a68554199c47d08ffb10d4b8

/-! ## Modular arithmetic -/

/-- The power of a number modulo `m`, times `acc`, over the low `fuel` bits of the exponent. -/
def powerMod (m : Nat) : Nat → Nat → Nat → Nat → Nat
  | 0, _, _, acc => acc
  | fuel + 1, base, exponent, acc =>
    powerMod m fuel (base * base % m) (exponent / 2)
      (if exponent % 2 = 1 then acc * base % m else acc)

/-- The power of a number modulo a number of at most 256 bits, for an exponent of as many. -/
def power (m base exponent : Nat) : Nat := powerMod m 256 (base % m) exponent 1

/-- The inverse modulo a prime, and zero of zero. -/
def inverse (m a : Nat) : Nat := power m a (m - 2)

/-- The difference in the field. -/
def subtract (a b : Nat) : Nat := (a + fieldPrime - b % fieldPrime) % fieldPrime

/-! ## Jacobian coordinates -/

/-- A point in Jacobian coordinates. -/
structure Jacobian where
  x : Nat
  y : Nat
  z : Nat

namespace Jacobian

/-- The point at infinity. -/
def infinity : Jacobian := ⟨0, 1, 0⟩

/-- A point in Jacobian coordinates. -/
def ofPoint : Point → Jacobian
  | .infinity => infinity
  | .affine x y => ⟨x, y, 1⟩

/-- The point that the coordinates stand for. -/
def toPoint (a : Jacobian) : Point :=
  if a.z = 0 then .infinity
  else
    let inv := inverse fieldPrime a.z
    let inv2 := inv * inv % fieldPrime
    .affine (a.x * inv2 % fieldPrime) (a.y * (inv2 * inv % fieldPrime) % fieldPrime)

/-- Twice a point. -/
def double (a : Jacobian) : Jacobian :=
  if a.z = 0 ∨ a.y = 0 then infinity
  else
    let yy := a.y * a.y % fieldPrime
    let s := 4 * a.x * yy % fieldPrime
    let m := 3 * a.x * a.x % fieldPrime
    let x := subtract (m * m) (2 * s)
    ⟨x, subtract (m * subtract s x) (8 * yy * yy), 2 * a.y * a.z % fieldPrime⟩

/-- The sum of two points. -/
def add (a b : Jacobian) : Jacobian :=
  if a.z = 0 then b
  else if b.z = 0 then a
  else
    let za := a.z * a.z % fieldPrime
    let zb := b.z * b.z % fieldPrime
    let ua := a.x * zb % fieldPrime
    let ub := b.x * za % fieldPrime
    let sa := a.y * (zb * b.z % fieldPrime) % fieldPrime
    let sb := b.y * (za * a.z % fieldPrime) % fieldPrime
    if ua = ub then if sa = sb then double a else infinity
    else
      let h := subtract ub ua
      let r := subtract sb sa
      let hh := h * h % fieldPrime
      let hhh := hh * h % fieldPrime
      let v := ua * hh % fieldPrime
      let x := subtract (r * r) (hhh + 2 * v)
      ⟨x, subtract (r * subtract v x) (sa * hhh), a.z * b.z % fieldPrime * h % fieldPrime⟩

/-- A sum and a multiple of a point, over the low `fuel` bits of the factor. -/
def addMultiple : Nat → Jacobian → Nat → Jacobian → Jacobian
  | 0, _, _, sum => sum
  | fuel + 1, a, factor, sum =>
    addMultiple fuel (double a) (factor / 2) (if factor % 2 = 1 then add sum a else sum)

/-- A multiple of a point; the factor counts modulo the order of the curve. -/
def multiple (factor : Nat) (a : Jacobian) : Jacobian :=
  addMultiple 256 a (factor % order) infinity

end Jacobian

namespace Point

/-- The sum of two points. -/
def add (p q : Point) : Point := (Jacobian.add (.ofPoint p) (.ofPoint q)).toPoint

/-- A multiple of a point. -/
def multiple (factor : Nat) (p : Point) : Point :=
  (Jacobian.multiple factor (.ofPoint p)).toPoint

end Point

/-- The point with the given first coordinate whose second coordinate has the given parity, if there
is one. The field has a square root by a power, since its size is three modulo four. -/
def lift? (x parity : Nat) : Option Point :=
  let square := (x * x * x + 7) % fieldPrime
  let root := power fieldPrime square ((fieldPrime + 1) / 4)
  let y := if root % 2 = parity then root else fieldPrime - root
  if root * root % fieldPrime = square then some (.affine x y) else none

end TokenBridge.Curve
