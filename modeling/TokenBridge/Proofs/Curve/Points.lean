import TokenBridge.Curve.Ecdsa
import TokenBridge.Proofs.Curve.Field

/-!
# Recovered points are points

Sums and multiples are computed without a look at the curve, and the outcome is turned into
coordinates by a division. That these are coordinates of a point is one equation, which is
`Jacobian.Valid` before the division and `OnCurve` behind it: **what is recovered from a signature is
the point at infinity or a point of the curve** (`onCurve_of_recover`). The coordinates zero, which
the point at infinity has to go by, are of no point of the curve, so that nothing else goes by them
(`not_onCurve_zero`).

Each formula keeps the equation, on its own account: the proof for it is the multiple of the equation
that the polynomials differ by. The loop over the bits of a factor keeps it because its two steps do.
-/

namespace TokenBridge.Curve

/-- The coordinates are those of a point other than the one at infinity. -/
def OnCurve (x y : Nat) : Prop := y * y % fieldPrime = (x * x * x + 7) % fieldPrime

instance {x y : Nat} : Decidable (OnCurve x y) :=
  inferInstanceAs (Decidable (y * y % fieldPrime = (x * x * x + 7) % fieldPrime))

theorem onCurve_iff {x y : Nat} : OnCurve x y ↔ (y : Element) ^ 2 = (x : Element) ^ 3 + 7 := by
  rw [OnCurve, ← ZMod.natCast_eq_natCast_iff']
  push_cast
  rw [← pow_two, ← pow_three']

theorem not_onCurve_zero : ¬ OnCurve 0 0 := by decide

/-! ## Points of a coordinate -/

section Lifting

variable {x y parity : Nat}

theorem OnCurve.neg (hle : y ≤ fieldPrime) (h : OnCurve x y) : OnCurve x (fieldPrime - y) := by
  rw [onCurve_iff] at h ⊢
  rw [Nat.cast_sub hle, ZMod.natCast_self, zero_sub, neg_sq, h]

/-- What the second coordinate of a point squares to. -/
def squareAt (x : Nat) : Nat := (x * x * x + 7) % fieldPrime

/-- The power that is tried as the second coordinate. -/
def rootAt (x : Nat) : Nat := power fieldPrime (squareAt x) ((fieldPrime + 1) / 4)

theorem lift?_eq : lift? x parity =
    if rootAt x * rootAt x % fieldPrime = squareAt x then
      some (.affine x (if rootAt x % 2 = parity then rootAt x else fieldPrime - rootAt x))
    else none := rfl

theorem rootAt_iff : rootAt x * rootAt x % fieldPrime = squareAt x ↔ ∃ y, OnCurve x y := by
  constructor
  · intro h
    exact ⟨rootAt x, h⟩
  · intro h
    obtain ⟨y, hy⟩ := h
    have hsquare : (squareAt x : Element) = y * y := by
      rw [← Nat.cast_mul, ← ZMod.natCast_mod (y * y)]
      exact congrArg Nat.cast hy.symm
    have hroot := root_mul_root hsquare
    rw [← Nat.cast_mul, ZMod.natCast_eq_natCast_iff'] at hroot
    exact hroot.trans (Nat.mod_mod _ _)

/-- **A coordinate is lifted exactly when it is that of a point.** -/
theorem lift?_eq_none_iff : lift? x parity = none ↔ ¬ ∃ y, OnCurve x y := by
  rw [← rootAt_iff, lift?_eq]
  split
  · rename_i hroot
    constructor
    · intro h
      cases h
    · intro h
      exact absurd hroot h
  · rename_i hroot
    exact ⟨fun _ => hroot, fun _ => rfl⟩

theorem onCurve_of_lift? {p : Point} (h : lift? x parity = some p) :
    ∃ y, p = .affine x y ∧ OnCurve x y := by
  rw [lift?_eq] at h
  split at h
  · rename_i hroot
    cases h
    refine ⟨_, rfl, ?_⟩
    split
    · exact hroot
    · exact OnCurve.neg (power_lt prime_fieldPrime.one_lt).le hroot
  · cases h

end Lifting

namespace Jacobian

variable {a b : Jacobian}

/-- The coordinates stand for the point at infinity, or for a point of the curve. -/
def Valid (a : Jacobian) : Prop :=
  a.z = 0 ∨ a.z < fieldPrime ∧
    (a.y : Element) ^ 2 = (a.x : Element) ^ 3 + 7 * (a.z : Element) ^ 6

theorem valid_infinity : infinity.Valid := Or.inl rfl

theorem valid_ofPoint {x y : Nat} (h : OnCurve x y) : (ofPoint (.affine x y)).Valid := by
  refine Or.inr ⟨prime_fieldPrime.one_lt, ?_⟩
  have hequation := onCurve_iff.mp h
  show (y : Element) ^ 2 = (x : Element) ^ 3 + 7 * ((1 : Nat) : Element) ^ 6
  rw [Nat.cast_one, one_pow, mul_one, hequation]

theorem valid_double (h : a.Valid) : a.double.Valid := by
  unfold double
  split
  · exact valid_infinity
  · rename_i hfinite
    rcases h with hz | ⟨-, hequation⟩
    · exact absurd (Or.inl hz) hfinite
    · refine Or.inr ⟨Nat.mod_lt _ prime_fieldPrime.pos, ?_⟩
      simp only [natCast_subtract, ZMod.natCast_mod, Nat.cast_mul, Nat.cast_ofNat]
      linear_combination 64 * (a.y : Element) ^ 6 * hequation

theorem rescale_equation {x y z : Element} (h : y ^ 2 = x ^ 3 + 7 * z ^ 6) (c : Element) :
    (y * (c * c * c)) ^ 2 = (x * (c * c)) ^ 3 + 7 * (z * c) ^ 6 := by
  linear_combination c ^ 6 * h

/-- The line through two points of one scale meets the curve again. -/
theorem chord_equation {u v s t w : Element} (hs : s ^ 2 = u ^ 3 + 7 * w ^ 6)
    (ht : t ^ 2 = v ^ 3 + 7 * w ^ 6) :
    ((t - s) * (u * (v - u) ^ 2 - ((t - s) ^ 2 - ((v - u) ^ 3 + 2 * (u * (v - u) ^ 2)))) -
        s * (v - u) ^ 3) ^ 2 =
      ((t - s) ^ 2 - ((v - u) ^ 3 + 2 * (u * (v - u) ^ 2))) ^ 3 + 7 * (w * (v - u)) ^ 6 := by
  linear_combination
    ((v - u) ^ 6 + (v - u) ^ 3 * (3 * u * (v - u) ^ 2 + (v - u) ^ 3 - (t - s) ^ 2)) * hs -
      (v - u) ^ 3 * (3 * u * (v - u) ^ 2 + (v - u) ^ 3 - (t - s) ^ 2) * ht

theorem valid_add (ha : a.Valid) (hb : b.Valid) : (a.add b).Valid := by
  unfold add
  split
  · exact hb
  split
  · exact ha
  · rename_i hza hzb
    have hea := (ha.resolve_left hza).2
    have heb := (hb.resolve_left hzb).2
    dsimp only
    split
    · split
      · exact valid_double ha
      · exact valid_infinity
    · refine Or.inr ⟨Nat.mod_lt _ prime_fieldPrime.pos, ?_⟩
      simp only [natCast_subtract, ZMod.natCast_mod, Nat.cast_mul, Nat.cast_add, Nat.cast_ofNat]
      -- both points, brought to one scale
      have hs := rescale_equation hea (b.z : Element)
      have ht := rescale_equation heb (a.z : Element)
      rw [mul_comm (b.z : Element)] at ht
      linear_combination chord_equation hs ht

theorem valid_addMultiple {fuel factor : Nat} (ha : a.Valid) (hb : b.Valid) :
    (addMultiple fuel a factor b).Valid := by
  induction fuel generalizing a b factor with
  | zero => exact hb
  | succ fuel ih =>
    rw [addMultiple]
    apply ih (valid_double ha)
    split
    · exact valid_add hb ha
    · exact hb

theorem valid_multiple {factor : Nat} (h : a.Valid) : (multiple factor a).Valid :=
  valid_addMultiple h valid_infinity

/-- The division at the end leads to a point of the curve. -/
theorem onCurve_of_toPoint {x y : Nat} (h : a.Valid) (hpoint : a.toPoint = .affine x y) :
    OnCurve x y ∧ x < fieldPrime ∧ y < fieldPrime := by
  unfold toPoint at hpoint
  split at hpoint
  · cases hpoint
  · rename_i hz
    obtain ⟨hlt, hequation⟩ := h.resolve_left hz
    obtain ⟨rfl, rfl⟩ := Point.affine.inj hpoint
    refine ⟨onCurve_iff.mpr ?_, Nat.mod_lt _ prime_fieldPrime.pos,
      Nat.mod_lt _ prime_fieldPrime.pos⟩
    have hinverse := inverse_mul (natCast_ne_zero hz hlt)
    have hunit : ((inverse fieldPrime a.z : Element) * a.z) ^ 6 = 1 := by
      rw [hinverse, one_pow]
    simp only [ZMod.natCast_mod, Nat.cast_mul]
    linear_combination (inverse fieldPrime a.z : Element) ^ 6 * hequation + 7 * hunit

end Jacobian

/-! ## Recovered keys -/

section Keys

variable {z x y : Nat} {signature : Signature}

/-- A key is recovered exactly when the first part of the signature is a coordinate of a point. -/
theorem recover_eq_none_iff : recover z signature = none ↔ ¬ ∃ y, OnCurve signature.r y := by
  rw [recover, Option.map_eq_none_iff, lift?_eq_none_iff]

theorem onCurve_generator :
    OnCurve 0x79be667ef9dcbbac55a06295ce870b07029bfcdb2dce28d959f2815b16f81798
      0x483ada7726a3c4655da4fbfc0e1108a8fd17b448a68554199c47d08ffb10d4b8 := by
  decide

/-- **A key that is recovered is the point at infinity or a point of the curve.** -/
theorem onCurve_of_recover (h : recover z signature = some (.affine x y)) :
    OnCurve x y ∧ x < fieldPrime ∧ y < fieldPrime := by
  rw [recover, Option.map_eq_some_iff] at h
  obtain ⟨nonceKey, hlift, hpoint⟩ := h
  obtain ⟨w, rfl, hnonce⟩ := onCurve_of_lift? hlift
  have hmessage := Jacobian.valid_ofPoint onCurve_generator
  have hnonce := Jacobian.valid_ofPoint hnonce
  exact Jacobian.onCurve_of_toPoint (Jacobian.valid_multiple
    (Jacobian.valid_add (Jacobian.valid_multiple hmessage) (Jacobian.valid_multiple hnonce))) hpoint

end Keys

end TokenBridge.Curve
