import TokenBridge.Number.Reading
import TokenBridge.Proofs.Value.Equality

/-!
# Doubles that are no number

A double that is no number is not zero or less, and not more than zero either, so a test for the
one is not a test for the other. It is the only double of which that is true: **every other double
that is not zero or less is more than zero** (`Quantity.zero_less_double_iff`).

Rounding never makes such a double, since the significand that it rounds to fits its field
(`Binary64.isNaN_ofRatio`). So among all texts that read as doubles, **only those that say `nan`
read as no number** (`Number.saysNaN_of_float?`).
-/

namespace TokenBridge

namespace Binary64

variable {negative : Bool} {exponent fraction num den digits : Nat} {x : Binary64}

/-! ## Fields -/

theorem toNat_ofFields (he : exponent < 2 ^ 11) (hf : fraction < 2 ^ 52) :
    (ofFields negative exponent fraction).bits.toNat =
      (if negative then 2 ^ 63 else 0) + exponent * 2 ^ 52 + fraction := by
  refine UInt64.toNat_ofNat_of_lt' ?_
  have hsize : UInt64.size = 2 ^ 64 := rfl
  cases negative <;> simp <;> omega

theorem exponentField_ofFields (he : exponent < 2 ^ 11) (hf : fraction < 2 ^ 52) :
    (ofFields negative exponent fraction).exponentField = exponent := by
  rw [exponentField, toNat_ofFields he hf]
  cases negative <;> simp <;> omega

theorem isNaN_ofFields (he : exponent < 2047) (hf : fraction < 2 ^ 52) :
    (ofFields negative exponent fraction).isNaN = false := by
  have hfield : (ofFields negative exponent fraction).exponentField = exponent :=
    exponentField_ofFields (by omega) hf
  have hne : exponent ≠ 2047 := by omega
  simp [isNaN, hfield, hne]

theorem isNaN_infinity : (infinity negative).isNaN = false := by
  cases negative <;> decide

theorem isNaN_zero : (zero negative).isNaN = false := by
  cases negative <;> decide

theorem isNaN_nan : nan.isNaN = true := by decide

/-! ## Rounding -/

theorem roundQuotient_le : roundQuotient num den ≤ num / den + 1 := by
  unfold roundQuotient
  simp only
  split
  · omega
  · split
    · omega
    · exact Nat.add_le_add_left (Nat.lt_succ_iff.mp (Nat.mod_lt _ (by decide))) _

theorem roundQuotient_le_of_lt {bound : Nat} (hden : 0 < den) (h : num < bound * den) :
    roundQuotient num den ≤ bound := by
  have hdiv : num / den < bound := (Nat.div_lt_iff_lt_mul hden).mpr h
  have hround : roundQuotient num den ≤ num / den + 1 := roundQuotient_le
  omega

/-- The ratio is less than `2 ^ 53` times the power of two that an exponent stands for. -/
def FitsAt (num den : Nat) (e : Int) : Prop := num * 2 ^ (-e).toNat < den * 2 ^ (53 + e.toNat)

theorem FitsAt.succ {e : Int} (h : FitsAt num den e) : FitsAt num den (e + 1) := by
  unfold FitsAt at h ⊢
  by_cases he : 0 ≤ e
  · have hdown : (-(e + 1)).toNat = (-e).toNat := by omega
    have hup : 53 + (e + 1).toNat = (53 + e.toNat) + 1 := by omega
    rw [hdown, hup, Nat.pow_succ, ← Nat.mul_assoc]
    omega
  · have hdown : (-e).toNat = (-(e + 1)).toNat + 1 := by omega
    have hup : 53 + (e + 1).toNat = 53 + e.toNat := by omega
    rw [hdown, Nat.pow_succ, ← Nat.mul_assoc] at h
    rw [hup]
    omega

theorem FitsAt.mono {e f : Int} (h : FitsAt num den e) (hef : e ≤ f) : FitsAt num den f := by
  obtain ⟨n, rfl⟩ := Int.le.dest hef
  induction n with
  | zero => simpa using h
  | succ n ih =>
    have hsum : e + ((n + 1 : Nat) : Int) = e + (n : Nat) + 1 := by omega
    rw [hsum]
    exact (ih (by omega)).succ

/-- Two numbers are less than a factor of two away from what their binary lengths say. -/
theorem fitsAt_log (hden : 0 < den) : FitsAt num den ((num.log2 : Int) - den.log2 - 52) := by
  have hnum : num < 2 ^ (num.log2 + 1) := Nat.lt_log2_self
  have hlow : 2 ^ den.log2 ≤ den := Nat.log2_self_le (Nat.ne_of_gt hden)
  generalize he : (num.log2 : Int) - den.log2 - 52 = e
  have hsum : num.log2 + 1 + (-e).toNat = den.log2 + (53 + e.toNat) := by omega
  calc num * 2 ^ (-e).toNat
      < 2 ^ (num.log2 + 1) * 2 ^ (-e).toNat := Nat.mul_lt_mul_of_pos_right hnum (Nat.two_pow_pos _)
    _ = 2 ^ den.log2 * 2 ^ (53 + e.toNat) := by rw [← Nat.pow_add, hsum, Nat.pow_add]
    _ ≤ den * 2 ^ (53 + e.toNat) := Nat.mul_le_mul_right _ hlow

/-- Where the ratio is small for its binary lengths, one exponent less does. -/
theorem FitsAt.pred {e : Int} (h : if 0 ≤ e then num < den * 2 ^ (52 + e.toNat)
    else num * 2 ^ (-e).toNat < den * 2 ^ 52) : FitsAt num den (e - 1) := by
  unfold FitsAt
  by_cases hzero : e = 0
  · subst hzero
    have h : num < den * 2 ^ 52 := h
    show num * 2 < den * 2 ^ 53
    omega
  · split at h
    · have hup : 53 + (e - 1).toNat = 52 + e.toNat := by omega
      have hdown : (-(e - 1)).toNat = 0 := by omega
      rwa [hup, hdown, Nat.pow_zero, Nat.mul_one]
    · have hup : 53 + (e - 1).toNat = 53 := by omega
      have hdown : (-(e - 1)).toNat = (-e).toNat + 1 := by omega
      rw [hup, hdown, Nat.pow_succ, ← Nat.mul_assoc]
      omega

theorem fitsAt_scaleExponent (hden : 0 < den) : FitsAt num den (scaleExponent num den) := by
  have hguess : FitsAt num den ((num.log2 : Int) - den.log2 - 52) := fitsAt_log hden
  unfold scaleExponent
  generalize (num.log2 : Int) - den.log2 - 52 = guess at hguess
  refine FitsAt.mono ?_ (Int.le_max_left _ _)
  by_cases hlow : if 0 ≤ guess then num < den * 2 ^ (52 + guess.toNat)
      else num * 2 ^ (-guess).toNat < den * 2 ^ 52
  · rw [if_pos hlow]
    exact FitsAt.pred hlow
  · rw [if_neg hlow]
    exact hguess

/-- The significand that a ratio is rounded to, before a carry. -/
theorem significand_le (hden : 0 < den) {e : Int} (h : FitsAt num den e) :
    (if 0 ≤ e then roundQuotient num (den * 2 ^ e.toNat)
      else roundQuotient (num * 2 ^ (-e).toNat) den) ≤ 2 ^ 53 := by
  unfold FitsAt at h
  split
  · rename_i hup
    refine roundQuotient_le_of_lt (Nat.mul_pos hden (Nat.two_pow_pos _)) ?_
    have hdown : (-e).toNat = 0 := by omega
    rw [hdown, Nat.pow_zero, Nat.mul_one, Nat.pow_add] at h
    rwa [Nat.mul_left_comm]
  · rename_i hdown
    refine roundQuotient_le_of_lt hden ?_
    have hup : e.toNat = 0 := by omega
    rw [hup, Nat.add_zero] at h
    rwa [Nat.mul_comm (2 ^ 53)]

/-- What a significand of 53 bits is written as. -/
theorem isNaN_ofSignificand {m : Nat} {e : Int} (hm : m < 2 ^ 53) (he : -1074 ≤ e) :
    (if m < 2 ^ 52 then ofFields negative 0 m
      else if 971 < e then infinity negative
      else ofFields negative (e + 1075).toNat (m - 2 ^ 52)).isNaN = false := by
  split
  · exact isNaN_ofFields (by decide) ‹_›
  · split
    · exact isNaN_infinity
    · exact isNaN_ofFields (by omega) (by omega)

/-- **A ratio is rounded to a number.** -/
theorem isNaN_ofRatio (hden : 0 < den) : (ofRatio negative num den).isNaN = false := by
  unfold ofRatio
  split
  · exact isNaN_zero
  · have hfits : FitsAt num den (scaleExponent num den) := fitsAt_scaleExponent hden
    have hleast : -1074 ≤ scaleExponent num den := Int.le_max_right _ _
    dsimp only
    generalize scaleExponent num den = e at hfits hleast ⊢
    have hm := significand_le hden hfits
    generalize (if 0 ≤ e then roundQuotient num (den * 2 ^ e.toNat)
      else roundQuotient (num * 2 ^ (-e).toNat) den) = m at hm ⊢
    -- a carry leaves the least significand at the next exponent
    by_cases hcarry : m = 2 ^ 53
    · simp only [hcarry, if_true]
      exact isNaN_ofSignificand (by decide) (by omega)
    · simp only [hcarry, if_false]
      exact isNaN_ofSignificand (by omega) hleast

theorem isNaN_ofDecimal {exponent : Int} : (ofDecimal negative digits exponent).isNaN = false := by
  unfold ofDecimal
  split
  · exact isNaN_zero
  · simp only
    split
    · exact isNaN_infinity
    · split
      · exact isNaN_zero
      · split
        · exact isNaN_ofRatio Nat.one_pos
        · exact isNaN_ofRatio (Nat.pow_pos (by decide))

/-! ## Signs -/

theorem magnitude_eq_zero_iff : x.magnitude.1 = 0 ↔ x.isZero = true := by
  simp only [magnitude, isZero, Bool.and_eq_true, beq_iff_eq]
  split
  · rename_i hexponent
    simp [hexponent]
  · rename_i hexponent
    simp [hexponent]

theorem multiple_pos_iff : 0 < x.multiple ↔ x.isNegative = false ∧ x.isZero = false := by
  have hsize : 0 < x.magnitude.1 * 2 ^ (x.magnitude.2 + 1074).toNat ↔ x.isZero = false := by
    rw [Nat.mul_pos_iff_of_pos_right (Nat.two_pow_pos _), Nat.pos_iff_ne_zero, ne_eq,
      magnitude_eq_zero_iff, Bool.not_eq_true]
  unfold multiple
  simp only
  generalize x.magnitude.1 * 2 ^ (x.magnitude.2 + 1074).toNat = size at hsize
  cases x.isNegative with
  | false => simpa [Int.natCast_pos] using hsize
  | true => simp

end Binary64

namespace Quantity

variable {x : Binary64}

/-- **A double is more than zero exactly if it is a number and not zero or less.** -/
theorem zero_less_double_iff :
    (whole 0).less (double x) = true ↔ x.isNaN = false ∧ x.isAtMostZero = false := by
  have hzero : (whole 0).place = .point 0 := congrArg Place.point (Int.zero_mul _)
  unfold less
  rw [hzero, place, Binary64.isAtMostZero]
  cases hnan : x.isNaN with
  | true => simp
  | false =>
    cases hinfinite : x.isInfinite with
    | true =>
      have hnonzero : x.isZero = false := by
        simp only [Binary64.isInfinite, Bool.and_eq_true, beq_iff_eq] at hinfinite
        simp [Binary64.isZero, hinfinite.1]
      cases hnegative : x.isNegative <;> simp [hnonzero]
    | false => simp [Binary64.multiple_pos_iff]

end Quantity

namespace Number

variable {cs body : List Char} {x : Binary64} {negative : Bool}

/-- A text says that it is no number: `nan` in any case, with a sign or without. -/
def SaysNaN (cs : List Char) : Prop :=
  ∃ plain, normalise cs = some plain ∧ String.ofList ((splitSign plain).2.map Char.toLower) = "nan"

theorem isNaN_of_unsigned? (h : unsigned? negative body = some x) : x.isNaN = false := by
  unfold unsigned? at h
  simp only [Option.ite_none_left_eq_some, Option.map_eq_some_iff] at h
  obtain ⟨-, e, -, rfl⟩ := h
  exact Binary64.isNaN_ofDecimal

theorem float?_of_saysNaN (h : SaysNaN cs) : float? cs = some .nan := by
  obtain ⟨plain, hplain, hword⟩ := h
  unfold float?
  rw [hplain]
  dsimp only
  rw [hword, if_neg (by decide), if_pos rfl]

theorem saysNaN_of_float? (h : float? cs = some x) (hnan : x.isNaN = true) : SaysNaN cs := by
  unfold float? at h
  cases hplain : normalise cs with
  | none =>
    rw [hplain] at h
    cases h
  | some plain =>
    rw [hplain] at h
    dsimp only at h
    refine ⟨plain, hplain, ?_⟩
    refine Decidable.byContradiction fun hword => ?_
    rw [if_neg hword] at h
    split at h
    · rw [← Option.some.inj h, Binary64.isNaN_infinity] at hnan
      cases hnan
    · rw [isNaN_of_unsigned? h] at hnan
      cases hnan

end Number

namespace Value

variable {v : Value}

/-- A value is a number that is more than zero. -/
def IsPositive (v : Value) : Prop :=
  ∃ q, v.quantity? = some q ∧ (Quantity.whole 0).less q = true

/-- A value is a double that is no number. -/
def IsNaN (v : Value) : Prop := ∃ x, v = .float x ∧ x.isNaN = true

theorem not_isPositive_of_isNaN (h : v.IsNaN) : ¬ v.IsPositive := by
  obtain ⟨x, rfl, hnan⟩ := h
  intro hpositive
  obtain ⟨q, hq, hless⟩ := hpositive
  obtain rfl := Option.some.inj hq
  rw [(Quantity.zero_less_double_iff.mp hless).1] at hnan
  cases hnan

end Value

end TokenBridge
