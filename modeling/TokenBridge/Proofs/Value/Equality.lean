import TokenBridge.Value.Equality

/-!
# Numbers that are the same

A number may be given as an integer, a truth value, a mode or a double, and is asked for the integer
that it equals. **Such a number is the same value as every other of that integer**
(`Value.equal_of_equalInt?`), although the doubles are compared as multiples of the least positive
one and the integers are not: a double that equals an integer is the multiple that the integer is
(`Binary64.multiple_of_toInt?`).
-/

namespace TokenBridge

namespace Binary64

/-- Every exponent of a significand is at least that of the least positive double. -/
theorem magnitude_exponent_le (x : Binary64) : -1074 ≤ x.magnitude.2 := by
  unfold magnitude
  split
  · show (-1074 : Int) ≤ -1074
    omega
  · show (-1074 : Int) ≤ (x.exponentField : Int) - 1075
    omega

theorem unit_eq : unit = 2 ^ 1074 := by rw [unit]

/-- A magnitude is whole because it is shifted up, or because nothing is shifted out. -/
theorem scaled_of_whole {m e u : Nat} {q : Int} (hu : u = 2 ^ e) (hq : -(e : Int) ≤ q)
    (hwhole : 0 ≤ q ∨ m % 2 ^ (-q).toNat = 0) :
    m * 2 ^ (q + e).toNat =
      (if 0 ≤ q then m * 2 ^ q.toNat else m / 2 ^ (-q).toNat) * u := by
  subst hu
  split
  · rename_i hup
    rw [show (q + e).toNat = q.toNat + e by omega, Nat.pow_add, Nat.mul_assoc]
  · rename_i hdown
    have hdvd : m % 2 ^ (-q).toNat = 0 := by
      rcases hwhole with hup | hdvd
      · exact absurd hup hdown
      · exact hdvd
    have hsum : 2 ^ e = 2 ^ (-q).toNat * 2 ^ (q + e).toNat := by
      rw [← Nat.pow_add]
      congr 1
      omega
    rw [hsum, ← Nat.mul_assoc, Nat.div_mul_cancel (Nat.dvd_of_mod_eq_zero hdvd)]

theorem multiple_of_toInt? {x : Binary64} {n : Int} (h : x.toInt? = some n) :
    x.exponentField ≠ 2047 ∧ x.multiple = n * (unit : Int) := by
  have hq := x.magnitude_exponent_le
  unfold toInt? at h
  cases hm : x.magnitude with
  | mk m q =>
    simp only [hm] at h hq
    split at h
    · cases h
    · rename_i hfinite
      split at h
      · rename_i hwhole
        cases h
        have hsize : m * 2 ^ (q + 1074).toNat =
            (if 0 ≤ q then m * 2 ^ q.toNat else m / 2 ^ (-q).toNat) * unit :=
          scaled_of_whole (e := 1074) unit_eq hq hwhole
        refine ⟨hfinite, ?_⟩
        simp only [multiple, truncate, hm, hsize]
        split
        · rw [Int.natCast_mul, Int.neg_mul]
        · rw [Int.natCast_mul]
      · cases h

end Binary64

namespace Quantity

theorem place_of_toInt? {x : Binary64} {n : Int} (h : x.toInt? = some n) :
    (double x).place = (whole n).place := by
  obtain ⟨hfinite, hmultiple⟩ := Binary64.multiple_of_toInt? h
  have hnan : x.isNaN = false := by simp [Binary64.isNaN, hfinite]
  have hinfinite : x.isInfinite = false := by simp [Binary64.isInfinite, hfinite]
  show (if x.isNaN = true then Place.nowhere else if x.isInfinite = true then _ else _) =
    Place.point (n * Binary64.unit)
  rw [hnan, hinfinite, if_neg Bool.false_ne_true, if_neg Bool.false_ne_true, hmultiple]

theorem equal_double_of_toInt? {x : Binary64} {n : Int} (h : x.toInt? = some n) :
    (whole n).equal (double x) = true := by
  unfold equal
  rw [place_of_toInt? h]
  show (Place.point _ != .nowhere && Place.point _ == Place.point _) = true
  rw [beq_self_eq_true, Bool.and_true]
  rfl

end Quantity

namespace Value

theorem quantity?_of_int? {v : Value} {n : Int} (h : v.int? = some n) :
    v.quantity? = some (.whole n) := by
  cases v with
  | bool b | int m | mode m => cases h; rfl
  | _ => cases h

theorem quantity?_of_equalInt? {v : Value} {n : Int} (h : v.equalInt? = some n) :
    ∃ q, v.quantity? = some q ∧ (Quantity.whole n).equal q = true := by
  cases v with
  | float x => exact ⟨.double x, rfl, Quantity.equal_double_of_toInt? h⟩
  | bool b | int m | mode m => exact ⟨.whole n, quantity?_of_int? h, by simp⟩
  | _ => cases h

/-- **Two numbers that equal one integer are the same value.** -/
theorem equal_of_equalInt? {v w : Value} {n : Int} (hv : v.int? = some n)
    (hw : w.equalInt? = some n) : v.equal w = true := by
  obtain ⟨q, hq, heq⟩ := quantity?_of_equalInt? hw
  have hleaf : v.equalLeaf w = true := by
    unfold equalLeaf
    rw [quantity?_of_int? hv, hq]
    exact heq
  cases v with
  | bool b | int m | mode m => exact hleaf
  | _ => cases hv

theorem equal_of_strictInt? {v : Value} {n : Int} (h : v.strictInt? = some n) :
    (int n).equal v = true := by
  refine equal_of_equalInt? rfl ?_
  cases v with
  | int m | mode m => exact h
  | _ => cases h

end Value

end TokenBridge
