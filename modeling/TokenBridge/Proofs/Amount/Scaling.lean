import TokenBridge.Amount
import TokenBridge.Proofs.Outcome

/-!
# Scaling of integers

Amounts and numbers of decimals are values of any kind. On integers scaling, trimming and untrimming
are the plain functions `scale`, `trim` and `untrim` (`scaleOf_int`, `trimOf_int`,
`untrimOf_toValue`), and the rest of the file is about those.

Scaling down divides and rounds down, scaling up multiplies. **What was scaled up comes back**
(`scale_up_down`), and what was scaled down comes back without its remainder (`scale_down_up`); a
second time there is no remainder left to lose.
-/

namespace TokenBridge

/-- A trimmed amount as a value. -/
def TrimmedAmount.toValue (x : TrimmedAmount) : Value := .trimmed (.int x.amount) (.int x.decimals)

namespace Amount

/-! ## Agreement on integers -/

theorem smaller_int (a b : Int) : smaller (.int a) (.int b) = .ok (.int (min a b)) := by
  by_cases h : b < a
  · simp [smaller, requireQuantity, bind, Except.bind, h, Int.min_eq_right (Int.le_of_lt h)]
  · simp [smaller, requireQuantity, bind, Except.bind, h, Int.min_eq_left (Int.not_lt.mp h)]

theorem trimOf_int (amount fromDecimals toDecimals : Int) :
    trimOf (.int amount) (.int fromDecimals) (.int toDecimals) =
      (trim amount fromDecimals toDecimals).map TrimmedAmount.toValue := by
  have hmin : min (min maxDecimals fromDecimals) toDecimals =
      min maxDecimals (min fromDecimals toDecimals) := Int.min_assoc ..
  simp only [trimOf, smaller_int, hmin, scaleOf_int, requireQuantity, Value.quantity?_int,
    Quantity.less_whole, decide_eq_true_eq, bind, Except.bind, trim]
  split
  · rw [Value.printed_int]
    rfl
  · rfl

theorem untrimOf_toValue (x : TrimmedAmount) (toDecimals : Int) :
    untrimOf x.toValue (.int toDecimals) = .ok (.int (untrim x toDecimals)) := by
  simp only [untrimOf, TrimmedAmount.toValue, requireParts, bind, Except.bind]
  exact scaleOf_int _ _ _

/-! ## Up and down -/

section Scale

variable {a : Int} {low high : Nat}

theorem scale_down (h : low ≤ high) : scale a high low = a / 10 ^ (high - low) := by
  unfold scale
  by_cases same : (high : Int) = low
  · have hzero : high - low = 0 := by omega
    simp [same, hzero]
  · rw [if_neg same, if_pos (by omega), Int.toNat_sub]

theorem scale_up (h : low ≤ high) : scale a low high = a * 10 ^ (high - low) := by
  unfold scale
  by_cases same : (low : Int) = high
  · have hzero : high - low = 0 := by omega
    simp [same, hzero]
  · rw [if_neg same, if_neg (by omega), Int.toNat_sub]

theorem ten_pow_ne_zero (n : Nat) : (10 : Int) ^ n ≠ 0 :=
  Int.ne_of_gt (Int.pow_pos (by decide))

/-- What was scaled up comes back. -/
theorem scale_up_down (h : low ≤ high) : scale (scale a low high) high low = a := by
  rw [scale_up h, scale_down h]
  exact Int.mul_ediv_cancel a (ten_pow_ne_zero _)

/-- What was scaled down comes back without its remainder. -/
theorem scale_down_up (h : low ≤ high) :
    scale (scale a high low) low high = a - a % 10 ^ (high - low) := by
  rw [scale_down h, scale_up h]
  have hdiv := Int.mul_ediv_add_emod a (10 ^ (high - low))
  rw [Int.mul_comm] at hdiv
  omega

end Scale

/-- Over a coarser precision, which both numbers of decimals are above, nothing is gained: at a common
precision the amount that comes out is no more than the one that went in. -/
theorem scale_through_le {a : Int} {low f t : Nat} (hf : low ≤ f) (ht : low ≤ t) :
    scale (scale a f low) low t * 10 ^ f ≤ a * 10 ^ t := by
  have hpow : (10 : Int) ^ (t - low) * 10 ^ f = 10 ^ (f - low) * 10 ^ t := by
    rw [← Int.pow_add, ← Int.pow_add]
    congr 1
    omega
  calc scale (scale a f low) low t * 10 ^ f
      = a / 10 ^ (f - low) * 10 ^ (f - low) * 10 ^ t := by
        rw [scale_down hf, scale_up ht, Int.mul_assoc, hpow, Int.mul_assoc]
    _ ≤ a * 10 ^ t :=
        Int.mul_le_mul_of_nonneg_right (Int.ediv_mul_le a (ten_pow_ne_zero _))
          (Int.pow_nonneg (by decide))

/-! ## Trimming -/

/-- The precision at which an amount is carried between two numbers of decimals: the coarser of the
two, and no finer than what is carried at all. -/
def precision (f t : Nat) : Nat := min 8 (min f t)

theorem precision_le_left (f t : Nat) : precision f t ≤ f := by
  unfold precision
  omega

theorem precision_comm (f t : Nat) : precision f t = precision t f := by
  unfold precision
  omega

theorem precision_le_right (f t : Nat) : precision f t ≤ t := by
  rw [precision_comm]
  exact precision_le_left t f

section Trim

variable {a carried : Int} {f t : Nat}

theorem trimOf_natCast :
    trimOf (.int a) (.int f) (.int t) =
      if maxAmount < scale a f (precision f t) then
        .error (.trimmedTooLarge (Number.decimal (scale a f (precision f t))))
      else .ok (.trimmed (.int (scale a f (precision f t))) (.int (precision f t))) := by
  have hcarried : min maxDecimals (min (f : Int) t) = precision f t := by
    unfold maxDecimals precision
    omega
  rw [trimOf_int]
  simp only [trim, hcarried]
  split
  · rfl
  · rfl

/-- An amount that is not too large at the carried precision is carried. -/
theorem trimOf_eq_ok (hscale : scale a f (precision f t) = carried) (hfits : carried ≤ maxAmount) :
    trimOf (.int a) (.int f) (.int t) = .ok (.trimmed (.int carried) (.int (precision f t))) := by
  rw [trimOf_natCast, hscale, if_neg (Int.not_lt.mpr hfits)]

/-- An amount is carried exactly when it is not too large at the carried precision. -/
theorem trimOf_eq_ok_iff {x : Value} :
    trimOf (.int a) (.int f) (.int t) = .ok x ↔
      a / 10 ^ (f - precision f t) ≤ maxAmount ∧
        x = .trimmed (.int (a / 10 ^ (f - precision f t))) (.int (precision f t)) := by
  rw [trimOf_natCast, scale_down (precision_le_left f t)]
  constructor
  · intro h
    split at h
    · cases h
    · rename_i hfits
      cases h
      exact ⟨Int.not_lt.mp hfits, rfl⟩
  · intro h
    rw [if_neg (Int.not_lt.mpr h.1), h.2]

/-- An amount is refused exactly when it is too large at the carried precision, and as out of range
exactly when it can also be shown. -/
theorem trimOf_eq_error_iff {kind : ErrorKind} :
    (∃ fault, trimOf (.int a) (.int f) (.int t) = .error fault ∧ fault.kind = kind) ↔
      maxAmount < scale a f (precision f t) ∧
        kind = if Number.IsWritable (scale a f (precision f t)) then .valueOutOfRange
          else .invalidValue := by
  have hkind : (Fault.trimmedTooLarge (Number.decimal (scale a f (precision f t)))).kind =
      if Number.IsWritable (scale a f (precision f t)) then .valueOutOfRange else .invalidValue :=
    Number.kindShowing_decimal
  rw [trimOf_natCast]
  constructor
  · intro hfault
    obtain ⟨fault, h, rfl⟩ := hfault
    by_cases hlarge : maxAmount < scale a f (precision f t)
    · rw [if_pos hlarge] at h
      cases h
      exact ⟨hlarge, hkind⟩
    · rw [if_neg hlarge] at h
      cases h
  · intro h
    obtain ⟨hlarge, rfl⟩ := h
    exact ⟨_, if_pos hlarge, hkind⟩

end Trim

end Amount

end TokenBridge
