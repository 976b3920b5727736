import TokenBridge.Proofs.Amount.Scaling

/-!
# There and back

A transfer trims an amount where it starts and untrims it where it arrives; the way back does the
same the other way round. Both ways carry the amount at one precision, the coarsest of the two tokens
and of what is carried at all, so the way back finds nothing to drop: **what is bridged is worth no
more than what was given, and returning it gives back all but the dust that the way there dropped**.
-/

namespace TokenBridge.Amount

/-- **Bridging there and back conserves value up to the dust at the source.** An amount that is too
large at the carried precision is refused, as out of range unless it has too many digits to say so.
Any other is carried, and untrimmed at the source it is the amount without its dust. What is released
at the destination is worth no more; trimmed for the way back it is carried as the same amount, and so
is the amount without its dust. -/
theorem trim_there_and_back (a : Int) (f t : Nat) :
    ((∃ fault, trimOf (.int a) (.int f) (.int t) = .error fault) ↔
      2 ^ 64 - 1 < a / 10 ^ (f - precision f t)) ∧
    ((∃ fault, trimOf (.int a) (.int f) (.int t) = .error fault ∧ fault.kind = .valueOutOfRange) ↔
      2 ^ 64 - 1 < a / 10 ^ (f - precision f t) ∧
        Number.IsWritable (a / 10 ^ (f - precision f t))) ∧
    (∀ fault, trimOf (.int a) (.int f) (.int t) = .error fault →
      ¬ Number.IsWritable (a / 10 ^ (f - precision f t)) → fault.kind = .invalidValue) ∧
    (a / 10 ^ (f - precision f t) ≤ 2 ^ 64 - 1 → ∃ (x : Value) (home away : Int),
      x = .trimmed (.int (a / 10 ^ (f - precision f t))) (.int (precision f t)) ∧
      trimOf (.int a) (.int f) (.int t) = .ok x ∧
      untrimOf x (.int f) = .ok (.int home) ∧ home = a - a % 10 ^ (f - precision f t) ∧
      untrimOf x (.int t) = .ok (.int away) ∧ away * 10 ^ f ≤ a * 10 ^ t ∧
      trimOf (.int away) (.int t) (.int f) = .ok x ∧
      trimOf (.int home) (.int f) (.int t) = .ok x) := by
  have hf := precision_le_left f t
  have ht := precision_le_right f t
  have hdown : scale a f (precision f t) = a / 10 ^ (f - precision f t) := scale_down hf
  rw [← hdown]
  refine ⟨?_, ?_, ?_, ?_⟩
  · constructor
    · intro h
      obtain ⟨fault, h⟩ := h
      exact (trimOf_eq_error_iff.mp ⟨fault, h, rfl⟩).1
    · intro hlarge
      obtain ⟨fault, h, -⟩ := trimOf_eq_error_iff.mpr ⟨hlarge, rfl⟩
      exact ⟨fault, h⟩
  · rw [trimOf_eq_error_iff]
    refine and_congr_right fun _ => ?_
    split
    · rename_i hwritable
      exact iff_of_true rfl hwritable
    · rename_i hlong
      exact iff_of_false (by decide) hlong
  · intro fault h hlong
    have hkind := (trimOf_eq_error_iff.mp ⟨fault, h, rfl⟩).2
    rwa [if_neg hlong] at hkind
  · intro hfits
    have huntrim (n : Int) := untrimOf_toValue ⟨scale a f (precision f t), precision f t⟩ n
    refine ⟨_, _, _, rfl, trimOf_eq_ok rfl hfits, huntrim f, scale_down_up hf, huntrim t,
      scale_through_le hf ht, ?_, trimOf_eq_ok (scale_up_down hf) hfits⟩
    -- the way back carries at the same precision
    have hback := precision_comm f t
    rw [hback] at ht ⊢
    exact trimOf_eq_ok (scale_up_down ht) (hback ▸ hfits)

/-- From eighteen decimals to six: twelve digits are dust. -/
theorem trim_there_and_back_dust :
    (1234567890123456789 : Int) / 10 ^ (18 - precision 18 6) ≤ 2 ^ 64 - 1 ∧
    ∃ x : Value, x = .trimmed (.int 1234567) (.int 6) ∧
      trimOf (.int 1234567890123456789) (.int 18) (.int 6) = .ok x ∧
      untrimOf x (.int 18) = .ok (.int 1234567000000000000) ∧
      trimOf (.int 1234567000000000000) (.int 18) (.int 6) = .ok x := by
  have hfits : (1234567890123456789 : Int) / 10 ^ (18 - precision 18 6) ≤ 2 ^ 64 - 1 := by decide
  obtain ⟨x, home, away, hx, htrim, hhome, heq, -, -, -, hagain⟩ :=
    (trim_there_and_back 1234567890123456789 18 6).2.2.2 hfits
  have hdust : home = 1234567000000000000 := by rw [heq]; decide
  subst hdust
  exact ⟨hfits, x, hx, htrim, hhome, hagain⟩

/-- The least number of too many digits is too large, but it is not refused as out of range. -/
theorem trim_there_and_back_long :
    2 ^ 64 - 1 < (Number.digitBound : Int) ∧
    ∃ fault, trimOf (.int Number.digitBound) (.int (0 : Nat)) (.int (0 : Nat)) = .error fault ∧
      fault.kind = .invalidValue := by
  have hsmall : 2 ^ 64 - 1 < 256 ^ 8 := by decide
  have hless := Number.lt_digitBound_of_lt_pow hsmall (by decide)
  have hlarge : maxAmount < (Number.digitBound : Int) := Int.ofNat_lt.mpr hless
  have hscale : scale Number.digitBound (0 : Nat) (precision 0 0) = Number.digitBound := if_pos rfl
  refine ⟨hlarge, trimOf_eq_error_iff.mpr ?_⟩
  rw [hscale, if_neg Number.not_isWritable_digitBound]
  exact ⟨hlarge, rfl⟩

end TokenBridge.Amount
