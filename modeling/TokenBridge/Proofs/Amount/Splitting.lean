import Mathlib.Algebra.BigOperators.Ring.List
import Mathlib.Algebra.Order.BigOperators.Group.List
import Mathlib.Algebra.Order.Group.Int
import Mathlib.Algebra.Ring.Int.Defs
import TokenBridge.Proofs.Amount.Scaling

/-!
# Detours and split transfers

Between two precisions it does not matter by which third one an amount is scaled, as long as that one
is no coarser than both (`scale_scale`): on such a way digits are dropped at most once.

What arrives of a transfer (`bridgeOf`) is a quotient times a power of ten, so how it behaves is how
rounded quotients behave. They are monotone, and a sum loses less than one unit for each term after
the first (`sum_ediv_le`, `sum_ediv_ge`). Hence **a transfer in parts brings no more than the transfer
as a whole, and less by at most one unit of the carried precision for each further part**.
-/

namespace TokenBridge.Amount

/-! ## Detours -/

/-- Where the detour is no coarser than both ends, nothing is dropped on it that is kept on the direct
way. -/
theorem scale_scale {a : Int} {f m t : Nat} (h : min f t ≤ m) :
    scale (scale a f m) m t = scale a f t := by
  have hpos (n : Nat) : (0 : Int) < 10 ^ n := Int.pow_pos (by decide)
  rcases Nat.le_total f t with hft | htf
  · have hfm : f ≤ m := by omega
    rw [scale_up hfm, scale_up hft]
    rcases Nat.le_total m t with hmt | htm
    · rw [scale_up hmt, Int.mul_assoc, ← Int.pow_add]
      congr 2
      omega
    · have hway : m - f = (t - f) + (m - t) := by omega
      rw [scale_down htm, hway, Int.pow_add, ← Int.mul_assoc]
      exact Int.mul_ediv_cancel _ (ten_pow_ne_zero _)
  · have htm : t ≤ m := by omega
    rw [scale_down htm, scale_down htf]
    rcases Nat.le_total m f with hmf | hfm
    · rw [scale_down hmf, Int.ediv_ediv_of_nonneg (Int.le_of_lt (hpos _)), ← Int.pow_add]
      congr 2
      omega
    · -- the digits that the way up adds are among those that the way down drops
      have hway : m - t = (m - f) + (f - t) := by omega
      rw [scale_up hfm, hway, Int.pow_add, Int.mul_comm a]
      exact Int.mul_ediv_mul_of_pos _ _ (hpos _)

/-! ## Rounded quotients -/

section Quotients

variable {d : Int}

/-- Two remainders make up less than two divisors. -/
theorem add_ediv_bounds (hd : 0 < d) (a b : Int) :
    a / d + b / d ≤ (a + b) / d ∧ (a + b) / d ≤ a / d + b / d + 1 := by
  have ha := Int.mul_ediv_add_emod a d
  have hb := Int.mul_ediv_add_emod b d
  have hra := Int.emod_lt_of_pos a hd
  have hrb := Int.emod_lt_of_pos b hd
  have hra' := Int.emod_nonneg a (Int.ne_of_gt hd)
  have hrb' := Int.emod_nonneg b (Int.ne_of_gt hd)
  have hsum : (a / d + b / d) * d = d * (a / d) + d * (b / d) := by
    rw [Int.add_mul, Int.mul_comm _ d, Int.mul_comm _ d]
  constructor
  · apply (Int.le_ediv_iff_mul_le hd).mpr
    omega
  · apply Int.le_of_lt_add_one
    apply (Int.ediv_lt_iff_lt_mul hd).mpr
    have htwo : (a / d + b / d + 1 + 1) * d = (a / d + b / d) * d + d + d := by
      rw [Int.add_mul, Int.add_mul, Int.one_mul]
    omega

theorem sum_ediv_le (hd : 0 < d) (amounts : List Int) :
    (amounts.map (· / d)).sum ≤ amounts.sum / d := by
  induction amounts with
  | nil => simp
  | cons a rest ih =>
    have hfirst := (add_ediv_bounds hd a rest.sum).1
    rw [List.map_cons, List.sum_cons, List.sum_cons]
    omega

/-- The first part loses nothing against the whole, and every further one less than a unit. -/
theorem sum_ediv_ge (hd : 0 < d) {amounts : List Int} (hne : amounts ≠ []) :
    amounts.sum / d ≤ (amounts.map (· / d)).sum + (amounts.length - 1) := by
  induction amounts with
  | nil => exact absurd rfl hne
  | cons a rest ih =>
    have hfirst := (add_ediv_bounds hd a rest.sum).2
    rw [List.map_cons, List.sum_cons, List.sum_cons, List.length_cons, Int.natCast_succ]
    by_cases hlast : rest = []
    · rw [hlast]
      simp
    · have hrest := ih hlast
      omega

end Quotients

/-! ## Transfers -/

/-- What arrives of an amount: it is trimmed where it starts and untrimmed where it arrives. -/
def bridgeOf (amount fromDecimals toDecimals : Value) : Except Fault Value := do
  let x ← trimOf amount fromDecimals toDecimals
  untrimOf x toDecimals

section Bridge

variable {a b : Int} {f t : Nat}

/-- What arrives is the quotient at the carried precision, in units of that precision. -/
theorem bridgeOf_eq_ok_iff {x : Value} :
    bridgeOf (.int a) (.int f) (.int t) = .ok x ↔
      a / 10 ^ (f - precision f t) ≤ maxAmount ∧
        x = .int (a / 10 ^ (f - precision f t) * 10 ^ (t - precision f t)) := by
  have huntrim := untrimOf_toValue ⟨a / 10 ^ (f - precision f t), precision f t⟩ t
  rw [untrim, scale_up (precision_le_right f t)] at huntrim
  unfold bridgeOf
  constructor
  · intro h
    obtain ⟨carried, htrim, h⟩ := bind_eq_ok_iff.mp h
    obtain ⟨hfits, rfl⟩ := trimOf_eq_ok_iff.mp htrim
    exact ⟨hfits, Except.ok.inj (h.symm.trans huntrim)⟩
  · intro h
    obtain ⟨hfits, rfl⟩ := h
    exact bind_eq_ok_iff.mpr ⟨_, trimOf_eq_ok_iff.mpr ⟨hfits, rfl⟩, huntrim⟩

/-- What is carried of an amount grows with the amount. -/
theorem carried_le_carried (h : a ≤ b) :
    a / 10 ^ (f - precision f t) ≤ b / 10 ^ (f - precision f t) :=
  Int.ediv_le_ediv (Int.pow_pos (by decide)) h

/-- What is carried at the coarser of both ends arrives as if it had been scaled directly. -/
theorem untrimOf_of_trimOf {x : Value} (hcoarse : min f t ≤ 8)
    (h : trimOf (.int a) (.int f) (.int t) = .ok x) :
    untrimOf x (.int t) = scaleOf (.int a) (.int f) (.int t) := by
  obtain ⟨-, rfl⟩ := trimOf_eq_ok_iff.mp h
  have hprecision : min f t ≤ precision f t := by
    unfold precision
    omega
  rw [scaleOf_int, ← scale_scale hprecision, scale_down (precision_le_left f t)]
  exact untrimOf_toValue ⟨_, _⟩ t

/-- What arrives grows with the amount. -/
theorem bridgeOf_mono {x : Value} (hab : a ≤ b) (h : trimOf (.int b) (.int f) (.int t) = .ok x) :
    ∃ less more : Int, bridgeOf (.int a) (.int f) (.int t) = .ok (.int less) ∧
      bridgeOf (.int b) (.int f) (.int t) = .ok (.int more) ∧ less ≤ more := by
  have hle := carried_le_carried (f := f) (t := t) hab
  have hfits := (trimOf_eq_ok_iff.mp h).1
  exact ⟨_, _, bridgeOf_eq_ok_iff.mpr ⟨Int.le_trans hle hfits, rfl⟩,
    bridgeOf_eq_ok_iff.mpr ⟨hfits, rfl⟩,
    Int.mul_le_mul_of_nonneg_right hle (Int.pow_nonneg (by decide))⟩

/-- With a sum each of its parts can be carried. -/
theorem trimOf_of_mem {amounts : List Int} {x : Value} (hnonneg : ∀ a ∈ amounts, 0 ≤ a)
    (h : trimOf (.int amounts.sum) (.int f) (.int t) = .ok x) (ha : a ∈ amounts) :
    ∃ y, trimOf (.int a) (.int f) (.int t) = .ok y := by
  have hle := carried_le_carried (f := f) (t := t) (List.single_le_sum hnonneg a ha)
  exact ⟨_, trimOf_eq_ok_iff.mpr ⟨Int.le_trans hle (trimOf_eq_ok_iff.mp h).1, rfl⟩⟩

/-- Parts bring no more than their sum, and at most one unit less for each part after the first. -/
theorem bridgeOf_sum {amounts : List Int} {x : Value} (hne : amounts ≠ [])
    (hnonneg : ∀ a ∈ amounts, 0 ≤ a)
    (h : trimOf (.int amounts.sum) (.int f) (.int t) = .ok x) :
    ∃ (parts : List Int) (whole : Int),
      amounts.mapM (fun a => bridgeOf (.int a) (.int f) (.int t)) = .ok (parts.map .int) ∧
      bridgeOf (.int amounts.sum) (.int f) (.int t) = .ok (.int whole) ∧ parts.sum ≤ whole ∧
      whole - parts.sum ≤ (amounts.length - 1) * 10 ^ (t - precision f t) := by
  have hfits := (trimOf_eq_ok_iff.mp h).1
  have hparts : ∀ a ∈ amounts, a / 10 ^ (f - precision f t) ≤ maxAmount := by
    intro a ha
    obtain ⟨y, hy⟩ := trimOf_of_mem hnonneg h ha
    exact (trimOf_eq_ok_iff.mp hy).1
  have hunit : (0 : Int) ≤ 10 ^ (t - precision f t) := Int.pow_nonneg (by decide)
  have hdivisor : (0 : Int) < 10 ^ (f - precision f t) := Int.pow_pos (by decide)
  have hle := Int.mul_le_mul_of_nonneg_right (sum_ediv_le hdivisor amounts) hunit
  have hge := Int.mul_le_mul_of_nonneg_right (sum_ediv_ge hdivisor hne) hunit
  refine ⟨amounts.map fun a => a / 10 ^ (f - precision f t) * 10 ^ (t - precision f t), _,
    (mapM_eq_ok_iff fun _ _ => bridgeOf_eq_ok_iff).mpr ⟨hparts, ?_⟩,
    bridgeOf_eq_ok_iff.mpr ⟨hfits, rfl⟩, ?_, ?_⟩
  · rw [List.map_map]
    rfl
  · rw [List.sum_map_mul_right]
    exact hle
  · rw [List.sum_map_mul_right]
    rw [Int.add_mul] at hge
    omega

end Bridge

/-- **Scaling does not depend on the way, and splitting a transfer gains nothing.** A detour over a
precision that is no coarser than both ends changes no amount, so what is carried at the coarser of
both ends arrives as if it had been scaled directly. What arrives grows with the amount. When a sum can
be carried, so can each of its parts; together they bring no more than the sum, and at most one unit of
the carried precision less for each part after the first. -/
theorem bridge_split (f t : Nat) :
    (∀ (a : Int) (m : Nat), min f t ≤ m → ∃ b c : Int,
      scaleOf (.int a) (.int f) (.int m) = .ok (.int b) ∧
      scaleOf (.int b) (.int m) (.int t) = .ok (.int c) ∧
      scaleOf (.int a) (.int f) (.int t) = .ok (.int c)) ∧
    (∀ (a : Int) (x : Value), min f t ≤ 8 → trimOf (.int a) (.int f) (.int t) = .ok x →
      untrimOf x (.int t) = scaleOf (.int a) (.int f) (.int t)) ∧
    (∀ (a b : Int) (x : Value), a ≤ b → trimOf (.int b) (.int f) (.int t) = .ok x →
      ∃ less more : Int, bridgeOf (.int a) (.int f) (.int t) = .ok (.int less) ∧
        bridgeOf (.int b) (.int f) (.int t) = .ok (.int more) ∧ less ≤ more) ∧
    (∀ (amounts : List Int) (x : Value), amounts ≠ [] → (∀ a ∈ amounts, 0 ≤ a) →
      trimOf (.int amounts.sum) (.int f) (.int t) = .ok x →
      (∀ a ∈ amounts, ∃ y, trimOf (.int a) (.int f) (.int t) = .ok y) ∧
      ∃ (parts : List Int) (whole : Int),
        amounts.mapM (fun a => bridgeOf (.int a) (.int f) (.int t)) = .ok (parts.map .int) ∧
        bridgeOf (.int amounts.sum) (.int f) (.int t) = .ok (.int whole) ∧
        parts.sum ≤ whole ∧
        whole - parts.sum ≤ (amounts.length - 1) * 10 ^ (t - min 8 (min f t))) := by
  refine ⟨?_, fun a x hcoarse h => untrimOf_of_trimOf hcoarse h, fun a b x hab h =>
    bridgeOf_mono hab h, ?_⟩
  · intro a m h
    refine ⟨_, _, scaleOf_int a f m, scaleOf_int _ m t, ?_⟩
    rw [scaleOf_int, scale_scale h]
  · intro amounts x hne hnonneg h
    exact ⟨fun a ha => trimOf_of_mem hnonneg h ha, bridgeOf_sum hne hnonneg h⟩

/-- Three transfers from eighteen decimals to nine, each of them short of a second unit of the carried
precision by the least: together they bring two units less than the transfer of their sum. On a detour
over twenty decimals a negative amount is rounded down as well. -/
theorem bridge_split_thirds :
    let third : Int := 19999999999
    (∃ b : Int, scaleOf (.int (-third)) (.int 18) (.int 20) = .ok (.int b) ∧
      scaleOf (.int b) (.int 20) (.int 9) = .ok (.int (-20))) ∧
    (∃ x, trimOf (.int third) (.int 18) (.int 6) = .ok x ∧
      untrimOf x (.int 6) = scaleOf (.int third) (.int 18) (.int 6)) ∧
    ∃ (x : Value) (parts : List Int) (whole less more : Int),
      trimOf (.int [third, third, third].sum) (.int 18) (.int 9) = .ok x ∧
      [third, third, third].mapM (fun a => bridgeOf (.int a) (.int 18) (.int 9)) =
        .ok (parts.map .int) ∧
      bridgeOf (.int [third, third, third].sum) (.int 18) (.int 9) = .ok (.int whole) ∧
      parts.sum ≤ whole ∧ whole - parts.sum ≤ 2 * 10 ∧ parts = [10, 10, 10] ∧ whole = 50 ∧
      bridgeOf (.int third) (.int 18) (.int 9) = .ok (.int less) ∧
      bridgeOf (.int [third, third, third].sum) (.int 18) (.int 9) = .ok (.int more) ∧
      less ≤ more := by
  intro third
  obtain ⟨hdetour, -, hmono, hsplit⟩ := bridge_split 18 9
  obtain ⟨b, c, hup, hdown, hdirect⟩ := hdetour (-third) 20 (by decide)
  have hrounded : c = -20 :=
    Value.int.inj (Except.ok.inj (hdirect.symm.trans (scaleOf_int (-third) 18 9)))
  have hsmall : third / 10 ^ (18 - precision 18 6) ≤ maxAmount := by decide
  have hcoarse := trimOf_eq_ok_iff.mpr ⟨hsmall, rfl⟩
  have hfits : [third, third, third].sum / 10 ^ (18 - precision 18 9) ≤ maxAmount := by decide
  have htrim := trimOf_eq_ok_iff.mpr ⟨hfits, rfl⟩
  obtain ⟨-, parts, whole, hparts, hwhole, hle, hge⟩ :=
    hsplit [third, third, third] _ (by decide) (by decide) htrim
  obtain ⟨less, more, hless, hmore, hgrows⟩ := hmono third _ _ (by decide) htrim
  have hvalues : parts.map Value.int = [10, 10, 10].map Value.int :=
    ((mapM_eq_ok_iff fun _ _ => bridgeOf_eq_ok_iff).mp hparts).2
  have hfifty : whole = 50 := Value.int.inj (bridgeOf_eq_ok_iff.mp hwhole).2
  exact ⟨⟨b, hup, hrounded ▸ hdown⟩,
    ⟨_, hcoarse, (bridge_split 18 6).2.1 _ _ (by decide) hcoarse⟩,
    _, parts, whole, less, more, htrim, hparts, hwhole, hle, hge,
    List.map_injective_iff.mpr (fun _ _ => Value.int.inj) hvalues, hfifty, hless, hmore, hgrows⟩

end TokenBridge.Amount
