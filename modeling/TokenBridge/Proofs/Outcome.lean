import Mathlib.Data.List.Forall2

/-!
# Outcomes of chained steps

What is true of a chain of steps in `Except` in terms of its links, whatever the faults are: when the
chain succeeds, and which faults it can end in. A loop over a list is the case of as many links as
there are items.
-/

namespace TokenBridge

variable {ε α β : Type}

/-! ## Success -/

theorem bind_eq_ok_iff {x : Except ε α} {f : α → Except ε β} {b : β} :
    x >>= f = .ok b ↔ ∃ a, x = .ok a ∧ f a = .ok b := by
  cases x with
  | error fault => simp [bind, Except.bind]
  | ok a => simp [bind, Except.bind]

/-- Where each step succeeds under a condition, the loop does when all its items meet it. -/
theorem mapM_eq_ok_iff {f : α → Except ε β} {P : α → Prop} {g : α → β}
    (hf : ∀ a b, f a = .ok b ↔ P a ∧ b = g a) {items : List α} :
    ∀ {all : List β}, items.mapM f = .ok all ↔ (∀ a ∈ items, P a) ∧ all = items.map g := by
  induction items with
  | nil =>
    intro all
    rw [List.mapM_nil]
    constructor
    · intro h
      cases h
      exact ⟨fun a ha => absurd ha List.not_mem_nil, rfl⟩
    · intro h
      rw [h.2]
      rfl
  | cons a items ih =>
    intro all
    rw [List.mapM_cons, bind_eq_ok_iff, List.forall_mem_cons, List.map_cons]
    constructor
    · intro h
      obtain ⟨b, hb, h⟩ := h
      obtain ⟨rest, hrest, h⟩ := bind_eq_ok_iff.mp h
      obtain ⟨ha, rfl⟩ := (hf a b).mp hb
      obtain ⟨hitems, rfl⟩ := ih.mp hrest
      cases h
      exact ⟨⟨ha, hitems⟩, rfl⟩
    · intro h
      obtain ⟨⟨ha, hitems⟩, rfl⟩ := h
      exact ⟨g a, (hf a _).mpr ⟨ha, rfl⟩,
        bind_eq_ok_iff.mpr ⟨items.map g, ih.mpr ⟨hitems, rfl⟩, rfl⟩⟩

/-- A loop succeeds with what its step answers for one item after the other. -/
theorem mapM_eq_ok_iff_forall₂ {f : α → Except ε β} {items : List α} :
    ∀ {all : List β}, items.mapM f = .ok all ↔ List.Forall₂ (fun a b => f a = .ok b) items all := by
  induction items with
  | nil =>
    intro all
    rw [List.mapM_nil, List.forall₂_nil_left_iff]
    exact ⟨fun h => (Except.ok.inj h).symm, fun h => by rw [h]; rfl⟩
  | cons a items ih =>
    intro all
    rw [List.mapM_cons, bind_eq_ok_iff, List.forall₂_cons_left_iff]
    constructor
    · intro h
      obtain ⟨b, hb, h⟩ := h
      obtain ⟨rest, hrest, h⟩ := bind_eq_ok_iff.mp h
      cases h
      exact ⟨b, rest, hb, ih.mp hrest, rfl⟩
    · intro h
      obtain ⟨b, rest, hb, hrest, rfl⟩ := h
      exact ⟨b, hb, bind_eq_ok_iff.mpr ⟨rest, ih.mpr hrest, rfl⟩⟩

/-! ## Faults -/

/-- The outcome is no fault, or a fault that has the property. -/
def FailsOnly (P : ε → Prop) (x : Except ε α) : Prop := ∀ fault, x = .error fault → P fault

variable {P : ε → Prop}

theorem failsOnly_ok {a : α} : FailsOnly P (.ok a : Except ε α) := by
  intro fault h
  cases h

theorem failsOnly_error {fault : ε} (h : P fault) : FailsOnly P (.error fault : Except ε α) := by
  intro other ho
  cases ho
  exact h

theorem failsOnly_error_iff {fault : ε} : FailsOnly P (.error fault : Except ε α) ↔ P fault :=
  ⟨fun h => h fault rfl, failsOnly_error⟩

theorem failsOnly_bind {x : Except ε α} {f : α → Except ε β} (hx : FailsOnly P x)
    (hf : ∀ a, x = .ok a → FailsOnly P (f a)) : FailsOnly P (x >>= f) := by
  cases x with
  | error fault => exact failsOnly_error (hx fault rfl)
  | ok a => exact hf a rfl

theorem failsOnly_mapM {f : α → Except ε β} (hf : ∀ a, FailsOnly P (f a)) {items : List α} :
    FailsOnly P (items.mapM f) := by
  induction items with
  | nil => exact failsOnly_ok
  | cons a items ih =>
    rw [List.mapM_cons]
    apply failsOnly_bind (hf a)
    intro b _
    apply failsOnly_bind ih
    intro rest _
    exact failsOnly_ok

/-- A loop ends in the fault of the first item that its step refuses. -/
theorem mapM_eq_error_of_find? {f : α → Except ε β} {P : α → Prop} [DecidablePred P] {g : α → ε}
    (hok : ∀ a, P a → ∃ b, f a = .ok b) (hbad : ∀ a, ¬ P a → f a = .error (g a))
    {items : List α} {a : α} (h : items.find? (fun a => ¬ P a) = some a) :
    items.mapM f = .error (g a) := by
  induction items with
  | nil => cases h
  | cons first items ih =>
    rw [List.find?_cons] at h
    rw [List.mapM_cons]
    by_cases hfirst : P first
    · obtain ⟨b, hb⟩ := hok first hfirst
      simp only [hfirst, not_true_eq_false, decide_false] at h
      rw [hb, ih h]
      rfl
    · simp only [hfirst, not_false_eq_true, decide_true, Option.some.injEq] at h
      rw [hbad first hfirst, h]
      rfl

/-! ## Folds -/

/-- What every step keeps, a fold keeps. -/
theorem foldlM_invariant {f : β → α → Except ε β} {P : β → Prop} {items : List α}
    (hf : ∀ a ∈ items, ∀ b next, P b → f b a = .ok next → P next) :
    ∀ {b last : β}, P b → items.foldlM f b = .ok last → P last := by
  induction items with
  | nil =>
    intro b last hb h
    cases h
    exact hb
  | cons a items ih =>
    intro b last hb h
    obtain ⟨ha, hitems⟩ := List.forall_mem_cons.mp hf
    obtain ⟨next, hnext, h⟩ := bind_eq_ok_iff.mp (List.foldlM_cons.symm.trans h)
    exact ih hitems (ha b next hb hnext) h

end TokenBridge
