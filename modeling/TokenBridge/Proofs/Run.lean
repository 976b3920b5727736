/-!
# Runs

A state that calls change one after another. Where a call without an effect leaves the state as it
was, only the last call with an effect tells how the state ends up, however many calls there are
before it and after it.
-/

namespace TokenBridge

variable {ε σ α β : Type}

/-! ## The last effect -/

/-- The effect of the last call that has one. -/
def lastEffect? (after : σ → α → σ) (effect? : σ → α → Option β) (s : σ) : List α → Option β
  | [] => none
  | call :: calls => (lastEffect? after effect? (after s call) calls).or (effect? s call)

variable {after : σ → α → σ} {effect? : σ → α → Option β} {P : β → σ → Prop} {calls : List α}
  {effect : β}

theorem foldl_of_lastEffect?_eq_none (hnone : ∀ s call, effect? s call = none → after s call = s) :
    ∀ {s : σ}, lastEffect? after effect? s calls = none → calls.foldl after s = s := by
  induction calls with
  | nil => exact fun _ => rfl
  | cons call calls ih =>
    intro s h
    rw [lastEffect?, Option.or_eq_none_iff] at h
    rw [List.foldl_cons, ih h.1, hnone s call h.2]

/-- What every effect leaves in place, the last one has left in place at the end. -/
theorem foldl_of_lastEffect?_eq_some (hnone : ∀ s call, effect? s call = none → after s call = s)
    (hsome : ∀ s call effect, effect? s call = some effect → P effect (after s call)) :
    ∀ {s : σ}, lastEffect? after effect? s calls = some effect →
      P effect (calls.foldl after s) := by
  induction calls with
  | nil =>
    intro s h
    cases h
  | cons call calls ih =>
    intro s h
    rw [lastEffect?, Option.or_eq_some_iff] at h
    rw [List.foldl_cons]
    rcases h with hlater | ⟨hlater, hcall⟩
    · exact ih hlater
    · rw [foldl_of_lastEffect?_eq_none hnone hlater]
      exact hsome s call effect hcall

/-! ## Loops -/

/-- A loop of changes is one change. -/
theorem run_forM_modify (f : α → σ → σ) {items : List α} : ∀ {s : σ},
    (items.forM fun a => modify (f a) : EStateM ε σ PUnit).run s =
      .ok ⟨⟩ (items.foldl (fun s a => f a s) s) := by
  induction items with
  | nil => exact rfl
  | cons a items ih => exact ih

end TokenBridge
