import TokenBridge.Proofs.Layout.Writing

/-!
# Whole inputs

The reader and the writer are recursions over the parts of a schema; what a caller sees is `encode`,
`decode` and `deserialize`. All three refuse a schema that cannot be used, and the last two turn
what is left of the input into a count of bytes.

That count says what it should because **the reader only moves forward** (`Schema.read_suffix`):
what is left is the end of what there was. So an input that is taken up whole is one of which
nothing is left, and not one whose count happens to be its length.
-/

namespace TokenBridge.Layout

namespace Schema

variable {window rest : Bytes} {v : Value}

/-! ## The reader moves forward -/

theorem readFields_suffix {fields : List (String × Schema)}
    (ih : ∀ field ∈ fields, ∀ {window rest : Bytes} {v : Value},
      field.2.read window = .ok (v, rest) → rest <:+ window) :
    ∀ {window rest : Bytes} {entries : List (String × Value)},
      readFields fields window = .ok (entries, rest) → rest <:+ window := by
  induction fields with
  | nil =>
    intro window rest entries h
    obtain ⟨-, rfl⟩ := readFields_nil_eq_ok_iff.mp h
    exact List.suffix_refl _
  | cons field fields ihf =>
    obtain ⟨name, s⟩ := field
    have ih' := fun field hf => @ih field (List.mem_cons_of_mem _ hf)
    intro window rest entries h
    obtain ⟨u, mid, tail, hu, hf⟩ := parts_of_readFields_cons h
    exact (ihf ih' hf).trans (ih (name, s) List.mem_cons_self hu)

theorem Run.suffix {element : Schema} {items : List Value}
    (ih : ∀ {window rest : Bytes} {v : Value},
      element.read window = .ok (v, rest) → rest <:+ window)
    (h : Run (fun w => element.read w) window items rest) : rest <:+ window := by
  induction h with
  | nil => exact List.suffix_refl _
  | cons hv _ ihr => exact ihr.trans (ih hv)

/-- **The reader moves forward**: what it leaves is the end of its window. -/
theorem read_suffix {s : Schema} :
    ∀ {window rest : Bytes} {v : Value}, s.read window = .ok (v, rest) → rest <:+ window := by
  induction s using Schema.induction with
  | uint word =>
    intro window rest v h
    obtain ⟨n, head, -, rfl, -⟩ := read_uint_eq_ok_iff.mp h
    exact List.suffix_append _ _
  | fixed size =>
    intro window rest v h
    obtain ⟨data, -, rfl, -⟩ := read_fixed_eq_ok_iff.mp h
    exact List.suffix_append _ _
  | magic data =>
    intro window rest v h
    obtain ⟨rfl, -⟩ := read_magic_eq_ok_iff.mp h
    exact List.suffix_append _ _
  | nothing =>
    intro window rest v h
    obtain ⟨rfl, -⟩ := read_nothing_eq_ok_iff.mp h
    exact List.suffix_refl _
  | struct fields ih =>
    intro window rest v h
    obtain ⟨entries, hf, -, -⟩ := read_struct_eq_ok_iff.mp h
    exact readFields_suffix ih hf
  | union tag arms iht iha =>
    intro window rest v h
    obtain ⟨t, mid, arm, payload, ht, -, harm, hs, -⟩ := read_union_eq_ok_iff.mp h
    exact (iha arm (List.mem_of_find?_eq_some harm) hs).trans (iht ht)
  | sequence length element ih =>
    intro window rest v h
    cases length with
    | none =>
      obtain ⟨items, -, hrun, -, -⟩ := read_run_eq_ok_iff.mp h
      exact hrun.suffix ih
    | some length =>
      obtain ⟨head, mid, items, -, rfl, hrun, -⟩ := read_counted_eq_ok_iff.mp h
      exact (hrun.suffix ih).trans (List.suffix_append _ _)
  | raw length omitIfEmpty =>
    intro window rest v h
    cases length with
    | none =>
      obtain ⟨rfl, -⟩ := read_greedy_eq_ok_iff.mp h
      exact List.nil_suffix
    | some length =>
      rcases read_raw_eq_ok_iff.mp h with ⟨-, rfl, rfl, -⟩ | ⟨head, inner, -, rfl, -⟩
      · exact List.suffix_refl _
      · exact List.suffix_append _ _
  | embedded length layout omitIfEmpty ih =>
    intro window rest v h
    cases length with
    | none =>
      obtain ⟨rfl, -⟩ := read_greedyEmbedded_eq_ok_iff.mp h
      exact List.nil_suffix
    | some length =>
      rcases read_embedded_eq_ok_iff.mp h with ⟨-, rfl, rfl, -⟩ | ⟨head, inner, -, rfl, -⟩
      · exact List.suffix_refl _
      · exact List.suffix_append _ _
  | custom transform base ih =>
    intro window rest v h
    obtain ⟨raw, hb, -⟩ := read_custom_eq_ok_iff.mp h
    exact ih hb
  | malformedMagic shown => intro window rest v h; exact absurd h read_malformedMagic_ne_ok
  | malformed shown => intro window rest v h; exact absurd h read_malformed_ne_ok

end Schema

/-! ## What a caller sees -/

variable {s : Schema} {v : Value} {data : Bytes}

theorem encode_eq_ok_iff : encode s v = .ok data ↔ s.Admissible ∧ s.write v = .ok data := by
  unfold encode Schema.Admissible
  cases s.defect? with
  | some cause => simp
  | none => simp

theorem decode_eq_ok_iff {n : Nat} :
    decode s data = .ok (v, n) ↔
      s.Admissible ∧ ∃ rest, s.read data = .ok (v, rest) ∧ n = data.length - rest.length := by
  unfold decode Schema.Admissible
  cases s.defect? with
  | some cause => simp
  | none =>
    simp only [true_and, bind_eq_ok_iff, Prod.exists, Except.ok.injEq, Prod.mk.injEq]
    constructor
    · rintro ⟨u, rest, hr, rfl, rfl⟩
      exact ⟨rest, hr, rfl⟩
    · rintro ⟨rest, hr, rfl⟩
      exact ⟨v, rest, hr, rfl, rfl⟩

theorem decode_eq_error_iff {fault : Fault} (hs : s.Admissible) :
    decode s data = .error fault ↔ s.read data = .error fault := by
  unfold decode
  rw [hs]
  cases s.read data with
  | ok answer => simp [bind, Except.bind]
  | error other => simp [bind, Except.bind]

/-- What is read of an input is its first bytes, as many as are counted. -/
theorem decode_take {n : Nat} (h : decode s data = .ok (v, n)) :
    n ≤ data.length ∧ s.read data = .ok (v, data.drop n) := by
  obtain ⟨-, rest, hr, rfl⟩ := decode_eq_ok_iff.mp h
  obtain ⟨head, rfl⟩ := Schema.read_suffix hr
  exact ⟨by simp, by simpa using hr⟩

/-- An input is taken up whole when nothing is left of it. -/
theorem deserialize_eq_ok_iff :
    deserialize s data = .ok v ↔ s.Admissible ∧ s.read data = .ok (v, []) := by
  simp only [deserialize, bind_eq_ok_iff, Prod.exists]
  constructor
  · rintro ⟨u, n, hd, h⟩
    obtain ⟨hs, rest, hr, rfl⟩ := decode_eq_ok_iff.mp hd
    obtain ⟨head, rfl⟩ := Schema.read_suffix hr
    split at h
    · rename_i hlen
      cases h
      simp only [List.length_append, Nat.add_sub_cancel] at hlen
      obtain rfl : rest = [] := List.length_eq_zero_iff.mp (by omega)
      exact ⟨hs, hr⟩
    · exact absurd h fail_ne_ok
  · rintro ⟨hs, hr⟩
    exact ⟨v, data.length, decode_eq_ok_iff.mpr ⟨hs, [], hr, by simp⟩, by simp⟩

end TokenBridge.Layout
