import TokenBridge.Proofs.Layout.Writing

/-!
# Canonical schemas

Under a canonical schema an accepted input is the encoding of the value it is read to: **what is
read is written back byte for byte** (`Schema.write_of_read`). So there is one input for each value
that is ever read, and nothing of an input is lost on the way, be it the length zero of an empty
payload, the absence of a trailing field, or the bytes that an ended run of elements left to its
neighbour.

Three things can break this, and the predicate excludes them where they stand in the schema:

- two fields, or two arms, of one name, since a value is addressed by name;
- a transform that does not undo itself on what its base reads;
- a layout in a window that may be absent. A layout may read an empty content to plain empty bytes,
  and then the explicit length zero and the absent window have one value.

The tag of a union is an integer, as a union is meant to have it: another schema may read a value
equal to the number of an arm from bytes that the number is not written as.

Where greedy nodes stand does not matter: they take what is left, and writing it back in place puts
it where it was.
-/

namespace TokenBridge.Layout

namespace Schema

mutual

/-- What is read under the schema is written back as it was. -/
def Canonical : Schema → Prop
  | .uint _ | .fixed _ | .magic _ | .nothing | .malformedMagic _ | .malformed _ => True
  | .struct fields => (valueNames fields).Nodup ∧ FieldsCanonical fields
  | .union tag arms => tag.isInteger = true ∧ (arms.map (·.2.1)).Nodup ∧ ArmsCanonical arms
  | .sequence _ element => Canonical element
  | .bytes _ none _ => True
  | .bytes length (some layout) omitIfEmpty =>
    (length.isSome = true → omitIfEmpty = false) ∧ Canonical layout
  | .custom transform base =>
    Canonical base ∧ ∀ window raw rest v, base.read window = .ok (raw, rest) →
      transform.decode raw = .ok v → transform.encode v = .ok raw

/-- Every field has a canonical schema. -/
def FieldsCanonical : List (String × Schema) → Prop
  | [] => True
  | (_, s) :: fields => Canonical s ∧ FieldsCanonical fields

/-- Every arm has a canonical payload. -/
def ArmsCanonical : List (Int × String × Schema) → Prop
  | [] => True
  | (_, _, s) :: arms => Canonical s ∧ ArmsCanonical arms

end

theorem fieldsCanonical_iff {fields : List (String × Schema)} :
    FieldsCanonical fields ↔ ∀ field ∈ fields, field.2.Canonical := by
  induction fields with
  | nil => simp [FieldsCanonical]
  | cons field fields ih => simp [FieldsCanonical, ih]

theorem armsCanonical_iff {arms : List (Int × String × Schema)} :
    ArmsCanonical arms ↔ ∀ arm ∈ arms, arm.2.2.Canonical := by
  induction arms with
  | nil => simp [ArmsCanonical]
  | cons arm arms ih => simp [ArmsCanonical, ih]

/-! ## Written back -/

/-- What is read to a value is the bytes of the value before the rest. -/
def WritesBack (s : Schema) : Prop :=
  ∀ {window rest : Bytes} {v : Value}, s.read window = .ok (v, rest) →
    ∃ data, s.write v = .ok data ∧ window = data ++ rest

theorem writeFields_of_readFields (all : List (String × Value)) {fields : List (String × Schema)}
    (ih : ∀ field ∈ fields, field.2.WritesBack) :
    ∀ {window rest : Bytes} {entries : List (String × Value)},
      readFields fields window = .ok (entries, rest) →
      (∀ entry ∈ entries, entry.1 ≠ "" ∧ all.lookup entry.1 = some entry.2) →
      ∃ data, writeFields fields all = .ok data ∧ window = data ++ rest := by
  induction fields with
  | nil =>
    intro window rest entries h _
    obtain ⟨-, rfl⟩ := readFields_nil_eq_ok_iff.mp h
    exact ⟨[], writeFields_nil_eq_ok_iff.mpr rfl, rfl⟩
  | cons field fields ihf =>
    obtain ⟨name, s⟩ := field
    intro window rest entries h hall
    have hs : s.WritesBack := ih (name, s) List.mem_cons_self
    have ih' : ∀ field ∈ fields, field.2.WritesBack :=
      fun field hf => ih field (List.mem_cons_of_mem _ hf)
    cases hm : s.isMagic with
    | true =>
      obtain ⟨u, mid, hu, hf⟩ := (readFields_magic_eq_ok_iff hm).mp h
      obtain ⟨head, hw, rfl⟩ := hs hu
      obtain ⟨tail, ht, rfl⟩ := ihf ih' hf hall
      rw [write_of_isMagic hm u .null] at hw
      exact ⟨head ++ tail, (writeFields_magic_eq_ok_iff hm).mpr ⟨head, tail, hw, ht, rfl⟩,
        (List.append_assoc ..).symm⟩
    | false =>
      obtain ⟨u, mid, left, hu, hf, rfl⟩ := (readFields_value_eq_ok_iff hm).mp h
      obtain ⟨hname, hlook⟩ := hall (name, u) List.mem_cons_self
      obtain ⟨head, hw, rfl⟩ := hs hu
      obtain ⟨tail, ht, rfl⟩ := ihf ih' hf fun entry he => hall entry (List.mem_cons_of_mem _ he)
      refine ⟨head ++ tail, (writeFields_value_eq_ok_iff hm hname).mpr ⟨head, tail, ?_, ht, rfl⟩,
        (List.append_assoc ..).symm⟩
      rw [hlook]
      exact hw

theorem writeItems_of_run {element : Schema} (ih : element.WritesBack) :
    ∀ {window rest : Bytes} {items : List Value},
      Run (fun w => element.read w) window items rest →
      ∃ data, writeItems (fun item => element.write item) items = .ok data ∧
        window = data ++ rest := by
  intro window rest items h
  induction h with
  | nil => exact ⟨[], writeItems_nil_eq_ok_iff.mpr rfl, rfl⟩
  | cons hv _ ihr =>
    obtain ⟨head, hw, rfl⟩ := ih hv
    obtain ⟨tail, ht, rfl⟩ := ihr
    exact ⟨head ++ tail, writeItems_cons_eq_ok_iff.mpr ⟨head, tail, hw, ht, rfl⟩,
      (List.append_assoc ..).symm⟩

/-- The value of a content without a layout is its bytes, and it is plain empty only where no length
was read. -/
theorem byteString?_rawContent (prefixed : Bool) (content : Bytes) :
    (rawContent prefixed content).byteString? = some content := by
  cases content <;> cases prefixed <;> rfl

theorem isPlainEmpty_rawContent (content : Bytes) :
    (rawContent true content).isPlainEmpty = false := by
  cases content <;> rfl

/-- **What is read under a canonical schema is written back**, in front of the rest. -/
theorem write_of_read {s : Schema} : s.Canonical → s.WritesBack := by
  induction s using Schema.induction with
  | uint word =>
    intro _ window rest v h
    obtain ⟨n, head, hw, rfl, rfl⟩ := read_uint_eq_ok_iff.mp h
    exact ⟨head, write_uint_eq_ok_iff.mpr ⟨n, rfl, hw⟩, rfl⟩
  | fixed size =>
    intro _ window rest v h
    obtain ⟨data, hlen, rfl, rfl⟩ := read_fixed_eq_ok_iff.mp h
    exact ⟨data, write_fixed_eq_ok_iff.mpr ⟨rfl, hlen⟩, rfl⟩
  | magic data =>
    intro _ window rest v h
    obtain ⟨rfl, rfl⟩ := read_magic_eq_ok_iff.mp h
    exact ⟨data, write_magic_eq_ok_iff.mpr rfl, rfl⟩
  | nothing =>
    intro _ window rest v h
    obtain ⟨rfl, rfl⟩ := read_nothing_eq_ok_iff.mp h
    exact ⟨[], write_nothing_eq_ok_iff.mpr rfl, rfl⟩
  | struct fields ih =>
    intro hc window rest v h
    rw [Canonical, fieldsCanonical_iff] at hc
    obtain ⟨entries, hf, hnames, rfl⟩ := read_struct_eq_ok_iff.mp h
    have hkeys := readFields_names hf
    have hn : (entries.map (·.1)).Nodup := hkeys ▸ hc.1
    obtain ⟨data, hw, rfl⟩ := writeFields_of_readFields entries
      (fun field hm => ih field hm (hc.2 field hm)) hf
      (fun entry he => ⟨hnames entry he, lookup_eq_some_of_mem hn he⟩)
    refine ⟨data, write_struct_eq_ok_iff.mpr ⟨entries, rfl, fun name hname => ?_, hw⟩, rfl⟩
    rw [hkeys]
    exact hname
  | union tag arms _ ih =>
    intro hc window rest v h
    rw [Canonical, armsCanonical_iff] at hc
    obtain ⟨htag, hnames, hc⟩ := hc
    obtain ⟨t, mid, arm, payload, ht, -, harm, hs, rfl⟩ := read_union_eq_ok_iff.mp h
    obtain ⟨n, head, hw, rfl, rfl⟩ := (read_tag_eq_ok_iff htag).mp ht
    -- the arm was found by its number, and is written as the first of its name
    have hmem := List.mem_of_find?_eq_some harm
    simp only [int_equalInt?_beq] at harm
    have hn : arm.1 = n := by simpa using List.find?_some harm
    subst hn
    obtain ⟨body, hb, rfl⟩ := ih arm hmem (hc arm hmem) hs
    refine ⟨head ++ body, write_union_eq_ok_iff.mpr ⟨arm, arm.2.1, payload, head, body, rfl,
      find?_key_of_nodup hnames hmem, hw, ?_, rfl⟩, (List.append_assoc ..).symm⟩
    rw [writeArm_of_find? harm]
    exact hb
  | sequence length element ih =>
    intro hc window rest v h
    rw [Canonical] at hc
    cases length with
    | none =>
      -- why the run stopped does not matter: what it left is not its own
      obtain ⟨items, -, hrun, -, rfl⟩ := read_run_eq_ok_iff.mp h
      obtain ⟨data, hw, rfl⟩ := writeItems_of_run (ih hc) hrun
      exact ⟨data, write_run_eq_ok_iff.mpr ⟨items, rfl, hw⟩, rfl⟩
    | some length =>
      obtain ⟨head, mid, items, hh, rfl, hrun, rfl⟩ := read_counted_eq_ok_iff.mp h
      obtain ⟨body, hb, rfl⟩ := writeItems_of_run (ih hc) hrun
      exact ⟨head ++ body, write_counted_eq_ok_iff.mpr ⟨items, head, body, rfl, hh, hb, rfl⟩,
        (List.append_assoc ..).symm⟩
  | raw length omitIfEmpty =>
    intro _ window rest v h
    cases length with
    | none =>
      obtain ⟨rfl, rfl⟩ := read_greedy_eq_ok_iff.mp h
      exact ⟨window, write_greedy_eq_ok_iff.mpr rfl, (List.append_nil _).symm⟩
    | some length =>
      rcases read_raw_eq_ok_iff.mp h with ⟨homit, rfl, rfl, rfl⟩ | ⟨head, inner, hh, rfl, rfl⟩
      · exact ⟨[], write_raw_eq_ok_iff.mpr (Or.inl ⟨by rw [homit]; rfl, rfl⟩), rfl⟩
      · -- the explicit length was remembered, so the window is not taken for an absent one
        refine ⟨head ++ inner, write_raw_eq_ok_iff.mpr (Or.inr ⟨?_, head, inner, ?_, hh, rfl⟩), rfl⟩
        · rw [isPlainEmpty_rawContent, Bool.and_false]
        · exact byteString?_rawContent true inner
  | embedded length layout omitIfEmpty ih =>
    intro hc window rest v h
    rw [Canonical] at hc
    cases length with
    | none =>
      obtain ⟨rfl, hl⟩ := read_greedyEmbedded_eq_ok_iff.mp h
      obtain ⟨data, hw, rfl⟩ := ih hc.2 hl
      exact ⟨data, write_greedyEmbedded_eq_ok_iff.mpr hw, rfl⟩
    | some length =>
      obtain rfl : omitIfEmpty = false := hc.1 rfl
      rcases read_embedded_eq_ok_iff.mp h with ⟨homit, -⟩ | ⟨head, inner, hh, rfl, hl⟩
      · cases homit
      · obtain ⟨data, hw, happ⟩ := ih hc.2 hl
        rw [List.append_nil] at happ
        subst happ
        exact ⟨head ++ inner,
          write_embedded_eq_ok_iff.mpr (Or.inr ⟨rfl, head, inner, hw, hh, rfl⟩), rfl⟩
  | custom transform base ih =>
    intro hc window rest v h
    rw [Canonical] at hc
    obtain ⟨raw, hb, hd⟩ := read_custom_eq_ok_iff.mp h
    obtain ⟨data, hw, rfl⟩ := ih hc.1 hb
    exact ⟨data, write_custom_eq_ok_iff.mpr ⟨raw, hc.2 _ _ _ _ hb hd, hw⟩, rfl⟩
  | malformedMagic shown => intro _ window rest v h; exact absurd h read_malformedMagic_ne_ok
  | malformed shown => intro _ window rest v h; exact absurd h read_malformed_ne_ok

end Schema

end TokenBridge.Layout
