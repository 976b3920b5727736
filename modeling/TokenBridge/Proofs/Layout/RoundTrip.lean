import TokenBridge.Proofs.Layout.Input
import TokenBridge.Value.Entries
import TokenBridge.Value.Equality

/-!
# Written and read back

A value that a schema writes is read back in its **normal form**: what the reader would have made of
it. A buffer comes back as bytes, a tuple as a list, a mode under an integer schema as its number, a
map with the fields of the struct and nothing else, and empty content of an explicit length as the
empty bytes that remember it. The normal form is a recursion on the schema and never asks the
reader.

Whether it does come back depends on what follows in the window, and there are two kinds of nodes:

- a **self-delimiting** node says by itself where it ends, and anything may follow it;
- a **closed** node takes what is left, or may be absent where nothing is left, so it is read back
  where nothing of its window follows.

The two notions are one predicate with a flag, `Delimited`, because they descend together: the last
field of a closed struct is closed, the layout inside a window with a length is closed whatever
stands around the window, and everything before or repeated is self-delimiting. **One induction
proves both** (`Schema.read_of_write`), and the flag is what says which rest is allowed.
-/

namespace TokenBridge.Layout

namespace Schema

/-! ## Normal forms -/

mutual

/-- What a value that the schema writes is read back as. -/
def normal : Schema → Value → Value
  | .uint _, v => v.strictInt?.elim v .int
  | .fixed _, v => v.byteString?.elim v .bytes
  | .magic _, _ | .nothing, _ => .null
  | .struct fields, v => .map (normalFields fields (v.entries?.getD []))
  | .union _ arms, v =>
    match v with
    | .variant name payload => .variant name (normalArm arms name payload)
    | v => v
  | .sequence _ element, v => .list ((v.items?.getD []).map fun item => normal element item)
  | .bytes length none omitIfEmpty, v =>
    if length.isSome && omitIfEmpty && v.isPlainEmpty then .bytes []
    else v.byteString?.elim v (rawContent length.isSome)
  | .bytes length (some layout) omitIfEmpty, v =>
    if length.isSome && omitIfEmpty && v.isPlainEmpty then .bytes [] else normal layout v
  | .custom transform base, v =>
    match transform.encode v with
    | .error _ => v
    | .ok raw =>
      match transform.decode (normal base raw) with
      | .error _ => v
      | .ok u => u
  | .malformedMagic _, v | .malformed _, v => v

/-- The fields that have a value, in the order of the struct. -/
def normalFields : List (String × Schema) → List (String × Value) → List (String × Value)
  | [], _ => []
  | (name, s) :: fields, entries =>
    if s.isMagic then normalFields fields entries
    else (name, normal s ((entries.lookup name).getD .null)) :: normalFields fields entries

/-- The payload of the first arm of the name. -/
def normalArm : List (Int × String × Schema) → String → Value → Value
  | [], _, payload => payload
  | (_, other, s) :: arms, name, payload =>
    if other = name then normal s payload else normalArm arms name payload

end

/-! ## Delimited nodes -/

/-- Every value that is read takes up at least a byte. -/
def Consumes (s : Schema) : Prop :=
  ∀ {window rest : Bytes} {v : Value}, s.read window = .ok (v, rest) → rest.length < window.length

mutual

/-- The node is read back from what it writes: wherever it stands, or, when it is the last of its
window, where nothing follows. -/
def Delimited : Schema → Bool → Prop
  | .uint _, _ | .fixed _, _ | .magic _, _ | .nothing, _ => True
  | .struct fields, last => (∀ name ∈ valueNames fields, name ≠ "") ∧ FieldsDelimited fields last
  | .union tag arms, last =>
    tag.isInteger = true ∧ (arms.map (·.1)).Nodup ∧ ArmsDelimited arms last
  | .sequence (some _) element, _ => Delimited element false
  | .sequence none element, last => last = true ∧ Delimited element false ∧ element.Consumes
  | .bytes (some _) none omitIfEmpty, last => omitIfEmpty = true → last = true
  | .bytes (some _) (some layout) omitIfEmpty, last =>
    (omitIfEmpty = true → last = true) ∧ Delimited layout true
  | .bytes none none _, last => last = true
  | .bytes none (some layout) _, last => last = true ∧ Delimited layout true
  | .custom transform base, last =>
    Delimited base last ∧ ∀ v raw data, transform.encode v = .ok raw → base.write raw = .ok data →
      ∃ u, transform.decode (base.normal raw) = .ok u ∧ u.equal v = true
  | .malformedMagic _, _ | .malformed _, _ => False

/-- Only the last field may be the last of the window. -/
def FieldsDelimited : List (String × Schema) → Bool → Prop
  | [], _ => True
  | (_, s) :: fields, last => Delimited s (last && fields.isEmpty) ∧ FieldsDelimited fields last

/-- A payload stands where the union stands. -/
def ArmsDelimited : List (Int × String × Schema) → Bool → Prop
  | [], _ => True
  | (_, _, s) :: arms, last => Delimited s last ∧ ArmsDelimited arms last

end

/-- Anything may follow the node. -/
abbrev SelfDelimiting (s : Schema) : Prop := s.Delimited false

/-- The node is the last of its window. -/
abbrev Closed (s : Schema) : Prop := s.Delimited true

theorem armsDelimited_iff {arms : List (Int × String × Schema)} {last : Bool} :
    ArmsDelimited arms last ↔ ∀ arm ∈ arms, arm.2.2.Delimited last := by
  induction arms with
  | nil => simp [ArmsDelimited]
  | cons arm arms ih => simp [ArmsDelimited, ih]

theorem fieldsDelimited_mono {fields : List (String × Schema)}
    (ih : ∀ field ∈ fields, field.2.SelfDelimiting → field.2.Closed) :
    FieldsDelimited fields false → FieldsDelimited fields true := by
  induction fields with
  | nil => exact id
  | cons field fields ihf =>
    rintro ⟨hs, hf⟩
    refine ⟨?_, ihf (fun field hf => ih field (List.mem_cons_of_mem _ hf)) hf⟩
    cases fields with
    | nil => exact ih field List.mem_cons_self hs
    | cons next fields => exact hs

/-- What may stand anywhere may stand last. -/
theorem closed_of_selfDelimiting {s : Schema} : s.SelfDelimiting → s.Closed := by
  induction s using Schema.induction with
  | uint | fixed | magic | nothing => exact id
  | struct fields ih => rintro ⟨hnames, hf⟩; exact ⟨hnames, fieldsDelimited_mono ih hf⟩
  | union tag arms _ ih =>
    intro hd
    simp only [SelfDelimiting, Closed, Delimited, armsDelimited_iff] at hd ⊢
    exact ⟨hd.1, hd.2.1, fun arm ha => ih arm ha (hd.2.2 arm ha)⟩
  | sequence length element ih =>
    cases length with
    | none => rintro ⟨h, -⟩; cases h
    | some length => exact id
  | raw length omitIfEmpty =>
    cases length with
    | none => intro h; cases h
    | some length => exact fun _ _ => rfl
  | embedded length layout omitIfEmpty ih =>
    cases length with
    | none => rintro ⟨h, -⟩; cases h
    | some length => rintro ⟨-, hl⟩; exact ⟨fun _ => rfl, hl⟩
  | custom transform base ih => rintro ⟨hb, hundo⟩; exact ⟨ih hb, hundo⟩
  | malformedMagic shown => exact id
  | malformed shown => exact id

/-- An integer takes up at least a byte. -/
theorem consumes_uint {word : Word} : (uint word).Consumes := by
  intro window rest v h
  obtain ⟨n, head, hw, rfl, -⟩ := read_uint_eq_ok_iff.mp h
  obtain ⟨m, -, -, rfl⟩ := Word.write_eq_ok_iff.mp hw
  have hpos := word.size_pos
  rw [List.length_append, Endian.length_write]
  omega

theorem consumes_custom {transform : Transform} {base : Schema} (hb : base.Consumes) :
    (custom transform base).Consumes := by
  intro window rest v h
  obtain ⟨raw, hr, -⟩ := read_custom_eq_ok_iff.mp h
  exact hb hr

/-! ## Parts of normal forms -/

theorem normalFields_names {fields : List (String × Schema)} {entries : List (String × Value)} :
    (normalFields fields entries).map (·.1) = valueNames fields := by
  induction fields with
  | nil => rfl
  | cons field fields ih =>
    obtain ⟨name, s⟩ := field
    cases hm : s.isMagic with
    | true => simpa [normalFields, valueNames, hm] using ih
    | false => simpa [normalFields, valueNames, hm] using ih

theorem normalArm_of_find? {name : String} {payload : Value} {arm : Int × String × Schema} :
    ∀ {arms : List (Int × String × Schema)}, arms.find? (fun arm => arm.2.1 == name) = some arm →
      normalArm arms name payload = arm.2.2.normal payload := by
  intro arms
  induction arms with
  | nil => intro h; cases h
  | cons other arms ih =>
    obtain ⟨t, held, s⟩ := other
    intro h
    rw [List.find?_cons] at h
    rw [normalArm]
    by_cases hn : held = name
    · rw [if_pos hn]
      simp only [hn, beq_self_eq_true, Option.some.injEq] at h
      rw [← h]
    · rw [if_neg hn]
      rw [beq_eq_false_iff_ne.mpr hn] at h
      exact ih h

theorem normal_custom {transform : Transform} {base : Schema} {v raw u : Value}
    (he : transform.encode v = .ok raw) (hd : transform.decode (base.normal raw) = .ok u) :
    (custom transform base).normal v = u := by
  simp only [normal, he, hd]

/-! ## Read back -/

/-- What the node writes is read back in normal form, in front of every rest that `last` allows. -/
def ReadsBack (s : Schema) (last : Bool) : Prop :=
  ∀ {v : Value} {data rest : Bytes}, s.write v = .ok data → (last = true → rest = []) →
    s.read (data ++ rest) = .ok (s.normal v, rest)

theorem readFields_of_writeFields {entries : List (String × Value)} {last : Bool}
    {fields : List (String × Schema)}
    (ih : ∀ field ∈ fields, ∀ last, field.2.Delimited last → field.2.ReadsBack last) :
    ∀ {data rest : Bytes}, (∀ name ∈ valueNames fields, name ≠ "") →
      FieldsDelimited fields last → writeFields fields entries = .ok data →
      (last = true → rest = []) →
      readFields fields (data ++ rest) = .ok (normalFields fields entries, rest) := by
  induction fields with
  | nil =>
    intro data rest _ _ h _
    obtain rfl := writeFields_nil_eq_ok_iff.mp h
    exact readFields_nil_eq_ok_iff.mpr ⟨rfl, rfl⟩
  | cons field fields ihf =>
    obtain ⟨name, s⟩ := field
    intro data rest hnames hd h hrest
    obtain ⟨hs, hd⟩ := hd
    have hhead : s.ReadsBack (last && fields.isEmpty) := ih (name, s) List.mem_cons_self _ hs
    have ih' : ∀ field ∈ fields, ∀ last, field.2.Delimited last → field.2.ReadsBack last :=
      fun field hf => ih field (List.mem_cons_of_mem _ hf)
    -- what follows the first field is empty when the first field is the last of its window
    have hempty : ∀ {tail : Bytes}, writeFields fields entries = .ok tail →
        (last && fields.isEmpty) = true → tail ++ rest = [] := by
      intro tail ht hl
      obtain ⟨hlast, hnil⟩ := Bool.and_eq_true .. |>.mp hl
      obtain rfl := List.isEmpty_iff.mp hnil
      rw [writeFields_nil_eq_ok_iff.mp ht, hrest hlast]
      rfl
    cases hm : s.isMagic with
    | true =>
      obtain ⟨head, tail, hw, ht, rfl⟩ := (writeFields_magic_eq_ok_iff hm).mp h
      have hnames' : ∀ name ∈ valueNames fields, name ≠ "" := by
        simpa [valueNames, hm] using hnames
      refine (readFields_magic_eq_ok_iff hm).mpr ⟨s.normal .null, tail ++ rest, ?_, ?_⟩
      · rw [List.append_assoc]
        exact hhead hw (hempty ht)
      · rw [normalFields, if_pos hm]
        exact ihf ih' hnames' hd ht hrest
    | false =>
      have hname : name ≠ "" := hnames name (by simp [valueNames, hm])
      have hnames' : ∀ name ∈ valueNames fields, name ≠ "" := fun other ho =>
        hnames other (by
          simp only [valueNames, List.filter_cons, hm, Bool.not_false, if_true, List.map_cons]
          exact List.mem_cons_of_mem _ ho)
      obtain ⟨head, tail, hw, ht, rfl⟩ := (writeFields_value_eq_ok_iff hm hname).mp h
      refine (readFields_value_eq_ok_iff hm).mpr ⟨s.normal ((entries.lookup name).getD .null),
        tail ++ rest, normalFields fields entries, ?_, ?_, ?_⟩
      · rw [List.append_assoc]
        exact hhead hw (hempty ht)
      · exact ihf ih' hnames' hd ht hrest
      · rw [normalFields, if_neg (by simp [hm])]

theorem run_of_writeItems {element : Schema} (ih : element.ReadsBack false) :
    ∀ {items : List Value} {data rest : Bytes},
      writeItems (fun item => element.write item) items = .ok data →
      Run (fun w => element.read w) (data ++ rest) (items.map fun item => element.normal item)
        rest := by
  intro items
  induction items with
  | nil =>
    intro data rest h
    obtain rfl := writeItems_nil_eq_ok_iff.mp h
    exact .nil
  | cons item items ihi =>
    intro data rest h
    obtain ⟨head, tail, hw, ht, rfl⟩ := writeItems_cons_eq_ok_iff.mp h
    rw [List.append_assoc]
    exact .cons (ih hw (fun h => by cases h)) (ihi ht)

/-- Elements that take up bytes are no more than there are bytes. -/
theorem Run.length_le {element : Schema} {window rest : Bytes} {items : List Value}
    (hc : element.Consumes) (h : Run (fun w => element.read w) window items rest) :
    items.length + rest.length ≤ window.length := by
  induction h with
  | nil => simp
  | cons hv _ ih =>
    have := hc hv
    simp only [List.length_cons]
    omega

/-- A run of elements that take up bytes ends where no element can be read, and never because too
many were. -/
theorem read_run_stops {element : Schema} {window rest : Bytes} {v : Value} (hc : element.Consumes)
    (h : (sequence none element).read window = .ok (v, rest)) :
    ∃ fault, element.read rest = .error fault := by
  obtain ⟨items, hle, hrun, hstop, -⟩ := read_run_eq_ok_iff.mp h
  have hbound := hrun.length_le hc
  cases hr : element.read rest with
  | error fault => exact ⟨fault, rfl⟩
  | ok answer =>
    -- a further element would take a byte, so there was room for it
    have hroom := hc hr
    exact absurd hr (hstop (by omega) answer)

/-- **A delimited node reads back what it writes**, in normal form. -/
theorem read_of_write {s : Schema} : ∀ {last : Bool}, s.Delimited last → s.ReadsBack last := by
  induction s using Schema.induction with
  | uint word =>
    intro last _ v data rest h _
    obtain ⟨n, hn, hw⟩ := write_uint_eq_ok_iff.mp h
    exact read_uint_eq_ok_iff.mpr ⟨n, data, hw, rfl, by rw [normal, hn]; rfl⟩
  | fixed size =>
    intro last _ v data rest h _
    obtain ⟨hv, hlen⟩ := write_fixed_eq_ok_iff.mp h
    exact read_fixed_eq_ok_iff.mpr ⟨data, hlen, rfl, by rw [normal, hv]; rfl⟩
  | magic content =>
    intro last _ v data rest h _
    obtain rfl := write_magic_eq_ok_iff.mp h
    exact read_magic_eq_ok_iff.mpr ⟨rfl, rfl⟩
  | nothing =>
    intro last _ v data rest h _
    obtain rfl := write_nothing_eq_ok_iff.mp h
    exact read_nothing_eq_ok_iff.mpr ⟨rfl, rfl⟩
  | struct fields ih =>
    intro last hd v data rest h hrest
    obtain ⟨hnames, hd⟩ := hd
    obtain ⟨entries, hv, -, hw⟩ := write_struct_eq_ok_iff.mp h
    refine read_struct_eq_ok_iff.mpr ⟨normalFields fields entries, ?_, ?_, by rw [normal, hv]; rfl⟩
    · exact readFields_of_writeFields (fun field hf last => @ih field hf last) hnames hd hw hrest
    · intro entry he
      refine hnames entry.1 ?_
      rw [← normalFields_names]
      exact List.mem_map_of_mem he
  | union tag arms _ ih =>
    intro last hd v data rest h hrest
    rw [Delimited, armsDelimited_iff] at hd
    obtain ⟨htag, hn, hd⟩ := hd
    obtain ⟨arm, name, payload, head, body, rfl, harm, ht, hb, rfl⟩ := write_union_eq_ok_iff.mp h
    have hmem := List.mem_of_find?_eq_some harm
    have hname : arm.2.1 = name := by simpa using List.find?_some harm
    -- the number that is read back has one arm, the one that was written
    have hnumber := find?_key_of_nodup hn hmem
    rw [writeArm_of_find? hnumber] at hb
    refine read_union_eq_ok_iff.mpr ⟨.int arm.1, body ++ rest, arm, arm.2.2.normal payload,
      (read_tag_eq_ok_iff htag).mpr ⟨arm.1, head, ht, by rw [List.append_assoc], rfl⟩, rfl, ?_,
      ih arm hmem (hd arm hmem) hb hrest, ?_⟩
    · simpa only [int_equalInt?_beq] using hnumber
    · rw [normal, normalArm_of_find? harm, hname]
  | sequence length element ih =>
    intro last hd v data rest h hrest
    cases length with
    | none =>
      obtain ⟨rfl, hd, hc⟩ := hd
      obtain rfl := hrest rfl
      obtain ⟨items, hv, hw⟩ := write_run_eq_ok_iff.mp h
      have hrun : Run (fun w => element.read w) (data ++ [])
          (items.map fun item => element.normal item) [] := run_of_writeItems (ih hd) hw
      have hlen := hrun.length_le hc
      refine read_run_eq_ok_iff.mpr ⟨_, by simpa using hlen, hrun, fun _ answer ha => ?_, ?_⟩
      · -- nothing is left, and no element is read of nothing
        exact absurd (hc ha) (Nat.not_lt_zero _)
      · rw [normal, hv]
        rfl
    | some length =>
      obtain ⟨items, head, body, hv, hh, hb, rfl⟩ := write_counted_eq_ok_iff.mp h
      refine read_counted_eq_ok_iff.mpr ⟨head, body ++ rest,
        items.map fun item => element.normal item, by simpa using hh, by rw [List.append_assoc],
        run_of_writeItems (ih hd) hb, ?_⟩
      rw [normal, hv]
      rfl
  | raw length omitIfEmpty =>
    intro last hd v data rest h hrest
    cases length with
    | none =>
      obtain rfl := hrest hd
      have hv := write_greedy_eq_ok_iff.mp h
      exact read_greedy_eq_ok_iff.mpr ⟨rfl, by simp [normal, hv, rawContent]⟩
    | some length =>
      rcases write_raw_eq_ok_iff.mp h with ⟨habsent, rfl⟩ | ⟨habsent, head, body, hv, hh, rfl⟩
      · have homit : omitIfEmpty = true := (Bool.and_eq_true .. |>.mp habsent).1
        obtain rfl := hrest (hd homit)
        exact read_raw_eq_ok_iff.mpr (Or.inl ⟨homit, rfl, rfl, by simp [normal, habsent]⟩)
      · refine read_raw_eq_ok_iff.mpr (Or.inr ⟨head, body, hh, rfl, ?_⟩)
        simp [normal, habsent, hv]
  | embedded length layout omitIfEmpty ih =>
    intro last hd v data rest h hrest
    cases length with
    | none =>
      obtain ⟨rfl, hd⟩ := hd
      obtain rfl := hrest rfl
      have hr : layout.read (data ++ []) = .ok (layout.normal v, []) :=
        ih hd (write_greedyEmbedded_eq_ok_iff.mp h) (fun _ => rfl)
      exact read_greedyEmbedded_eq_ok_iff.mpr ⟨rfl, by simpa [normal] using hr⟩
    | some length =>
      obtain ⟨hlast, hd⟩ := hd
      rcases write_embedded_eq_ok_iff.mp h with ⟨habsent, rfl⟩ | ⟨habsent, head, body, hw, hh, rfl⟩
      · have homit : omitIfEmpty = true := (Bool.and_eq_true .. |>.mp habsent).1
        obtain rfl := hrest (hlast homit)
        exact read_embedded_eq_ok_iff.mpr (Or.inl ⟨homit, rfl, rfl, by simp [normal, habsent]⟩)
      · -- the window ends where its content does, whatever follows the window
        have hr : layout.read (body ++ []) = .ok (layout.normal v, []) := ih hd hw (fun _ => rfl)
        rw [List.append_nil] at hr
        refine read_embedded_eq_ok_iff.mpr (Or.inr ⟨head, body, hh, rfl, ?_⟩)
        simpa [normal, habsent] using hr
  | custom transform base ih =>
    intro last hd v data rest h hrest
    obtain ⟨hbase, hundo⟩ := hd
    obtain ⟨raw, he, hw⟩ := write_custom_eq_ok_iff.mp h
    obtain ⟨u, hu, -⟩ := hundo v raw data he hw
    exact read_custom_eq_ok_iff.mpr ⟨_, ih hbase hw hrest, by rw [normal_custom he hu]; exact hu⟩
  | malformedMagic shown => intro last hd; exact absurd hd not_false
  | malformed shown => intro last hd; exact absurd hd not_false

/-- What a transform makes of the value that was written is the same value. -/
theorem equal_normal_custom {transform : Transform} {base : Schema} {last : Bool} {v : Value}
    {data : Bytes} (hd : (custom transform base).Delimited last)
    (h : (custom transform base).write v = .ok data) :
    ((custom transform base).normal v).equal v = true := by
  obtain ⟨-, hundo⟩ := hd
  obtain ⟨raw, he, hw⟩ := write_custom_eq_ok_iff.mp h
  obtain ⟨u, hu, heq⟩ := hundo v raw data he hw
  rw [normal_custom he hu]
  exact heq

end Schema

/-- The same of a whole input: the count is that of the bytes that were written. -/
theorem decode_of_encode {s : Schema} {last : Bool} {v : Value} {data rest : Bytes}
    (hd : s.Delimited last) (h : encode s v = .ok data) (hrest : last = true → rest = []) :
    decode s (data ++ rest) = .ok (s.normal v, data.length) := by
  obtain ⟨hs, hw⟩ := encode_eq_ok_iff.mp h
  refine decode_eq_ok_iff.mpr ⟨hs, rest, Schema.read_of_write hd hw hrest, ?_⟩
  rw [List.length_append, Nat.add_sub_cancel]

end TokenBridge.Layout
