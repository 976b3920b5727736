import TokenBridge.Proofs.Layout.Input

/-!
# Which values can be written

The writer accepts a value by walking through it, and says nothing about a value before the walk is
over. `Conforms` says it beforehand: which kind of value a node takes, which of its parts are looked
at, and which numbers have to fit. **A value is written exactly when it conforms**
(`Schema.conforms_iff_write`).

Whether a length fits is a question about bytes that are not there yet, so the relation has a third
place: how many bytes the value takes up. That number is counted along the schema and never asks the
writer, and it is the length of what the writer makes (the same equivalence says so).

What does not conform is refused, and the second half says how: with a violation of the schema or a
number out of range, which are the faults that a caller is meant to handle. The lookups behind it
cannot fail in their own way, as a struct asks for all its names before it takes the first. Only the
message of a refusal can fail to be written, which takes an integer of too many digits in it
(`Cause.OfWriting`).
-/

namespace TokenBridge.Layout

/-- The length is one that the field can hold. -/
def LengthField.Holds (length : LengthField) (n : Nat) : Prop := n < 256 ^ length.width.toNat

theorem LengthField.write_eq_ok_iff {length : LengthField} {n : Nat} {head : Bytes}
    (hwidth : 0 < length.width) :
    length.write n = .ok head ↔
      length.Holds n ∧ head = length.order.write length.width.toNat n := by
  have hpos : 0 < length.width.toNat := by omega
  have hword : length.word? = some ⟨length.width.toNat, length.order, hpos⟩ := dif_pos hpos
  rw [LengthField.write_eq_ok_iff_word hword, Word.write_eq_ok_iff]
  constructor
  · rintro ⟨m, hm, hlt, rfl⟩
    obtain rfl : n = m := by exact_mod_cast hm
    exact ⟨hlt, rfl⟩
  · rintro ⟨hlt, rfl⟩
    exact ⟨n, rfl, hlt, rfl⟩

namespace Schema

/-! ## Conforming values -/

/-- How many bytes parts take up together. -/
def totalSize {α : Type} (size : α → Nat) : List α → Nat
  | [] => 0
  | a :: rest => size a + totalSize size rest

/-- The value can be written under the schema, and takes up so many bytes. -/
inductive Conforms : Schema → Value → Nat → Prop
  /-- An integer that is not below zero and fits the width; a truth value is none. -/
  | uint {word : Word} {v : Value} {m : Nat} :
      v.strictInt? = some (m : Int) → m < 256 ^ word.size → Conforms (.uint word) v word.size
  /-- A byte string of the length. -/
  | fixed {size : Int} {v : Value} {data : Bytes} :
      v.byteString? = some data → (data.length : Int) = size →
      Conforms (.fixed size) v data.length
  /-- Anything. -/
  | magic {data : Bytes} {v : Value} : Conforms (.magic data) v data.length
  /-- Anything. -/
  | nothing {v : Value} : Conforms .nothing v 0
  /-- A map that holds a value for every field but those of magic bytes. What else it holds does not
  matter. -/
  | struct {fields : List (String × Schema)} {v : Value} {entries : List (String × Value)}
      {held : String × Schema → Value} {size : String × Schema → Nat} :
      v.entries? = some entries →
      (∀ field ∈ fields, field.2.isMagic = false → entries.lookup field.1 = some (held field)) →
      (∀ field ∈ fields, Conforms field.2 (held field) (size field)) →
      Conforms (.struct fields) v (totalSize size fields)
  /-- A variant of which the union has the name. The tag is the first of that name, and has to fit;
  the payload is what belongs to it. -/
  | union {tag : Schema} {arms : List (Int × String × Schema)} {name : String} {payload : Value}
      {arm : Int × String × Schema} {n m : Nat} :
      arms.find? (fun arm => arm.2.1 == name) = some arm → Conforms tag (.int arm.1) n →
      Conforms arm.2.2 payload m → Conforms (.union tag arms) (.variant name payload) (n + m)
  /-- Items one after another. -/
  | run {element : Schema} {v : Value} {items : List Value} {size : Value → Nat} :
      v.items? = some items → (∀ item ∈ items, Conforms element item (size item)) →
      Conforms (.sequence none element) v (totalSize size items)
  /-- Items that can be counted. -/
  | counted {length : LengthField} {element : Schema} {v : Value} {items : List Value}
      {size : Value → Nat} :
      v.items? = some items → length.Holds items.length →
      (∀ item ∈ items, Conforms element item (size item)) →
      Conforms (.sequence (some length) element) v (length.width.toNat + totalSize size items)
  /-- A byte string that takes what is left. -/
  | greedy {v : Value} {data : Bytes} {omitIfEmpty : Bool} :
      v.byteString? = some data → Conforms (.bytes none none omitIfEmpty) v data.length
  /-- Plain empty bytes, which stand for an absent window. -/
  | absent {length : LengthField} {layout : Option Schema} {v : Value} :
      v.isPlainEmpty = true → Conforms (.bytes (some length) layout true) v 0
  /-- A byte string with a length that fits. -/
  | raw {length : LengthField} {v : Value} {data : Bytes} {omitIfEmpty : Bool} :
      (omitIfEmpty && v.isPlainEmpty) = false → v.byteString? = some data →
      length.Holds data.length →
      Conforms (.bytes (some length) none omitIfEmpty) v (length.width.toNat + data.length)
  /-- A value of the layout. -/
  | greedyEmbedded {layout : Schema} {v : Value} {n : Nat} {omitIfEmpty : Bool} :
      Conforms layout v n → Conforms (.bytes none (some layout) omitIfEmpty) v n
  /-- A value of the layout that takes up a number of bytes that fits. -/
  | embedded {length : LengthField} {layout : Schema} {v : Value} {n : Nat} {omitIfEmpty : Bool} :
      (omitIfEmpty && v.isPlainEmpty) = false → Conforms layout v n → length.Holds n →
      Conforms (.bytes (some length) (some layout) omitIfEmpty) v (length.width.toNat + n)
  /-- A value of which the transform makes one that conforms to the base. -/
  | custom {transform : Transform} {base : Schema} {v raw : Value} {n : Nat} :
      transform.encode v = .ok raw → Conforms base raw n → Conforms (.custom transform base) v n

/-- The node alone is what it is meant to be: fields have names, tags are told apart, and a length
has a byte to stand in. -/
def IsProper : Schema → Prop
  | .struct fields => ∀ name ∈ valueNames fields, name ≠ ""
  | .union _ arms => (arms.map (·.1)).Nodup
  | .sequence (some length) _ | .bytes (some length) _ _ => 0 < length.width
  | _ => True

instance : DecidablePred IsProper
  | .struct fields => inferInstanceAs (Decidable (∀ name ∈ valueNames fields, name ≠ ""))
  | .union _ arms => inferInstanceAs (Decidable (arms.map (·.1)).Nodup)
  | .sequence (some length) _ | .bytes (some length) _ _ =>
    inferInstanceAs (Decidable (0 < length.width))
  | .sequence none _ | .bytes none _ _ | .uint _ | .fixed _ | .magic _ | .nothing
  | .custom .. | .malformedMagic _ | .malformed _ => isTrue trivial

/-! ## What conforms is written -/

theorem mem_keys_iff_lookup {name : String} {entries : List (String × Value)} :
    name ∈ entries.map (·.1) ↔ ∃ v, entries.lookup name = some v := by
  induction entries with
  | nil => simp
  | cons entry entries ih =>
    obtain ⟨key, v⟩ := entry
    by_cases h : name = key
    · subst h
      simp
    · rw [List.lookup_cons, beq_eq_false_iff_ne.mpr h, ← ih]
      simp [h]

theorem writeItems_of_each {element : Value → Except Fault Bytes} {size : Value → Nat}
    {items : List Value}
    (h : ∀ item ∈ items, ∃ data, element item = .ok data ∧ data.length = size item) :
    ∃ data, writeItems element items = .ok data ∧ data.length = totalSize size items := by
  induction items with
  | nil => exact ⟨[], writeItems_nil_eq_ok_iff.mpr rfl, rfl⟩
  | cons item items ih =>
    obtain ⟨head, hw, hhead⟩ := h item List.mem_cons_self
    obtain ⟨tail, ht, htail⟩ := ih fun other ho => h other (List.mem_cons_of_mem _ ho)
    refine ⟨head ++ tail, writeItems_cons_eq_ok_iff.mpr ⟨head, tail, hw, ht, rfl⟩, ?_⟩
    rw [List.length_append, hhead, htail]
    rfl

theorem writeFields_of_each {entries : List (String × Value)} {held : String × Schema → Value}
    {size : String × Schema → Nat} {fields : List (String × Schema)}
    (hnames : ∀ field ∈ fields, field.2.isMagic = false → field.1 ≠ "")
    (hheld : ∀ field ∈ fields, field.2.isMagic = false →
      entries.lookup field.1 = some (held field))
    (h : ∀ field ∈ fields, ∃ data, field.2.write (held field) = .ok data ∧
      data.length = size field) :
    ∃ data, writeFields fields entries = .ok data ∧ data.length = totalSize size fields := by
  induction fields with
  | nil => exact ⟨[], writeFields_nil_eq_ok_iff.mpr rfl, rfl⟩
  | cons field fields ih =>
    obtain ⟨name, s⟩ := field
    obtain ⟨head, hw, hhead⟩ := h (name, s) List.mem_cons_self
    obtain ⟨tail, ht, htail⟩ := ih (fun field hf => hnames field (List.mem_cons_of_mem _ hf))
      (fun field hf => hheld field (List.mem_cons_of_mem _ hf))
      (fun field hf => h field (List.mem_cons_of_mem _ hf))
    refine ⟨head ++ tail, ?_, by rw [List.length_append, hhead, htail]; rfl⟩
    cases hm : s.isMagic with
    | true =>
      rw [write_of_isMagic hm _ .null] at hw
      exact (writeFields_magic_eq_ok_iff hm).mpr ⟨head, tail, hw, ht, rfl⟩
    | false =>
      have hname : name ≠ "" := hnames (name, s) List.mem_cons_self hm
      refine (writeFields_value_eq_ok_iff hm hname).mpr ⟨head, tail, ?_, ht, rfl⟩
      rw [hheld (name, s) List.mem_cons_self hm]
      exact hw

theorem name_ne_of_isProper {fields : List (String × Schema)} (h : (struct fields).IsProper)
    {field : String × Schema} (hf : field ∈ fields) (hm : field.2.isMagic = false) :
    field.1 ≠ "" :=
  h field.1 (List.mem_map_of_mem (List.mem_filter.mpr ⟨hf, by rw [hm]; rfl⟩))

theorem write_of_conforms {s : Schema} {v : Value} {n : Nat} (h : s.Conforms v n) :
    s.Everywhere IsProper → ∃ data, s.write v = .ok data ∧ data.length = n := by
  induction h with
  | @uint word v m hv hm =>
    intro _
    exact ⟨_, write_uint_eq_ok_iff.mpr ⟨m, hv, Word.write_natCast hm⟩, by simp⟩
  | fixed hv hlen => intro _; exact ⟨_, write_fixed_eq_ok_iff.mpr ⟨hv, hlen⟩, rfl⟩
  | magic => intro _; exact ⟨_, write_magic_eq_ok_iff.mpr rfl, rfl⟩
  | nothing => intro _; exact ⟨_, write_nothing_eq_ok_iff.mpr rfl, rfl⟩
  | @struct fields v entries held size hv hheld _ ih =>
    intro hp
    obtain ⟨hproper, hp⟩ := everywhere_struct_iff.mp hp
    obtain ⟨data, hw, hlen⟩ := writeFields_of_each
      (fun field hf => name_ne_of_isProper hproper hf) hheld
      (fun field hf => ih field hf (hp field hf))
    refine ⟨data, write_struct_eq_ok_iff.mpr ⟨entries, hv, fun name hname => ?_, hw⟩, hlen⟩
    obtain ⟨field, hf, rfl⟩ := List.mem_map.mp hname
    obtain ⟨hf, hm⟩ := List.mem_filter.mp hf
    exact mem_keys_iff_lookup.mpr ⟨_, hheld field hf (by simpa using hm)⟩
  | @union tag arms name payload arm n m harm _ _ iht iha =>
    intro hp
    obtain ⟨hn, htag, harms⟩ := everywhere_union_iff.mp hp
    have hmem := List.mem_of_find?_eq_some harm
    obtain ⟨head, ht, hhead⟩ := iht htag
    obtain ⟨body, hb, hbody⟩ := iha (harms arm hmem)
    refine ⟨head ++ body, write_union_eq_ok_iff.mpr ⟨arm, name, payload, head, body, rfl, harm, ht,
      ?_, rfl⟩, by rw [List.length_append, hhead, hbody]⟩
    -- the arm was found by its name, and is written as the one of its number
    rw [writeArm_of_find? (find?_key_of_nodup hn hmem)]
    exact hb
  | run hv _ ih =>
    intro hp
    obtain ⟨-, hp⟩ := everywhere_sequence_iff.mp hp
    obtain ⟨data, hw, hlen⟩ := writeItems_of_each fun item hi => ih item hi hp
    exact ⟨data, write_run_eq_ok_iff.mpr ⟨_, hv, hw⟩, hlen⟩
  | counted hv hcount _ ih =>
    intro hp
    obtain ⟨hwidth, hp⟩ := everywhere_sequence_iff.mp hp
    obtain ⟨body, hw, hlen⟩ := writeItems_of_each fun item hi => ih item hi hp
    have hh := (LengthField.write_eq_ok_iff hwidth).mpr ⟨hcount, rfl⟩
    refine ⟨_, write_counted_eq_ok_iff.mpr ⟨_, _, body, hv, hh, hw, rfl⟩, ?_⟩
    rw [List.length_append, Endian.length_write, hlen]
  | greedy hv => intro _; exact ⟨_, write_greedy_eq_ok_iff.mpr hv, rfl⟩
  | @absent length layout v hv =>
    intro _
    refine ⟨[], ?_, rfl⟩
    cases layout with
    | none => exact write_raw_eq_ok_iff.mpr (Or.inl ⟨by rw [hv]; rfl, rfl⟩)
    | some layout => exact write_embedded_eq_ok_iff.mpr (Or.inl ⟨by rw [hv]; rfl, rfl⟩)
  | raw hpresent hv hcount =>
    intro hp
    have hh := (LengthField.write_eq_ok_iff hp.self).mpr ⟨hcount, rfl⟩
    refine ⟨_, write_raw_eq_ok_iff.mpr (Or.inr ⟨hpresent, _, _, hv, hh, rfl⟩), ?_⟩
    rw [List.length_append, Endian.length_write]
  | greedyEmbedded _ ih =>
    intro hp
    obtain ⟨data, hw, hlen⟩ := ih (everywhere_embedded_iff.mp hp).2
    exact ⟨data, write_greedyEmbedded_eq_ok_iff.mpr hw, hlen⟩
  | embedded hpresent _ hcount ih =>
    intro hp
    obtain ⟨hwidth, hp⟩ := everywhere_embedded_iff.mp hp
    obtain ⟨body, hw, rfl⟩ := ih hp
    have hh := (LengthField.write_eq_ok_iff hwidth).mpr ⟨hcount, rfl⟩
    refine ⟨_, write_embedded_eq_ok_iff.mpr (Or.inr ⟨hpresent, _, body, hw, hh, rfl⟩), ?_⟩
    rw [List.length_append, Endian.length_write]
  | custom he _ ih =>
    intro hp
    obtain ⟨data, hw, hlen⟩ := ih (everywhere_custom_iff.mp hp).2
    exact ⟨data, write_custom_eq_ok_iff.mpr ⟨_, he, hw⟩, hlen⟩

/-! ## What is written conforms -/

/-- The number of bytes that were written. -/
def writtenLength : Except Fault Bytes → Nat
  | .ok data => data.length
  | .error _ => 0

/-- What a map holds for a field. -/
def heldFor (entries : List (String × Value)) (field : String × Schema) : Value :=
  (entries.lookup field.1).getD .null

theorem each_of_writeItems {element : Value → Except Fault Bytes} {items : List Value} :
    ∀ {data : Bytes}, writeItems element items = .ok data →
      (∀ item ∈ items, ∃ part, element item = .ok part) ∧
        data.length = totalSize (fun item => writtenLength (element item)) items := by
  induction items with
  | nil =>
    intro data h
    rw [writeItems_nil_eq_ok_iff.mp h]
    exact ⟨fun item hi => absurd hi List.not_mem_nil, rfl⟩
  | cons item items ih =>
    intro data h
    obtain ⟨head, tail, hw, ht, rfl⟩ := writeItems_cons_eq_ok_iff.mp h
    obtain ⟨heach, hlen⟩ := ih ht
    refine ⟨List.forall_mem_cons.mpr ⟨⟨head, hw⟩, heach⟩, ?_⟩
    rw [List.length_append, hlen, totalSize, hw]
    rfl

theorem each_of_writeFields {entries : List (String × Value)} {fields : List (String × Schema)} :
    ∀ {data : Bytes}, (∀ field ∈ fields, field.2.isMagic = false → field.1 ≠ "") →
      writeFields fields entries = .ok data →
      (∀ field ∈ fields, ∃ part, field.2.write (heldFor entries field) = .ok part) ∧
        data.length =
          totalSize (fun field => writtenLength (field.2.write (heldFor entries field))) fields := by
  induction fields with
  | nil =>
    intro data _ h
    rw [writeFields_nil_eq_ok_iff.mp h]
    exact ⟨fun field hf => absurd hf List.not_mem_nil, rfl⟩
  | cons field fields ih =>
    obtain ⟨name, s⟩ := field
    intro data hnames h
    obtain ⟨hname, hnames⟩ := List.forall_mem_cons.mp hnames
    -- magic bytes are written of anything, so also of what the map holds
    have hparts : ∃ head tail, s.write (heldFor entries (name, s)) = .ok head ∧
        writeFields fields entries = .ok tail ∧ data = head ++ tail := by
      cases hm : s.isMagic with
      | true =>
        rw [write_of_isMagic hm _ .null]
        exact (writeFields_magic_eq_ok_iff hm).mp h
      | false => exact (writeFields_value_eq_ok_iff hm (hname hm)).mp h
    obtain ⟨head, tail, hw, ht, rfl⟩ := hparts
    obtain ⟨heach, hlen⟩ := ih hnames ht
    refine ⟨List.forall_mem_cons.mpr ⟨⟨head, hw⟩, heach⟩, ?_⟩
    rw [List.length_append, hlen, totalSize, hw]
    rfl

theorem conforms_of_write {s : Schema} :
    s.Everywhere IsProper → ∀ {v : Value} {data : Bytes}, s.write v = .ok data →
      s.Conforms v data.length := by
  -- the size of a part is what the writer made of it, where it made anything
  have hpart : ∀ {s : Schema} {v : Value}, (∀ {data : Bytes}, s.write v = .ok data →
      s.Conforms v data.length) → (∃ data, s.write v = .ok data) →
      s.Conforms v (writtenLength (s.write v)) := by
    rintro s v ih ⟨data, hw⟩
    rw [hw]
    exact ih hw
  induction s using Schema.induction with
  | uint word =>
    intro _ v data h
    obtain ⟨m, hv, hw⟩ := write_uint_eq_ok_iff.mp h
    obtain ⟨n, hn, hlt, rfl⟩ := Word.write_eq_ok_iff.mp hw
    obtain rfl : m = n := by exact_mod_cast hn
    rw [Endian.length_write]
    exact .uint hv hlt
  | fixed size =>
    intro _ v data h
    obtain ⟨hv, hlen⟩ := write_fixed_eq_ok_iff.mp h
    exact .fixed hv hlen
  | magic content => intro _ v data h; rw [write_magic_eq_ok_iff.mp h]; exact .magic
  | nothing => intro _ v data h; rw [write_nothing_eq_ok_iff.mp h]; exact .nothing
  | struct fields ih =>
    intro hp v data h
    obtain ⟨hproper, hp⟩ := everywhere_struct_iff.mp hp
    obtain ⟨entries, hv, hkeys, hw⟩ := write_struct_eq_ok_iff.mp h
    obtain ⟨heach, hlen⟩ := each_of_writeFields (fun field hf => name_ne_of_isProper hproper hf) hw
    rw [hlen]
    refine .struct hv (fun field hf hm => ?_) (fun field hf => hpart (ih field hf (hp field hf))
      (heach field hf))
    have hname : field.1 ∈ valueNames fields :=
      List.mem_map_of_mem (List.mem_filter.mpr ⟨hf, by rw [hm]; rfl⟩)
    obtain ⟨held, hheld⟩ := mem_keys_iff_lookup.mp (hkeys _ hname)
    rw [heldFor, hheld]
    rfl
  | union tag arms iht iha =>
    intro hp v data h
    obtain ⟨hn, htag, harms⟩ := everywhere_union_iff.mp hp
    obtain ⟨arm, name, payload, head, body, rfl, harm, ht, hb, rfl⟩ := write_union_eq_ok_iff.mp h
    have hmem := List.mem_of_find?_eq_some harm
    rw [writeArm_of_find? (find?_key_of_nodup hn hmem)] at hb
    rw [List.length_append]
    exact .union harm (iht htag ht) (iha arm hmem (harms arm hmem) hb)
  | sequence length element ih =>
    intro hp v data h
    obtain ⟨hproper, helement⟩ := everywhere_sequence_iff.mp hp
    cases length with
    | none =>
      obtain ⟨items, hv, hw⟩ := write_run_eq_ok_iff.mp h
      obtain ⟨heach, hlen⟩ := each_of_writeItems hw
      rw [hlen]
      exact .run hv fun item hi => hpart (ih helement) (heach item hi)
    | some length =>
      obtain ⟨items, head, body, hv, hh, hw, rfl⟩ := write_counted_eq_ok_iff.mp h
      obtain ⟨hcount, rfl⟩ := (LengthField.write_eq_ok_iff hproper).mp hh
      obtain ⟨heach, hlen⟩ := each_of_writeItems hw
      rw [List.length_append, Endian.length_write, hlen]
      exact .counted hv hcount fun item hi => hpart (ih helement) (heach item hi)
  | raw length omitIfEmpty =>
    intro hp v data h
    cases length with
    | none => exact .greedy (write_greedy_eq_ok_iff.mp h)
    | some length =>
      rcases write_raw_eq_ok_iff.mp h with ⟨habsent, rfl⟩ | ⟨hpresent, head, body, hv, hh, rfl⟩
      · obtain ⟨rfl, hv⟩ := Bool.and_eq_true .. |>.mp habsent
        exact .absent hv
      · obtain ⟨hcount, rfl⟩ := (LengthField.write_eq_ok_iff hp.self).mp hh
        rw [List.length_append, Endian.length_write]
        exact .raw hpresent hv hcount
  | embedded length layout omitIfEmpty ih =>
    intro hp v data h
    obtain ⟨hproper, hlayout⟩ := everywhere_embedded_iff.mp hp
    cases length with
    | none => exact .greedyEmbedded (ih hlayout (write_greedyEmbedded_eq_ok_iff.mp h))
    | some length =>
      rcases write_embedded_eq_ok_iff.mp h with ⟨habsent, rfl⟩ | ⟨hpresent, head, body, hw, hh, rfl⟩
      · obtain ⟨rfl, hv⟩ := Bool.and_eq_true .. |>.mp habsent
        exact .absent hv
      · obtain ⟨hcount, rfl⟩ := (LengthField.write_eq_ok_iff hproper).mp hh
        rw [List.length_append, Endian.length_write]
        exact .embedded hpresent (ih hlayout hw) hcount
  | custom transform base ih =>
    intro hp v data h
    obtain ⟨raw, he, hw⟩ := write_custom_eq_ok_iff.mp h
    exact .custom he (ih (everywhere_custom_iff.mp hp).2 hw)
  | malformedMagic shown => intro _ v data h; exact absurd h (by simp [write])
  | malformed shown => intro _ v data h; exact absurd h (by simp [write])

/-- **A value is written exactly when it conforms**, to as many bytes as were counted. -/
theorem conforms_iff_write {s : Schema} {v : Value} {n : Nat} (hp : s.Everywhere IsProper) :
    s.Conforms v n ↔ ∃ data, s.write v = .ok data ∧ data.length = n := by
  constructor
  · intro h
    exact write_of_conforms h hp
  · rintro ⟨data, hw, rfl⟩
    exact conforms_of_write hp hw

/-! ## Static sizes -/

theorem totalSize_of_staticSizes {size : String × Schema → Nat} {fields : List (String × Schema)}
    (ih : ∀ field ∈ fields, ∀ {m : Int}, field.2.staticSize? = some m → (size field : Int) = m) :
    ∀ {m : Int}, staticSizes? fields = some m → (totalSize size fields : Int) = m := by
  induction fields with
  | nil =>
    intro m h
    cases h
    rfl
  | cons field fields ihf =>
    obtain ⟨name, s⟩ := field
    obtain ⟨hs, ih⟩ := List.forall_mem_cons.mp ih
    intro m h
    unfold staticSizes? at h
    split at h
    · rename_i a b ha hb
      cases h
      rw [totalSize, Int.natCast_add, hs ha, ihf ih hb]
    · cases h

/-- What conforms takes up the static size of its schema, where that has one. -/
theorem Conforms.size_eq {s : Schema} {v : Value} {n : Nat} (h : s.Conforms v n) :
    ∀ {m : Int}, s.staticSize? = some m → (n : Int) = m := by
  induction h with
  | uint | magic | nothing =>
    intro m h
    cases h
    rfl
  | fixed _ hlen =>
    intro m h
    cases h
    exact hlen
  | struct _ _ _ ih => exact totalSize_of_staticSizes ih
  | custom _ _ ih => exact ih
  | union | run | counted | greedy | absent | raw | greedyEmbedded | embedded =>
    intro m h
    cases h

end Schema

/-! ## How writing fails -/

/-- The integers that the message of a refusal shows. -/
def TransformFault.integers : TransformFault → List Int
  | .unmappedMode code => [code]
  | .notAMode value => value.integers
  | _ => []

/-- The integers that the message of a cause shows. -/
def Cause.integers : Cause → List Int
  | .outOfRange n _ | .wrongSize n _ | .emptyLengthField n => [n]
  | .unmappedTag tag => tag.integers
  | .transform fault => fault.integers
  | _ => []

/-- A fault that writing a value may end in: a violation of the schema, a number out of range, or a
message of one of these that shows an integer of too many digits. -/
def Cause.OfWriting (cause : Cause) : Prop :=
  cause.kind = .schemaViolation ∨ cause.kind = .valueOutOfRange ∨
    cause.kind = .invalidValue ∧ ∃ n ∈ cause.integers, ¬ Number.IsWritable n

theorem exists_long_of_decimal {n : Int} {fault : Number.DigitFault}
    (h : Number.decimal n = .error fault) : ∃ m ∈ [n], ¬ Number.IsWritable m := by
  refine ⟨n, List.mem_singleton_self n, fun hn => ?_⟩
  rw [Number.decimal_of_isWritable hn] at h
  cases h

/-- A message is missing only where it shows an integer of too many digits. -/
theorem TransformFault.exists_long {refusal : TransformFault} {fault : Number.DigitFault}
    (hfamily : refusal.family ≠ .invalidValue) (h : refusal.shown = .error fault) :
    ∃ n ∈ refusal.integers, ¬ Number.IsWritable n := by
  cases refusal with
  | unmappedMode code => exact exists_long_of_decimal h
  | notAMode value => exact Value.exists_long_of_shown h
  | unreadable fault => exact absurd rfl hfamily
  | _ => cases h

theorem Cause.exists_long {cause : Cause} {fault : Number.DigitFault}
    (hfamily : cause.family ≠ .invalidValue) (h : cause.shown = .error fault) :
    ∃ n ∈ cause.integers, ¬ Number.IsWritable n := by
  cases cause with
  | outOfRange | wrongSize | emptyLengthField => exact exists_long_of_decimal h
  | unmappedTag tag => exact Value.exists_long_of_printed h
  | transform refusal => exact refusal.exists_long hfamily h
  | _ => cases h

/-- What is meant to be a violation or a number out of range is one, if it can be said. -/
theorem Cause.ofWriting_of_family {cause : Cause}
    (h : cause.family = .schemaViolation ∨ cause.family = .valueOutOfRange) :
    cause.OfWriting := by
  have hfamily : cause.family ≠ .invalidValue := by
    rcases h with h | h <;> rw [h] <;> decide
  unfold OfWriting kind
  cases hs : cause.shown with
  | ok text =>
    rcases h with h | h
    · exact Or.inl h
    · exact Or.inr (Or.inl h)
  | error fault => exact Or.inr (Or.inr ⟨rfl, cause.exists_long hfamily hs⟩)

theorem failsWith_violation {phase : Phase} {cause : Cause} {α : Type}
    (h : cause.family = .schemaViolation) :
    FailsWith Cause.OfWriting (fail phase cause : Except Fault α) :=
  failsWith_fail (Cause.ofWriting_of_family (Or.inl h))

theorem Word.failsWith_ofWriting {word : Word} {n : Int} :
    FailsWith Cause.OfWriting (word.write n) :=
  Word.failsWith_write (Cause.ofWriting_of_family (Or.inr rfl))

theorem LengthField.failsWith_write {length : LengthField} {n : Nat} (hwidth : 0 < length.width) :
    FailsWith Cause.OfWriting (length.write n) := by
  have hpos : 0 < length.width.toNat := by omega
  have hword : length.word? = some ⟨length.width.toNat, length.order, hpos⟩ := dif_pos hpos
  unfold LengthField.write
  rw [hword]
  dsimp only
  split
  · exact failsOnly_ok
  · exact failsWith_fail (Cause.ofWriting_of_family (Or.inr rfl))

theorem failsWith_requireBytes {v : Value} : FailsWith Cause.OfWriting (requireBytes v) := by
  unfold requireBytes
  split
  · exact failsOnly_ok
  · exact failsWith_violation rfl

theorem failsWith_requireItems {v : Value} : FailsWith Cause.OfWriting (requireItems v) := by
  unfold requireItems
  split
  · exact failsOnly_ok
  · exact failsWith_violation rfl

theorem failsWith_requireFields {names : List String} {v : Value} :
    FailsWith Cause.OfWriting (requireFields names v) := by
  unfold requireFields
  split
  · split
    · exact failsWith_violation rfl
    · exact failsOnly_ok
  · exact failsWith_violation rfl

theorem failsWith_requireVariant {v : Value} :
    FailsWith Cause.OfWriting (requireVariant v) := by
  unfold requireVariant
  split
  · exact failsOnly_ok
  · exact failsWith_violation rfl

namespace Schema

/-- A transform that refuses a value means to do so with a fault of the same two families. -/
def RefusesDeclared : Schema → Prop
  | .custom transform _ => ∀ v fault, transform.encode v = .error fault →
      fault.family = .schemaViolation ∨ fault.family = .valueOutOfRange
  | _ => True

variable {P : Cause → Prop}

theorem failsWith_writeItems {element : Value → Except Fault Bytes}
    (he : ∀ item, FailsWith P (element item)) {items : List Value} :
    FailsWith P (writeItems element items) := by
  apply failsOnly_bind (failsOnly_mapM he)
  intro parts _
  exact failsOnly_ok

theorem failsWith_writeFields {entries : List (String × Value)} {fields : List (String × Schema)}
    (hnames : ∀ field ∈ fields, field.2.isMagic = false → field.1 ≠ "")
    (ih : ∀ field ∈ fields, ∀ v, FailsWith P (field.2.write v)) :
    FailsWith P (writeFields fields entries) := by
  induction fields with
  | nil => exact failsOnly_ok
  | cons field fields ihf =>
    obtain ⟨name, s⟩ := field
    obtain ⟨hname, hnames⟩ := List.forall_mem_cons.mp hnames
    obtain ⟨hs, ih⟩ := List.forall_mem_cons.mp ih
    have htail : ∀ head : Bytes, FailsWith P (do
        let tail ← writeFields fields entries
        .ok (head ++ tail)) := by
      intro head
      apply failsOnly_bind (ihf hnames ih)
      intro tail _
      exact failsOnly_ok
    rw [writeFields]
    cases hm : s.isMagic with
    | true => exact failsOnly_bind (hs _) fun head _ => htail head
    | false =>
      -- a field that has a name is looked up by it and by nothing else
      have hempty : name.isEmpty = false := by simpa using hname hm
      simp only [hempty, Bool.false_and, Bool.false_eq_true, if_false]
      exact failsOnly_bind (failsWith_within (hs _)) fun head _ => htail head

theorem failsWith_writeArm {arms : List (Int × String × Schema)} {n : Int} {payload : Value}
    (ih : ∀ arm ∈ arms, ∀ v, FailsWith P (arm.2.2.write v)) :
    FailsWith P (writeArm arms n payload) := by
  induction arms with
  | nil => exact failsOnly_ok
  | cons arm arms iha =>
    obtain ⟨t, name, s⟩ := arm
    obtain ⟨hs, ih⟩ := List.forall_mem_cons.mp ih
    rw [writeArm]
    split
    · exact hs payload
    · exact iha ih

theorem failsWith_writeWindow {length : Option LengthField} {omitIfEmpty : Bool}
    {content : Value → Except Fault Bytes} {v : Value}
    (hwidth : ∀ field ∈ length, 0 < field.width)
    (hc : FailsWith Cause.OfWriting (content v)) :
    FailsWith Cause.OfWriting (writeWindow length omitIfEmpty content v) := by
  cases length with
  | none => exact hc
  | some length =>
    unfold writeWindow
    dsimp only
    split
    · exact failsOnly_ok
    · apply failsOnly_bind hc
      intro data _
      apply failsOnly_bind (LengthField.failsWith_write (hwidth length rfl))
      intro head _
      exact failsOnly_ok

/-- **Whatever the value is**, the fault is one that a caller is meant to handle, or its message shows
an integer of too many digits. -/
theorem failsWith_write {s : Schema} :
    s.Everywhere IsProper → s.Everywhere RefusesDeclared →
      ∀ v, FailsWith Cause.OfWriting (s.write v) := by
  induction s using Schema.induction with
  | uint word =>
    intro _ _ v
    rw [write, writeWord]
    split
    · exact Word.failsWith_ofWriting
    · exact failsWith_violation rfl
  | fixed size =>
    intro _ _ v
    rw [write, writeFixed]
    apply failsOnly_bind failsWith_requireBytes
    intro data _
    split
    · exact failsOnly_ok
    · exact failsWith_violation rfl
  | magic data => intro _ _ v; exact failsOnly_ok
  | nothing => intro _ _ v; exact failsOnly_ok
  | struct fields ih =>
    intro hp hd v
    obtain ⟨hproper, hp⟩ := everywhere_struct_iff.mp hp
    obtain ⟨-, hd⟩ := everywhere_struct_iff.mp hd
    rw [write]
    apply failsOnly_bind failsWith_requireFields
    intro entries _
    exact failsWith_writeFields (fun field hf => name_ne_of_isProper hproper hf)
      (fun field hf => ih field hf (hp field hf) (hd field hf))
  | union tag arms iht iha =>
    intro hp hd v
    obtain ⟨-, htag, harms⟩ := everywhere_union_iff.mp hp
    obtain ⟨-, htag', harms'⟩ := everywhere_union_iff.mp hd
    rw [write]
    apply failsOnly_bind failsWith_requireVariant
    rintro ⟨name, payload⟩ _
    dsimp only
    split
    · exact failsWith_violation rfl
    · apply failsOnly_bind (failsWith_within (iht htag htag' _))
      intro head _
      apply failsOnly_bind (failsWith_within (failsWith_writeArm
        fun arm ha => iha arm ha (harms arm ha) (harms' arm ha)))
      intro body _
      exact failsOnly_ok
  | sequence length element ih =>
    intro hp hd v
    obtain ⟨hproper, helement⟩ := everywhere_sequence_iff.mp hp
    obtain ⟨-, hd⟩ := everywhere_sequence_iff.mp hd
    have hitems : ∀ {items : List Value},
        FailsWith Cause.OfWriting (writeItems (fun item => element.write item) items) :=
      failsWith_writeItems (ih helement hd)
    rw [write, writeSequence]
    apply failsOnly_bind failsWith_requireItems
    intro items _
    cases length with
    | none => exact hitems
    | some length =>
      apply failsOnly_bind (failsWith_within (LengthField.failsWith_write hproper))
      intro head _
      apply failsOnly_bind (failsWith_within hitems)
      intro body _
      exact failsOnly_ok
  | raw length omitIfEmpty =>
    intro hp _ v
    rw [write]
    refine failsWith_writeWindow (fun field hf => ?_) failsWith_requireBytes
    cases hf
    exact hp.self
  | embedded length layout omitIfEmpty ih =>
    intro hp hd v
    obtain ⟨hproper, hlayout⟩ := everywhere_embedded_iff.mp hp
    rw [write]
    refine failsWith_writeWindow (fun field hf => ?_)
      (failsWith_within (ih hlayout (everywhere_embedded_iff.mp hd).2 v))
    cases hf
    exact hproper
  | custom transform base ih =>
    intro hp hd v
    obtain ⟨hrefuses, hd⟩ := everywhere_custom_iff.mp hd
    rw [write]
    exact failsOnly_bind
      (failsWith_lift fun fault hf => Cause.ofWriting_of_family (hrefuses v fault hf))
      fun raw _ => ih (everywhere_custom_iff.mp hp).2 hd raw
  | malformedMagic shown => intro _ _ v; exact failsWith_violation rfl
  | malformed shown => intro _ _ v; exact failsWith_violation rfl

end Schema

end TokenBridge.Layout
