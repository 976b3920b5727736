import TokenBridge.Proofs.Layout.Input

/-!
# How reading fails

Bytes come from outside, so there is one answer to bytes that do not fit: a violation of the schema.
**A guarded schema gives no other** (`Schema.refuses_read`), whatever tags, counts and lengths the
bytes declare. Four things in a schema could give another, and the predicate is the absence of the
first three:

- a field without a name, whose value cannot be put anywhere;
- a tag that is no integer, which no table may be asked for;
- a transform that fails in a way of its own on what its base reads, and a length field of no bytes;
- a tag of so many bytes that the message on an unknown one cannot be written (`HasNarrowTag`).

What a reading can end in is said of an outcome and not of a fault, because it composes like the
reader does: through a step into a part, through a bind, through a loop over elements. It is said for
any property of causes that violations have, so that the faults of wide tags can be let in.
-/

namespace TokenBridge.Layout

variable {α β : Type}

/-- The outcome is an answer or a violation of the schema. -/
abbrev Refuses (x : Except Fault α) : Prop :=
  FailsWith (fun cause => cause.kind = .schemaViolation) x

/-- The outcome is a violation of the schema, in these words. -/
def Violates (x : Except Fault α) (message : String) : Prop :=
  ∃ fault, x = .error fault ∧ fault.kind = .schemaViolation ∧ fault.message = message

theorem Cause.kind_unmappedTag_int {n : Int} :
    (Cause.unmappedTag (.int n)).kind = Number.kindShowing (Number.decimal n) .schemaViolation := by
  rw [← Value.printed_int]
  rfl

section Violations

variable {P : Cause → Prop} (hviolation : ∀ cause : Cause, cause.kind = .schemaViolation → P cause)
include hviolation

theorem Word.failsWith_read {word : Word} {window : Bytes} : FailsWith P (word.read window) := by
  unfold Word.read
  split
  · exact failsOnly_ok
  · exact failsWith_fail (hviolation _ rfl)

theorem LengthField.failsWith_read {length : LengthField} {window : Bytes}
    (hwidth : 0 < length.width) : FailsWith P (length.read window) := by
  have hpos : 0 < length.width.toNat := by omega
  have hword : length.word? = some ⟨length.width.toNat, length.order, hpos⟩ := dif_pos hpos
  unfold LengthField.read
  rw [hword]
  exact Word.failsWith_read hviolation

end Violations

namespace Schema

/-! ## Guarded schemas -/

mutual

/-- Bytes that do not fit the schema violate it, and fail in no other way. -/
def Guarded : Schema → Prop
  | .uint _ | .fixed _ | .magic _ | .nothing | .malformedMagic _ | .malformed _ => True
  | .struct fields => (∀ name ∈ valueNames fields, name ≠ "") ∧ FieldsGuarded fields
  | .union tag arms => tag.isInteger = true ∧ ArmsGuarded arms
  | .sequence length element => (∀ field ∈ length, 0 < field.width) ∧ Guarded element
  | .bytes length none _ => ∀ field ∈ length, 0 < field.width
  | .bytes length (some layout) _ => (∀ field ∈ length, 0 < field.width) ∧ Guarded layout
  | .custom transform base =>
    Guarded base ∧ ∀ window raw rest fault, base.read window = .ok (raw, rest) →
      transform.decode raw = .error fault → fault.kind = .schemaViolation

/-- Every field has a guarded schema. -/
def FieldsGuarded : List (String × Schema) → Prop
  | [] => True
  | (_, s) :: fields => Guarded s ∧ FieldsGuarded fields

/-- Every arm has a guarded payload. -/
def ArmsGuarded : List (Int × String × Schema) → Prop
  | [] => True
  | (_, _, s) :: arms => Guarded s ∧ ArmsGuarded arms

end

theorem fieldsGuarded_iff {fields : List (String × Schema)} :
    FieldsGuarded fields ↔ ∀ field ∈ fields, field.2.Guarded := by
  induction fields with
  | nil => simp [FieldsGuarded]
  | cons field fields ih => simp [FieldsGuarded, ih]

theorem armsGuarded_iff {arms : List (Int × String × Schema)} :
    ArmsGuarded arms ↔ ∀ arm ∈ arms, arm.2.2.Guarded := by
  induction arms with
  | nil => simp [ArmsGuarded]
  | cons arm arms ih => simp [ArmsGuarded, ih]

/-- Every number that the tag of the node can be is small enough to be written. -/
def HasNarrowTag : Schema → Prop
  | .union (.uint word) _ => word.size ≤ Number.writableBytes
  | _ => True

instance : DecidablePred HasNarrowTag
  | .union (.uint word) _ => inferInstanceAs (Decidable (word.size ≤ Number.writableBytes))
  | .union (.fixed _) _ | .union (.magic _) _ | .union .nothing _ | .union (.struct _) _
  | .union (.union ..) _ | .union (.sequence ..) _ | .union (.bytes ..) _ | .union (.custom ..) _
  | .union (.malformedMagic _) _ | .union (.malformed _) _ | .uint _ | .fixed _ | .magic _ | .nothing
  | .struct _ | .sequence .. | .bytes .. | .custom .. | .malformedMagic _ | .malformed _ =>
    isTrue trivial

/-- An unknown tag of the node is a fault of this sort. -/
def RefusesTags (P : Cause → Prop) : Schema → Prop
  | .union (.uint word) _ => ∀ n : Nat, n < 256 ^ word.size → P (.unmappedTag (.int n))
  | _ => True

/-! ## Refusals of each node -/

section Violations

variable {P : Cause → Prop} (hviolation : ∀ cause : Cause, cause.kind = .schemaViolation → P cause)
  {window : Bytes}

theorem failsWith_readCount {element : Bytes → Except Fault (Value × Bytes)}
    (he : ∀ window, FailsWith P (element window)) :
    ∀ {count : Nat} {done : List Value} {window : Bytes},
      FailsWith P (readCount element count done window) := by
  intro count
  induction count with
  | zero => intro done window; exact failsOnly_ok
  | succ count ih =>
    intro done window
    rw [readCount]
    cases hw : element window with
    | ok answer => exact ih
    | error fault =>
      intro other ho
      cases ho
      exact he window _ hw

theorem failsWith_readFields {fields : List (String × Schema)}
    (ih : ∀ field ∈ fields, ∀ window, FailsWith P (field.2.read window)) :
    ∀ {window : Bytes}, FailsWith P (readFields fields window) := by
  induction fields with
  | nil => intro window; exact failsOnly_ok
  | cons field fields ihf =>
    obtain ⟨name, s⟩ := field
    have hs := ih (name, s) List.mem_cons_self
    have htail := fun window => @ihf (fun field hf => ih field (List.mem_cons_of_mem _ hf)) window
    intro window
    rw [readFields]
    split
    · exact failsOnly_bind (hs window) fun answer _ => htail _
    · refine failsOnly_bind (failsWith_within (hs window)) fun answer _ => ?_
      exact failsOnly_bind (htail _) fun entries _ => failsOnly_ok

theorem failsWith_readArm {tag : Value} {arms : List (Int × String × Schema)}
    (htag : P (.unmappedTag tag))
    (ih : ∀ arm ∈ arms, ∀ window, FailsWith P (arm.2.2.read window)) :
    FailsWith P (readArm arms tag window) := by
  induction arms with
  | nil => exact failsWith_within (failsWith_fail htag)
  | cons arm arms iha =>
    obtain ⟨t, name, s⟩ := arm
    rw [readArm]
    split
    · exact failsOnly_bind (failsWith_within (ih (t, name, s) List.mem_cons_self window))
        fun answer _ => failsOnly_ok
    · exact iha fun arm ha => ih arm (List.mem_cons_of_mem _ ha)

include hviolation

theorem failsWith_readSequence {length : Option LengthField}
    {element : Bytes → Except Fault (Value × Bytes)} (hwidth : ∀ field ∈ length, 0 < field.width)
    (he : ∀ window, FailsWith P (element window)) :
    FailsWith P (readSequence length element window) := by
  cases length with
  | none =>
    -- an element that cannot be read ends the run and is no failure
    exact failsOnly_ok
  | some length =>
    refine failsOnly_bind
      (failsWith_within (LengthField.failsWith_read hviolation (hwidth length rfl))) fun count _ => ?_
    exact failsOnly_bind (failsWith_within (failsWith_readCount he)) fun items _ => failsOnly_ok

theorem failsWith_readWindow {length : Option LengthField} {omitIfEmpty : Bool}
    {content : Bytes → Except Fault Value} (hwidth : ∀ field ∈ length, 0 < field.width)
    (hc : ∀ inner, FailsWith P (content inner)) :
    FailsWith P (readWindow length omitIfEmpty content window) := by
  cases length with
  | none => exact failsOnly_bind (hc window) fun v _ => failsOnly_ok
  | some length =>
    simp only [readWindow]
    split
    · exact failsOnly_ok
    · refine failsOnly_bind (LengthField.failsWith_read hviolation (hwidth length rfl))
        fun answer _ => ?_
      split
      · exact failsWith_fail (hviolation _ rfl)
      · exact failsOnly_bind (hc _) fun v _ => failsOnly_ok

theorem failsWith_readWhole {layout : Bytes → Except Fault (Value × Bytes)} {content : Bytes}
    (hl : FailsWith P (layout content)) : FailsWith P (readWhole layout content) := by
  unfold readWhole
  split
  · exact failsOnly_ok
  · exact failsWith_fail (hviolation _ rfl)
  · rename_i fault h
    intro other ho
    cases ho
    exact failsWith_within hl _ h

/-- **Reading under a guarded schema fails with a violation of the schema, for an unknown tag, or not
at all.** -/
theorem failsWith_read {s : Schema} :
    s.Guarded → s.Everywhere (RefusesTags P) → ∀ window, FailsWith P (s.read window) := by
  induction s using Schema.induction with
  | uint word =>
    intro _ _ window
    exact failsOnly_bind (Word.failsWith_read hviolation) fun answer _ => failsOnly_ok
  | fixed size =>
    intro _ _ window
    show FailsWith P (readFixed size window)
    unfold readFixed
    split
    · exact failsWith_fail (hviolation _ rfl)
    · split
      · exact failsOnly_ok
      · exact failsWith_fail (hviolation _ rfl)
  | magic data =>
    intro _ _ window
    show FailsWith P (readMagic data window)
    unfold readMagic
    split
    · exact failsWith_fail (hviolation _ rfl)
    · split
      · exact failsOnly_ok
      · exact failsWith_fail (hviolation _ rfl)
  | nothing => intro _ _ window; exact failsOnly_ok
  | struct fields ih =>
    intro hg ht window
    rw [Guarded, fieldsGuarded_iff] at hg
    obtain ⟨hnames, hg⟩ := hg
    have ht := (everywhere_struct_iff.mp ht).2
    refine failsOnly_bind
      (failsWith_readFields fun field hf => ih field hf (hg field hf) (ht field hf)) ?_
    rintro ⟨entries, rest⟩ hf
    -- what is read has the names of the fields, so none of them is empty
    have hnamed : entries.any (·.1.isEmpty) = false := by
      refine List.any_eq_false.mpr fun entry he => ?_
      have hmem : entry.1 ∈ valueNames fields := readFields_names hf ▸ List.mem_map_of_mem he
      simpa using hnames entry.1 hmem
    show FailsWith P (if entries.any (·.1.isEmpty) then _ else _)
    rw [hnamed]
    exact failsOnly_ok
  | union tag arms iht iha =>
    intro hg ht window
    rw [Guarded, armsGuarded_iff] at hg
    obtain ⟨htag, hg⟩ := hg
    obtain ⟨hself, hbelow, harms⟩ := everywhere_union_iff.mp ht
    -- an integer is a key, so what is left to fail is the table and the payload
    cases tag with
    | uint word =>
      refine failsOnly_bind (failsWith_within (iht trivial hbelow window)) ?_
      rintro ⟨t, rest⟩ hread
      obtain ⟨n, head, hw, -, rfl⟩ := read_uint_eq_ok_iff.mp (within_eq_ok_iff.mp hread)
      obtain ⟨m, hm, hlt, -⟩ := Word.write_eq_ok_iff.mp hw
      obtain rfl : n = m := by exact_mod_cast hm
      exact failsWith_readArm (hself n hlt) fun arm ha => iha arm ha (hg arm ha) (harms arm ha)
    | _ => cases htag
  | sequence length element ih =>
    intro hg ht window
    exact failsWith_readSequence hviolation hg.1 (ih hg.2 (everywhere_sequence_iff.mp ht).2)
  | raw length omitIfEmpty =>
    intro hg _ window
    exact failsWith_readWindow hviolation hg fun inner => failsOnly_ok
  | embedded length layout omitIfEmpty ih =>
    intro hg ht window
    refine failsWith_readWindow hviolation hg.1 fun inner => ?_
    exact failsWith_readWhole hviolation (ih hg.2 (everywhere_embedded_iff.mp ht).2 inner)
  | custom transform base ih =>
    intro hg ht window
    obtain ⟨hbase, hd⟩ := hg
    refine failsOnly_bind (ih hbase (everywhere_custom_iff.mp ht).2 window) ?_
    rintro ⟨raw, rest⟩ hb
    refine failsOnly_bind
      (failsWith_lift fun fault hf => hviolation _ (hd window raw rest fault hb hf)) ?_
    intro v _
    exact failsOnly_ok
  | malformedMagic shown => intro _ _ window; exact failsWith_fail (hviolation _ rfl)
  | malformed shown => intro _ _ window; exact failsWith_fail (hviolation _ rfl)

end Violations

/-- The number of a narrow tag can be written, so an unknown one is a violation. -/
theorem refusesTags_of_hasNarrowTag {s : Schema} (h : s.HasNarrowTag) :
    s.RefusesTags fun cause => cause.kind = .schemaViolation := by
  unfold RefusesTags
  split
  · rename_i word arms
    intro n hn
    exact Cause.kind_unmappedTag_int.trans
      (Number.kindShowing_decimal_of_isWritable (Number.isWritable_of_lt_pow hn h))
  · trivial

/-- **Reading under a guarded schema with narrow tags fails with a violation of the schema or not at
all.** -/
theorem refuses_read {s : Schema} (hg : s.Guarded) (ht : s.Everywhere HasNarrowTag)
    (window : Bytes) : Refuses (s.read window) :=
  failsWith_read (fun _ => id) hg (fun node hn => refusesTags_of_hasNarrowTag (ht node hn)) window

end Schema

/-! ## Refusals of an input -/

theorem Schema.kind_of_defectOfFields? {fields : List (String × Schema)}
    (ih : ∀ field ∈ fields, ∀ cause, field.2.defect? = some cause →
      cause.kind = .schemaViolation) :
    ∀ {cause : Cause}, defectOfFields? fields = some cause → cause.kind = .schemaViolation := by
  induction fields with
  | nil => intro cause h; cases h
  | cons field fields ihf =>
    intro cause h
    rw [defectOfFields?] at h
    cases hs : field.2.defect? with
    | some other =>
      rw [hs] at h
      cases h
      exact ih field List.mem_cons_self _ hs
    | none =>
      rw [hs] at h
      exact ihf (fun field hf => ih field (List.mem_cons_of_mem _ hf)) h

theorem Schema.kind_of_defectOfArms? {arms : List (Int × String × Schema)}
    (ih : ∀ arm ∈ arms, ∀ cause, arm.2.2.defect? = some cause → cause.kind = .schemaViolation) :
    ∀ {cause : Cause}, defectOfArms? arms = some cause → cause.kind = .schemaViolation := by
  induction arms with
  | nil => intro cause h; cases h
  | cons arm arms iha =>
    intro cause h
    rw [defectOfArms?] at h
    cases hs : arm.2.2.defect? with
    | some other =>
      rw [hs] at h
      cases h
      exact ih arm List.mem_cons_self _ hs
    | none =>
      rw [hs] at h
      exact iha (fun arm ha => ih arm (List.mem_cons_of_mem _ ha)) h

/-- That a schema cannot be used is a violation too. -/
theorem Schema.kind_of_defect? {s : Schema} :
    ∀ cause, s.defect? = some cause → cause.kind = .schemaViolation := by
  induction s using Schema.induction with
  | uint | fixed | magic | nothing | raw => intro cause h; cases h
  | struct fields ih => intro cause h; exact kind_of_defectOfFields? ih h
  | union tag arms iht iha =>
    intro cause h
    rw [defect?] at h
    split at h
    · rename_i other hother
      cases h
      exact kind_of_defectOfArms? iha hother
    · exact iht cause h
  | sequence length element ih =>
    intro cause h
    rw [defect?] at h
    split at h
    · rename_i other hother
      cases h
      exact ih _ hother
    · split at h
      · cases h
        rfl
      · cases h
  | embedded length layout omitIfEmpty ih => intro cause h; exact ih cause h
  | custom transform base ih => intro cause h; exact ih cause h
  | malformedMagic shown => intro cause h; cases h; rfl
  | malformed shown => intro cause h; cases h; rfl

section Inputs

variable {P : Cause → Prop} (hviolation : ∀ cause : Cause, cause.kind = .schemaViolation → P cause)
  {s : Schema} {data : Bytes}
include hviolation

theorem failsWith_decode (hs : s.Guarded) (ht : s.Everywhere (Schema.RefusesTags P)) :
    FailsWith P (decode s data) := by
  unfold decode
  split
  · rename_i cause hcause
    exact failsWith_fail (hviolation _ (Schema.kind_of_defect? cause hcause))
  · exact failsOnly_bind (Schema.failsWith_read hviolation hs ht data) fun answer _ => failsOnly_ok

theorem failsWith_deserialize (hs : s.Guarded) (ht : s.Everywhere (Schema.RefusesTags P)) :
    FailsWith P (deserialize s data) := by
  refine failsOnly_bind (failsWith_decode hviolation hs ht) ?_
  rintro ⟨v, consumed⟩ _
  dsimp only
  split
  · exact failsOnly_ok
  · exact failsWith_fail (hviolation _ rfl)

end Inputs

theorem refuses_deserialize {s : Schema} {data : Bytes} (hs : s.Guarded)
    (ht : s.Everywhere Schema.HasNarrowTag) : Refuses (deserialize s data) :=
  failsWith_deserialize (fun _ => id) hs
    fun node hn => Schema.refusesTags_of_hasNarrowTag (ht node hn)

end TokenBridge.Layout
