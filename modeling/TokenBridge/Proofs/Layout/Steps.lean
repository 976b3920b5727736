import TokenBridge.Layout.Reader
import TokenBridge.Proofs.Outcome

/-!
# Steps of the writer and the reader

Writing and reading are chains of steps in `Except`, and a theorem about a value that was written or
bytes that were read starts from "the chain succeeded". The lemmas here say what that means for each
link of a chain: a bind succeeded when both its halves did, a step into a part of a schema changes
only the path of a fault, and a fault is no success.

The middle part is the one place where bytes of integers are touched. **A word and a length field
read exactly what they write** (`Word.read_eq_ok_iff`, `LengthField.read_eq_ok_iff`): both
directions of every round trip, and the agreement of a window with the bytes in it, take their
integers from these two equivalences and never look at a byte order again.

`Schema` is nested: fields and arms are lists of pairs, a layout is an option. The induction over
schemas (`Schema.induction`) is stated once, with its hypotheses over the members of a list, and
what a struct or a union needs is a small induction over that list with the hypothesis handed in.
-/

namespace TokenBridge.Layout

variable {α β : Type}

/-! ## Links of a chain -/

@[simp] theorem within_eq_ok_iff {step : Step} {x : Except Fault α} {a : α} :
    within step x = .ok a ↔ x = .ok a := by
  cases x with
  | error fault => simp [within]
  | ok b => simp [within]

@[simp] theorem fail_ne_ok {phase : Phase} {cause : Cause} {a : α} :
    fail phase cause ≠ .ok a := by
  simp [fail]

@[simp] theorem lift_eq_ok_iff {phase : Phase} {x : Except TransformFault α} {a : α} :
    lift phase x = .ok a ↔ x = .ok a := by
  cases x with
  | error fault => simp [lift]
  | ok b => simp [lift]

/-! ## Faults of a chain -/

/-- The outcome is no fault, or a fault whose cause has the property. -/
def FailsWith (P : Cause → Prop) (x : Except Fault α) : Prop :=
  FailsOnly (fun fault => P fault.cause) x

section FailsWith

variable {P : Cause → Prop} {phase : Phase}

theorem failsWith_fail {cause : Cause} (h : P cause) :
    FailsWith P (fail phase cause : Except Fault α) :=
  failsOnly_error h

theorem failsWith_within {step : Step} {x : Except Fault α} (h : FailsWith P x) :
    FailsWith P (within step x) := by
  cases x with
  | ok a => exact failsOnly_ok
  | error fault => exact failsOnly_error (h fault rfl)

theorem failsWith_lift {x : Except TransformFault α}
    (h : ∀ fault, x = .error fault → P (.transform fault)) : FailsWith P (lift phase x) := by
  cases x with
  | ok a => exact failsOnly_ok
  | error fault => exact failsWith_fail (h fault rfl)

end FailsWith

/-! ## Words and length fields -/

theorem Word.write_eq_ok_iff {word : Word} {n : Int} {data : Bytes} :
    word.write n = .ok data ↔
      ∃ m : Nat, n = m ∧ m < 256 ^ word.size ∧ data = word.order.write word.size m := by
  unfold Word.write
  split
  · rename_i h
    constructor
    · intro hd
      exact ⟨n.toNat, by omega, h.2, (Except.ok.inj hd).symm⟩
    · rintro ⟨m, rfl, -, rfl⟩
      rw [Int.toNat_natCast]
  · rename_i h
    constructor
    · intro hd
      exact absurd hd fail_ne_ok
    · rintro ⟨m, rfl, hm, -⟩
      exact absurd ⟨Int.natCast_nonneg m, by rwa [Int.toNat_natCast]⟩ h

theorem Word.failsWith_write {word : Word} {n : Int} {P : Cause → Prop}
    (h : P (.outOfRange n (8 * word.size))) : FailsWith P (word.write n) := by
  unfold Word.write
  split
  · exact failsOnly_ok
  · exact failsWith_fail h

theorem Word.length_of_write {word : Word} {n : Int} {head : Bytes} (h : word.write n = .ok head) :
    head.length = word.size := by
  obtain ⟨m, -, -, rfl⟩ := Word.write_eq_ok_iff.mp h
  exact Endian.length_write ..

/-- **A word reads exactly what it writes**, and leaves the rest. -/
theorem Word.read_eq_ok_iff {word : Word} {window rest : Bytes} {n : Nat} :
    word.read window = .ok (n, rest) ↔ ∃ head, word.write n = .ok head ∧ window = head ++ rest := by
  constructor
  · intro h
    unfold Word.read at h
    cases hs : Bytes.split? word.size window with
    | none => rw [hs] at h; exact absurd h fail_ne_ok
    | some parts =>
      obtain ⟨head, tail⟩ := parts
      rw [hs] at h
      obtain ⟨rfl, rfl⟩ := Prod.mk.inj (Except.ok.inj h)
      obtain ⟨hlen, rfl⟩ := Bytes.split?_eq_some_iff.mp hs
      -- bytes of the word's size are those of their own number, so there is no other way to write it
      refine ⟨head, Word.write_eq_ok_iff.mpr ⟨_, rfl, ?_, ?_⟩, rfl⟩
      · rw [← hlen]
        exact word.order.read_lt head
      · rw [← hlen, word.order.write_read]
  · rintro ⟨head, hw, rfl⟩
    obtain ⟨m, hm, hlt, rfl⟩ := Word.write_eq_ok_iff.mp hw
    obtain rfl : n = m := by exact_mod_cast hm
    exact Word.read_append hlt rest

/-- A length field of a word's width writes what the word writes. -/
theorem LengthField.write_eq_ok_iff_word {length : LengthField} {word : Word} {n : Nat}
    {head : Bytes} (hword : length.word? = some word) :
    length.write n = .ok head ↔ word.write n = .ok head := by
  unfold LengthField.write
  rw [hword]
  dsimp only
  split
  · rename_i hlt
    rw [Word.write_natCast hlt]
  · rename_i hlt
    constructor
    · intro h
      exact absurd h fail_ne_ok
    · intro h
      obtain ⟨m, hm, hless, -⟩ := Word.write_eq_ok_iff.mp h
      obtain rfl : n = m := by exact_mod_cast hm
      exact absurd hless hlt

/-- A length that is written is that of a word. -/
theorem LengthField.word_of_write {length : LengthField} {n : Nat} {head : Bytes}
    (h : length.write n = .ok head) :
    ∃ word, length.word? = some word ∧ word.size = length.width.toNat ∧ word.write n = .ok head := by
  cases hword : length.word? with
  | some word =>
    obtain ⟨_, hsize⟩ := Option.dite_none_right_eq_some.mp hword
    exact ⟨word, rfl, by rw [← Option.some.inj hsize],
      (LengthField.write_eq_ok_iff_word hword).mp h⟩
  | none =>
    -- a field of a width that no word has writes nothing
    unfold LengthField.write at h
    rw [hword] at h
    dsimp only at h
    repeat' split at h
    all_goals exact absurd h fail_ne_ok

/-- **A length field reads exactly what it writes.** A field of a width that no word has does
neither. -/
theorem LengthField.read_eq_ok_iff {length : LengthField} {window rest : Bytes} {n : Nat} :
    length.read window = .ok (n, rest) ↔
      ∃ head, length.write n = .ok head ∧ window = head ++ rest := by
  constructor
  · intro h
    unfold LengthField.read at h
    cases hword : length.word? with
    | some word =>
      rw [hword] at h
      obtain ⟨head, hw, rfl⟩ := Word.read_eq_ok_iff.mp h
      exact ⟨head, (LengthField.write_eq_ok_iff_word hword).mpr hw, rfl⟩
    | none =>
      rw [hword] at h
      exact absurd h fail_ne_ok
  · rintro ⟨head, hw, rfl⟩
    obtain ⟨word, hword, -, hw⟩ := LengthField.word_of_write hw
    unfold LengthField.read
    rw [hword]
    exact Word.read_eq_ok_iff.mpr ⟨head, hw, rfl⟩

theorem LengthField.length_of_write {length : LengthField} {n : Nat} {head : Bytes}
    (h : length.write n = .ok head) : head.length = length.width.toNat := by
  obtain ⟨word, -, hsize, hw⟩ := LengthField.word_of_write h
  obtain ⟨m, -, -, rfl⟩ := Word.write_eq_ok_iff.mp hw
  rw [Endian.length_write, hsize]

/-- The bytes of a length are never none. -/
theorem LengthField.write_ne_nil {length : LengthField} {n : Nat} {head : Bytes}
    (h : length.write n = .ok head) : head ≠ [] := by
  obtain ⟨word, -, hsize, -⟩ := LengthField.word_of_write h
  have hlength := LengthField.length_of_write h
  have hpos := word.size_pos
  intro hnil
  rw [hnil, List.length_nil] at hlength
  omega

/-! ## Keys -/

/-- Among entries with distinct keys, the key of one finds it. -/
theorem find?_key_of_nodup {α β : Type} [BEq β] [LawfulBEq β] {key : α → β} {a : α} :
    ∀ {l : List α}, (l.map key).Nodup → a ∈ l → l.find? (fun b => key b == key a) = some a := by
  intro l
  induction l with
  | nil => intro _ ha; cases ha
  | cons b l ih =>
    intro hn ha
    obtain ⟨hb, hn⟩ := List.nodup_cons.mp hn
    rw [List.find?_cons]
    rcases List.mem_cons.mp ha with rfl | ha
    · simp
    · have hne : key b ≠ key a := fun h => hb (h ▸ List.mem_map_of_mem ha)
      rw [beq_eq_false_iff_ne.mpr hne]
      exact ih hn ha

theorem lookup_eq_some_of_mem {α : Type} {name : String} {v : α} {entries : List (String × α)}
    (hn : (entries.map (·.1)).Nodup) (he : (name, v) ∈ entries) :
    entries.lookup name = some v := by
  induction entries with
  | nil => cases he
  | cons entry entries ih =>
    obtain ⟨hne, hn⟩ := List.nodup_cons.mp hn
    rcases List.mem_cons.mp he with rfl | he
    · exact List.lookup_cons_self
    · have hdiff : (name == entry.1) = false :=
        beq_eq_false_iff_ne.mpr fun h => hne (List.mem_map.mpr ⟨(name, v), he, h⟩)
      rw [List.lookup_cons, hdiff]
      exact ih hn he

/-! ## Induction over schemas -/

namespace Schema

section Induction

variable {motive : Schema → Prop}
  (uint : ∀ word, motive (.uint word)) (fixed : ∀ size, motive (.fixed size)) (magic : ∀ data, motive (.magic data))
  (nothing : motive .nothing)
  (struct : ∀ fields, (∀ field ∈ fields, motive field.2) → motive (.struct fields))
  (union : ∀ tag arms, motive tag → (∀ arm ∈ arms, motive arm.2.2) → motive (.union tag arms))
  (sequence : ∀ length element, motive element → motive (.sequence length element))
  (raw : ∀ length omitIfEmpty, motive (.bytes length none omitIfEmpty))
  (embedded : ∀ length layout omitIfEmpty, motive layout →
    motive (.bytes length (some layout) omitIfEmpty))
  (custom : ∀ transform base, motive base → motive (.custom transform base))
  (malformedMagic : ∀ shown, motive (.malformedMagic shown))
  (malformed : ∀ shown, motive (.malformed shown))

include uint fixed magic nothing struct union sequence raw embedded custom malformedMagic
  malformed

/-- **Induction over schemas**, with the hypotheses for fields and arms over the members of the
list. -/
@[elab_as_elim] theorem induction (s : Schema) : motive s :=
  @Schema.rec motive (fun fields => ∀ field ∈ fields, motive field.2)
    (fun arms => ∀ arm ∈ arms, motive arm.2.2) (fun layout => ∀ s ∈ layout, motive s)
    (fun field => motive field.2) (fun arm => motive arm.2.2)
    uint fixed magic nothing struct union sequence
    (fun length layout omitIfEmpty ih =>
      match layout, ih with
      | none, _ => raw length omitIfEmpty
      | some s, ih => embedded length s omitIfEmpty (ih s rfl))
    custom malformedMagic malformed
    (fun _ h => absurd h List.not_mem_nil)
    (fun _ _ hhead htail field h => by
      rcases List.mem_cons.mp h with rfl | h
      · exact hhead
      · exact htail field h)
    (fun _ h => absurd h List.not_mem_nil)
    (fun _ _ hhead htail arm h => by
      rcases List.mem_cons.mp h with rfl | h
      · exact hhead
      · exact htail arm h)
    (fun _ h => absurd h (by simp))
    (fun _ hs _ h => by cases h; exact hs)
    (fun _ _ h => h) (fun _ _ h => h) s

end Induction

/-! ## Every node of a schema -/

mutual

/-- The schema and everything that it is built from. -/
def nodes : Schema → List Schema
  | .struct fields => .struct fields :: nodesOfFields fields
  | .union tag arms => .union tag arms :: (nodes tag ++ nodesOfArms arms)
  | .sequence length element => .sequence length element :: nodes element
  | .bytes length (some layout) omitIfEmpty =>
    .bytes length (some layout) omitIfEmpty :: nodes layout
  | .custom transform base => .custom transform base :: nodes base
  | s => [s]

/-- The nodes of the fields of a struct. -/
def nodesOfFields : List (String × Schema) → List Schema
  | [] => []
  | (_, s) :: fields => nodes s ++ nodesOfFields fields

/-- The nodes of the payloads of a union. -/
def nodesOfArms : List (Int × String × Schema) → List Schema
  | [] => []
  | (_, _, s) :: arms => nodes s ++ nodesOfArms arms

end

/-- Every node has the property. -/
def Everywhere (P : Schema → Prop) (s : Schema) : Prop := ∀ node ∈ s.nodes, P node

instance {P : Schema → Prop} [DecidablePred P] {s : Schema} : Decidable (s.Everywhere P) :=
  inferInstanceAs (Decidable (∀ node ∈ s.nodes, P node))

section Everywhere

variable {P : Schema → Prop} {s : Schema}

theorem Everywhere.self (h : s.Everywhere P) : P s := by
  apply h
  cases s with
  | bytes length layout omitIfEmpty => cases layout <;> exact List.mem_cons_self
  | _ => exact List.mem_cons_self

theorem everywhere_fields_iff {fields : List (String × Schema)} :
    (∀ node ∈ nodesOfFields fields, P node) ↔ ∀ field ∈ fields, field.2.Everywhere P := by
  induction fields with
  | nil => simp [nodesOfFields]
  | cons field fields ih => rw [nodesOfFields, List.forall_mem_append, ih, List.forall_mem_cons]; rfl

theorem everywhere_arms_iff {arms : List (Int × String × Schema)} :
    (∀ node ∈ nodesOfArms arms, P node) ↔ ∀ arm ∈ arms, arm.2.2.Everywhere P := by
  induction arms with
  | nil => simp [nodesOfArms]
  | cons arm arms ih => rw [nodesOfArms, List.forall_mem_append, ih, List.forall_mem_cons]; rfl

theorem everywhere_struct_iff {fields : List (String × Schema)} :
    (struct fields).Everywhere P ↔ P (struct fields) ∧ ∀ field ∈ fields, field.2.Everywhere P := by
  rw [Everywhere, nodes, List.forall_mem_cons, everywhere_fields_iff]

theorem everywhere_union_iff {tag : Schema} {arms : List (Int × String × Schema)} :
    (union tag arms).Everywhere P ↔
      P (union tag arms) ∧ tag.Everywhere P ∧ ∀ arm ∈ arms, arm.2.2.Everywhere P := by
  rw [Everywhere, nodes, List.forall_mem_cons, List.forall_mem_append, everywhere_arms_iff]
  rfl

theorem everywhere_sequence_iff {length : Option LengthField} {element : Schema} :
    (sequence length element).Everywhere P ↔
      P (sequence length element) ∧ element.Everywhere P := by
  rw [Everywhere, nodes, List.forall_mem_cons]
  rfl

theorem everywhere_embedded_iff {length : Option LengthField} {layout : Schema}
    {omitIfEmpty : Bool} :
    (bytes length (some layout) omitIfEmpty).Everywhere P ↔
      P (bytes length (some layout) omitIfEmpty) ∧ layout.Everywhere P := by
  rw [Everywhere, nodes, List.forall_mem_cons]
  rfl

theorem everywhere_custom_iff {transform : Transform} {base : Schema} :
    (custom transform base).Everywhere P ↔ P (custom transform base) ∧ base.Everywhere P := by
  rw [Everywhere, nodes, List.forall_mem_cons]
  rfl

end Everywhere

end Schema

end TokenBridge.Layout
