import TokenBridge.Proofs.Layout.Refusal

/-!
# Values that end by themselves

Most nodes say by themselves where they end. Three do not, and ask where the input ends: a run of
elements, a byte string without a length, and a window that may be absent. A schema that has none of
them outside a window is not open, and **its values can be cut out of their input** (`takes_of_read`):
what follows the bytes of a value has no part in it, and an input that stops before them is cut short
and is told so, never read to another value.

Inside a window with a length everything is allowed. The window is cut out before its content is
looked at, so an input that ends within it is found too short before a greedy node in it, or a run
that ends at any fault, has seen a byte.

Both halves are one statement about a reader and some bytes, `Takes`, which goes through the steps of
the reader like the reader does: one value after another takes the bytes of both.
-/

namespace TokenBridge.Layout

variable {α β : Type}

/-! ## Inputs that are cut short -/

/-- The input ended too early for what was to be read. -/
def CutShort (x : Except Fault α) : Prop := ∃ fault, x = .error fault ∧ fault.cause = .truncated

theorem cutShort_fail : CutShort (fail .parsing .truncated : Except Fault α) := ⟨_, rfl, rfl⟩

theorem CutShort.within {step : Step} {x : Except Fault α} (h : CutShort x) :
    CutShort (within step x) := by
  obtain ⟨fault, rfl, hc⟩ := h
  exact ⟨_, rfl, hc⟩

theorem CutShort.bind {x : Except Fault α} {f : α → Except Fault β} (h : CutShort x) :
    CutShort (x >>= f) := by
  obtain ⟨fault, rfl, hc⟩ := h
  exact ⟨fault, rfl, hc⟩

theorem CutShort.violates {x : Except Fault α} (h : CutShort x) : Violates x "truncated input" := by
  obtain ⟨fault, rfl, hc⟩ := h
  refine ⟨fault, rfl, ?_, ?_⟩
  · rw [Fault.kind, hc]
    rfl
  · rw [Fault.message, hc]
    show fault.wording "" = _
    simp only [Fault.wording, hc]

/-! ## Readers of given bytes -/

/-- The reader takes these bytes and no others: it leaves whatever follows them, and is cut short by
every part of them. -/
structure Takes (reader : Bytes → Except Fault (α × Bytes)) (head : Bytes) (a : α) : Prop where
  whole : ∀ rest, reader (head ++ rest) = .ok (a, rest)
  short : ∀ m < head.length, CutShort (reader (head.take m))

section Takes

variable {head body : Bytes} {a : α} {b : β}

theorem takes_answer : Takes (fun rest => .ok (a, rest)) [] a where
  whole _ := rfl
  short m hm := absurd hm (Nat.not_lt_zero m)

theorem Takes.within {reader : Bytes → Except Fault (α × Bytes)} (h : Takes reader head a)
    (step : Step) : Takes (fun window => within step (reader window)) head a where
  whole rest := within_eq_ok_iff.mpr (h.whole rest)
  short m hm := (h.short m hm).within

theorem Takes.bind {f : Bytes → Except Fault (α × Bytes)}
    {g : α × Bytes → Except Fault (β × Bytes)} (hf : Takes f head a)
    (hg : Takes (fun rest => g (a, rest)) body b) :
    Takes (fun window => f window >>= g) (head ++ body) b where
  whole rest := by
    rw [List.append_assoc, hf.whole]
    exact hg.whole rest
  short m hm := by
    rw [List.length_append] at hm
    rw [List.take_append]
    rcases Nat.lt_or_ge m head.length with hlt | hge
    · rw [Nat.sub_eq_zero_of_le (Nat.le_of_lt hlt), List.take_zero, List.append_nil]
      exact (hf.short m hlt).bind
    · -- the first value is there in full, so it is the second one that is cut
      rw [List.take_of_length_le hge, hf.whole]
      exact hg.short (m - head.length) (by omega)

/-- What is done with the value afterwards takes no bytes. -/
theorem Takes.answer {f : Bytes → Except Fault (α × Bytes)}
    {g : α × Bytes → Except Fault (β × Bytes)} (hf : Takes f head a)
    (hg : ∀ rest, g (a, rest) = .ok (b, rest)) : Takes (fun window => f window >>= g) head b := by
  have hnone : Takes (fun rest => g (a, rest)) [] b := by
    simp only [hg]
    exact takes_answer
  have hbind := hf.bind hnone
  rw [List.append_nil] at hbind
  exact hbind

end Takes

theorem split?_head {n : Nat} {head : Bytes} (hn : head.length = n) (rest : Bytes) :
    Bytes.split? n (head ++ rest) = some (head, rest) :=
  Bytes.split?_eq_some_iff.mpr ⟨hn, rfl⟩

theorem split?_short {n m : Nat} {head : Bytes} (hn : head.length = n) (hm : m < head.length) :
    Bytes.split? n (head.take m) = none :=
  Bytes.split?_eq_none_iff.mpr (by rw [List.length_take]; omega)

theorem Word.takes_read {word : Word} {n : Nat} {head : Bytes} (h : word.write n = .ok head) :
    Takes word.read head n where
  whole rest := Word.read_eq_ok_iff.mpr ⟨head, h, rfl⟩
  short m hm := by
    obtain ⟨k, -, -, rfl⟩ := Word.write_eq_ok_iff.mp h
    rw [Word.read, split?_short (word.order.length_write word.size k) hm]
    exact cutShort_fail

theorem LengthField.takes_read {length : LengthField} {n : Nat} {head : Bytes}
    (h : length.write n = .ok head) : Takes length.read head n where
  whole rest := LengthField.read_eq_ok_iff.mpr ⟨head, h, rfl⟩
  short m hm := by
    obtain ⟨word, hword, -, hw⟩ := LengthField.word_of_write h
    unfold LengthField.read
    rw [hword]
    exact (Word.takes_read hw).short m hm

namespace Schema

/-! ## Open schemas -/

mutual

/-- Where a value ends depends on where the input does: outside of every window with a length there
is a run of elements, a byte string without a length, or a window that may be absent. -/
def isOpen : Schema → Bool
  | .uint _ | .fixed _ | .magic _ | .nothing | .malformedMagic _ | .malformed _ => false
  | .struct fields => fieldsOpen fields
  | .union tag arms => isOpen tag || armsOpen arms
  | .sequence none _ | .bytes none _ _ => true
  | .sequence (some _) element => isOpen element
  | .bytes (some _) _ omitIfEmpty => omitIfEmpty
  | .custom _ base => isOpen base

/-- Some field is open. -/
def fieldsOpen : List (String × Schema) → Bool
  | [] => false
  | (_, s) :: fields => isOpen s || fieldsOpen fields

/-- Some payload is open. -/
def armsOpen : List (Int × String × Schema) → Bool
  | [] => false
  | (_, _, s) :: arms => isOpen s || armsOpen arms

end

theorem fieldsOpen_eq_false_iff {fields : List (String × Schema)} :
    fieldsOpen fields = false ↔ ∀ field ∈ fields, field.2.isOpen = false := by
  induction fields with
  | nil => simp [fieldsOpen]
  | cons field fields ih => simp [fieldsOpen, ih]

theorem armsOpen_eq_false_iff {arms : List (Int × String × Schema)} :
    armsOpen arms = false ↔ ∀ arm ∈ arms, arm.2.2.isOpen = false := by
  induction arms with
  | nil => simp [armsOpen]
  | cons arm arms ih => simp [armsOpen, ih]

/-! ## What is read is taken -/

/-- What the schema reads, it takes. -/
def CutsOut (s : Schema) : Prop :=
  ∀ {window rest : Bytes} {v : Value}, s.read window = .ok (v, rest) →
    ∃ head, window = head ++ rest ∧ Takes (fun w => s.read w) head v

theorem takes_of_readFields {fields : List (String × Schema)}
    (ih : ∀ field ∈ fields, field.2.CutsOut) :
    ∀ {window rest : Bytes} {entries : List (String × Value)},
      readFields fields window = .ok (entries, rest) →
      ∃ head, window = head ++ rest ∧ Takes (fun w => readFields fields w) head entries := by
  induction fields with
  | nil =>
    intro window rest entries h
    obtain ⟨rfl, rfl⟩ := readFields_nil_eq_ok_iff.mp h
    exact ⟨[], rfl, takes_answer⟩
  | cons field fields ihf =>
    obtain ⟨name, s⟩ := field
    obtain ⟨hs, ih⟩ := List.forall_mem_cons.mp ih
    intro window rest entries h
    cases hm : s.isMagic with
    | true =>
      obtain ⟨u, mid, hu, hf⟩ := (readFields_magic_eq_ok_iff hm).mp h
      obtain ⟨head, rfl, hhead⟩ := hs hu
      obtain ⟨body, rfl, hbody⟩ := ihf ih hf
      refine ⟨head ++ body, (List.append_assoc ..).symm, ?_⟩
      simp only [readFields, hm, if_true]
      exact hhead.bind hbody
    | false =>
      obtain ⟨u, mid, tail, hu, hf, rfl⟩ := (readFields_value_eq_ok_iff hm).mp h
      obtain ⟨head, rfl, hhead⟩ := hs hu
      obtain ⟨body, rfl, hbody⟩ := ihf ih hf
      refine ⟨head ++ body, (List.append_assoc ..).symm, ?_⟩
      simp only [readFields, hm, Bool.false_eq_true, if_false]
      refine (hhead.within (.field name)).bind ?_
      dsimp only
      exact hbody.answer fun _ => rfl

/-- The arm that a tag asks for is the one that is read. -/
theorem readArm_of_find? {tag : Value} {arm : Int × String × Schema} :
    ∀ {arms : List (Int × String × Schema)},
      arms.find? (fun arm => tag.equalInt? == some arm.1) = some arm →
      ∀ window, readArm arms tag window = (do
        let (payload, rest) ← within .value (arm.2.2.read window)
        .ok (.variant arm.2.1 payload, rest)) := by
  intro arms
  induction arms with
  | nil => intro h; cases h
  | cons other arms ih =>
    obtain ⟨t, name, s⟩ := other
    intro h window
    rw [List.find?_cons] at h
    rw [readArm]
    by_cases ht : tag.equalInt? = some t
    · rw [if_pos ht]
      simp only [ht, beq_self_eq_true, Option.some.injEq] at h
      rw [← h]
    · rw [if_neg ht]
      rw [beq_eq_false_iff_ne.mpr ht] at h
      exact ih h window

theorem takes_of_run {element : Schema} (ih : element.CutsOut) {window rest : Bytes}
    {items : List Value} (h : Run (fun w => element.read w) window items rest) :
    ∃ head, window = head ++ rest ∧ ∀ done,
      Takes (fun w => readCount (fun w => element.read w) items.length done w) head
        (done.reverse ++ items) := by
  induction h with
  | nil =>
    refine ⟨[], rfl, fun done => ?_⟩
    rw [List.append_nil]
    exact takes_answer
  | @cons window mid rest v items hv _ ihr =>
    obtain ⟨head, rfl, hhead⟩ := ih hv
    obtain ⟨body, rfl, hbody⟩ := ihr
    refine ⟨head ++ body, (List.append_assoc ..).symm, fun done => ?_⟩
    have htail := hbody (v :: done)
    rw [List.reverse_cons, List.append_assoc] at htail
    simp only [List.length_cons, readCount_succ]
    exact hhead.bind htail

/-- A window is cut out by its length before its content is looked at. -/
theorem takes_readWindow {length : LengthField} {content : Bytes → Except Fault Value}
    {head inner : Bytes} {v : Value} (hh : length.write inner.length = .ok head)
    (hc : content inner = .ok v) :
    Takes (fun w => readWindow (some length) false content w) (head ++ inner) v := by
  refine (LengthField.takes_read hh).bind ⟨fun rest => ?_, fun m hm => ?_⟩
  · dsimp only
    rw [split?_head rfl rest]
    dsimp only
    rw [hc]
    rfl
  · dsimp only
    rw [split?_short rfl hm]
    exact cutShort_fail

/-- **A schema that is not open takes what it reads.** -/
theorem takes_of_read {s : Schema} : s.isOpen = false → s.CutsOut := by
  induction s using Schema.induction with
  | uint word =>
    intro _ window rest v h
    obtain ⟨n, head, hw, rfl, rfl⟩ := read_uint_eq_ok_iff.mp h
    exact ⟨head, rfl, (Word.takes_read hw).answer fun _ => rfl⟩
  | fixed size =>
    intro _ window rest v h
    obtain ⟨data, hlen, rfl, rfl⟩ := read_fixed_eq_ok_iff.mp h
    refine ⟨data, rfl, fun rest => ?_, fun m hm => ?_⟩
    · exact read_fixed_eq_ok_iff.mpr ⟨data, hlen, rfl, rfl⟩
    · have hsize : data.length = size.toNat := by omega
      show CutShort (readFixed size (data.take m))
      rw [readFixed, if_neg (by omega), split?_short hsize hm]
      exact cutShort_fail
  | magic data =>
    intro _ window rest v h
    obtain ⟨rfl, rfl⟩ := read_magic_eq_ok_iff.mp h
    refine ⟨data, rfl, fun rest => ?_, fun m hm => ?_⟩
    · exact read_magic_eq_ok_iff.mpr ⟨rfl, rfl⟩
    · show CutShort (readMagic data (data.take m))
      rw [readMagic, split?_short rfl hm]
      exact cutShort_fail
  | nothing =>
    intro _ window rest v h
    obtain ⟨rfl, rfl⟩ := read_nothing_eq_ok_iff.mp h
    exact ⟨[], rfl, takes_answer⟩
  | struct fields ih =>
    intro ho window rest v h
    rw [isOpen, fieldsOpen_eq_false_iff] at ho
    obtain ⟨entries, hf, hnames, rfl⟩ := read_struct_eq_ok_iff.mp h
    obtain ⟨head, rfl, hhead⟩ := takes_of_readFields (fun field hm => ih field hm (ho field hm)) hf
    have hnamed : entries.any (·.1.isEmpty) = false :=
      List.any_eq_false.mpr fun entry he => by simpa using hnames entry he
    refine ⟨head, rfl, hhead.answer fun rest => ?_⟩
    dsimp only
    rw [hnamed]
    rfl
  | union tag arms iht iha =>
    intro ho window rest v h
    rw [isOpen, Bool.or_eq_false_iff, armsOpen_eq_false_iff] at ho
    obtain ⟨t, mid, arm, payload, ht, hkey, harm, hs, rfl⟩ := read_union_eq_ok_iff.mp h
    have hmem := List.mem_of_find?_eq_some harm
    obtain ⟨head, rfl, hhead⟩ := iht ho.1 ht
    obtain ⟨body, rfl, hbody⟩ := iha arm hmem (ho.2 arm hmem) hs
    refine ⟨head ++ body, (List.append_assoc ..).symm, ?_⟩
    refine (hhead.within .tag).bind ?_
    simp only [hkey, if_true, readArm_of_find? harm]
    exact (hbody.within .value).answer fun _ => rfl
  | sequence length element ih =>
    intro ho window rest v h
    cases length with
    | none => cases ho
    | some length =>
      obtain ⟨head, mid, items, hh, rfl, hrun, rfl⟩ := read_counted_eq_ok_iff.mp h
      obtain ⟨body, rfl, hbody⟩ := takes_of_run (ih ho) hrun
      refine ⟨head ++ body, (List.append_assoc ..).symm, ?_⟩
      have hcount := (LengthField.takes_read hh).within .count
      exact hcount.bind (((hbody []).within .items).answer fun _ => rfl)
  | raw length omitIfEmpty =>
    intro ho window rest v h
    cases length with
    | none => cases ho
    | some length =>
      obtain rfl : omitIfEmpty = false := ho
      rcases read_raw_eq_ok_iff.mp h with ⟨habsent, -⟩ | ⟨head, inner, hh, rfl, rfl⟩
      · cases habsent
      · exact ⟨head ++ inner, rfl, takes_readWindow hh rfl⟩
  | embedded length layout omitIfEmpty _ =>
    intro ho window rest v h
    cases length with
    | none => cases ho
    | some length =>
      obtain rfl : omitIfEmpty = false := ho
      rcases read_embedded_eq_ok_iff.mp h with ⟨habsent, -⟩ | ⟨head, inner, hh, rfl, hl⟩
      · cases habsent
      · -- nothing is asked of the layout: it has read the same content before
        exact ⟨head ++ inner, rfl, takes_readWindow hh (readWhole_eq_ok_iff.mpr hl)⟩
  | custom transform base ih =>
    intro ho window rest v h
    obtain ⟨raw, hb, hd⟩ := read_custom_eq_ok_iff.mp h
    obtain ⟨head, rfl, hhead⟩ := ih ho hb
    refine ⟨head, rfl, hhead.answer fun rest => ?_⟩
    dsimp only
    rw [hd]
    rfl
  | malformedMagic shown => intro _ window rest v h; exact absurd h read_malformedMagic_ne_ok
  | malformed shown => intro _ window rest v h; exact absurd h read_malformed_ne_ok

end Schema

/-! ## Inputs -/

/-- **A value that ends by itself is read alike whatever follows it, and every shorter start of it is
truncated.** -/
theorem decode_cutOut {s : Schema} {data : Bytes} {v : Value} {n : Nat} (ho : s.isOpen = false)
    (h : decode s data = .ok (v, n)) :
    (∀ rest, decode s (data.take n ++ rest) = .ok (v, n)) ∧
    ∀ m < n, Violates (decode s (data.take m)) "truncated input" := by
  obtain ⟨hs, rest, hr, hn⟩ := decode_eq_ok_iff.mp h
  obtain ⟨head, rfl, htakes⟩ := Schema.takes_of_read ho hr
  obtain rfl : n = head.length := by rw [hn, List.length_append, Nat.add_sub_cancel]
  constructor
  · intro other
    rw [List.take_left]
    exact decode_eq_ok_iff.mpr ⟨hs, other, htakes.whole other, by simp⟩
  · intro m hm
    rw [List.take_append_of_le_length (Nat.le_of_lt hm)]
    unfold decode
    rw [hs]
    exact (htakes.short m hm).bind.violates

/-- Parcels that are counted or left out, each a window with pairs of bytes and what remains of it,
and a last byte after them. -/
def parcels : Schema :=
  let parcel := Schema.bytes (some ⟨1, .big⟩)
    (some (.struct [("pairs", .sequence none (.fixed 2)), ("left", .bytes none none false)])) false
  .struct
    [("parcels", .union (.uint ⟨1, .big, Nat.one_pos⟩)
        [(1, "none", .nothing), (2, "some", .sequence (some ⟨1, .big⟩) parcel)]),
      ("check", .fixed 1)]

/-- The greedy parts of a parcel see its window only, so another byte after the message changes
nothing and a message cut in the middle of a parcel is truncated. -/
theorem decode_cutOut_parcels :
    let data : Bytes := [2, 2, 3, 7, 9, 8, 0, 5, 1]
    ∃ v, parcels.isOpen = false ∧ decode parcels data = .ok (v, 8) ∧
      decode parcels [2, 2, 3, 7, 9, 8, 0, 5, 6, 4] = .ok (v, 8) ∧
      Violates (decode parcels [2, 2, 3, 7, 9]) "truncated input" := by
  have hdata : decode parcels [2, 2, 3, 7, 9, 8, 0, 5, 1] = .ok (.map
      [("parcels", .variant "some" (.list
          [.map [("pairs", .list [.bytes [7, 9]]), ("left", .bytes [8])],
            .map [("pairs", .list []), ("left", .bytes [])]])),
        ("check", .bytes [5])], 8) := rfl
  obtain ⟨hrest, hcut⟩ := decode_cutOut (s := parcels) rfl hdata
  exact ⟨_, rfl, hdata, hrest [6, 4], hcut 5 (by decide)⟩

end TokenBridge.Layout
