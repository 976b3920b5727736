import TokenBridge.Proofs.Layout.Steps

/-!
# What it takes for a node to be read

One equivalence for each node of a schema: a window is read to a given value and rest exactly when …
A theorem about what is read is an induction over schemas whose cases start from these equivalences,
and does not unfold the reader; only what is said about refusals does, being about the other
outcome.
-/

namespace TokenBridge.Layout

namespace Schema

/-! ## Elements one after another

Both loops of the reader take elements off the front of a window. `Run` says that without their
accumulators and their fuel; what it does not say, when a loop stops, is in the equivalence for the
loop. -/

/-- The values are read one after another from the start of the window, and the rest is left. -/
inductive Run (element : Bytes → Except Fault (Value × Bytes)) : Bytes → List Value → Bytes → Prop
  | nil {window : Bytes} : Run element window [] window
  | cons {window mid rest : Bytes} {v : Value} {items : List Value} :
      element window = .ok (v, mid) → Run element mid items rest →
      Run element window (v :: items) rest

theorem readCount_succ {element : Bytes → Except Fault (Value × Bytes)} {n : Nat}
    {done : List Value} {window : Bytes} :
    readCount element (n + 1) done window = (do
      let (v, rest) ← element window
      readCount element n (v :: done) rest) := by
  rw [readCount]
  cases element window with
  | error fault => rfl
  | ok answer => rfl

theorem readCount_eq_ok_iff {element : Bytes → Except Fault (Value × Bytes)} {n : Nat} :
    ∀ {done all : List Value} {window rest : Bytes},
      readCount element n done window = .ok (all, rest) ↔
        ∃ items, all = done.reverse ++ items ∧ items.length = n ∧
          Run element window items rest := by
  induction n with
  | zero =>
    intro done all window rest
    simp only [readCount, Except.ok.injEq, Prod.mk.injEq, List.length_eq_zero_iff]
    constructor
    · rintro ⟨rfl, rfl⟩
      exact ⟨[], by simp, rfl, .nil⟩
    · rintro ⟨_, rfl, rfl, h⟩
      cases h
      exact ⟨by simp, rfl⟩
  | succ n ih =>
    intro done all window rest
    rw [readCount]
    cases he : element window with
    | error fault =>
      simp only [reduceCtorEq, false_iff]
      rintro ⟨items, -, hn, h⟩
      cases h with
      | nil => simp at hn
      | cons hv _ => rw [he] at hv; cases hv
    | ok answer =>
      obtain ⟨v, mid⟩ := answer
      rw [ih]
      constructor
      · rintro ⟨items, rfl, hn, h⟩
        exact ⟨v :: items, by simp, by simp [hn], .cons he h⟩
      · rintro ⟨items, rfl, hn, h⟩
        cases h with
        | nil => simp at hn
        | cons hv h =>
          rw [he] at hv
          cases hv
          exact ⟨_, by simp, by simpa using hn, h⟩

/-- The loop without a count stops where its fuel ends or, earlier, where no element can be read. -/
theorem readRun_eq_iff {element : Bytes → Except Fault (Value × Bytes)} {fuel : Nat} :
    ∀ {done all : List Value} {window rest : Bytes},
      readRun element fuel done window = (all, rest) ↔
        ∃ items, all = done.reverse ++ items ∧ items.length ≤ fuel ∧ Run element window items rest ∧
          (items.length < fuel → ∀ answer, element rest ≠ .ok answer) := by
  -- both sides take an element off the window, so what is already read is left general
  induction fuel with
  | zero =>
    intro done all window rest
    simp only [readRun, Prod.mk.injEq, Nat.le_zero_eq, List.length_eq_zero_iff, Nat.not_lt_zero,
      false_implies, and_true]
    constructor
    · rintro ⟨rfl, rfl⟩
      exact ⟨[], by simp, rfl, .nil⟩
    · rintro ⟨_, rfl, rfl, h⟩
      cases h
      exact ⟨by simp, rfl⟩
  | succ fuel ih =>
    intro done all window rest
    rw [readRun]
    cases he : element window with
    | error fault =>
      simp only [Prod.mk.injEq]
      constructor
      · rintro ⟨rfl, rfl⟩
        exact ⟨[], by simp, by simp, .nil, fun _ answer ha => by rw [he] at ha; cases ha⟩
      · rintro ⟨items, rfl, -, h, -⟩
        cases h with
        | nil => exact ⟨by simp, rfl⟩
        | cons hv _ => rw [he] at hv; cases hv
    | ok answer =>
      obtain ⟨v, mid⟩ := answer
      simp only
      rw [ih]
      constructor
      · rintro ⟨items, rfl, hn, h, hstop⟩
        exact ⟨v :: items, by simp, by simpa using hn, .cons he h,
          fun hlt => hstop (by simpa using hlt)⟩
      · rintro ⟨items, rfl, hn, h, hstop⟩
        cases h with
        | nil => exact absurd he (hstop (by simp) _)
        | cons hv h =>
          rw [he] at hv
          cases hv
          exact ⟨_, by simp, by simpa using hn, h, fun hlt => hstop (by simpa using hlt)⟩

/-! ## Reading -/

variable {window rest : Bytes} {v : Value}

theorem read_uint_eq_ok_iff {word : Word} :
    (uint word).read window = .ok (v, rest) ↔
      ∃ (n : Nat) (head : Bytes), word.write n = .ok head ∧ window = head ++ rest ∧ v = .int n := by
  simp only [read, bind_eq_ok_iff, Prod.exists, Except.ok.injEq, Prod.mk.injEq]
  constructor
  · rintro ⟨n, tail, hn, rfl, rfl⟩
    obtain ⟨head, hw, rfl⟩ := Word.read_eq_ok_iff.mp hn
    exact ⟨n, head, hw, rfl, rfl⟩
  · rintro ⟨n, head, hw, rfl, rfl⟩
    exact ⟨n, rest, Word.read_eq_ok_iff.mpr ⟨head, hw, rfl⟩, rfl, rfl⟩

theorem read_fixed_eq_ok_iff {size : Int} :
    (fixed size).read window = .ok (v, rest) ↔
      ∃ data : Bytes, (data.length : Int) = size ∧ window = data ++ rest ∧ v = .bytes data := by
  simp only [read, readFixed]
  by_cases hs : size < 0
  · rw [if_pos hs]
    constructor
    · intro h
      exact absurd h fail_ne_ok
    · rintro ⟨data, hd, -⟩
      omega
  · rw [if_neg hs]
    cases h : Bytes.split? size.toNat window with
    | none =>
      have hshort := Bytes.split?_eq_none_iff.mp h
      constructor
      · intro h'
        exact absurd h' fail_ne_ok
      · rintro ⟨data, hd, rfl, -⟩
        rw [List.length_append] at hshort
        omega
    | some parts =>
      obtain ⟨head, tail⟩ := parts
      simp only [Except.ok.injEq, Prod.mk.injEq]
      constructor
      · rintro ⟨rfl, rfl⟩
        obtain ⟨hlen, rfl⟩ := Bytes.split?_eq_some_iff.mp h
        exact ⟨head, by omega, rfl, rfl⟩
      · rintro ⟨data, hd, rfl, rfl⟩
        rw [Bytes.split?_eq_some_iff.mpr ⟨by omega, rfl⟩] at h
        cases h
        exact ⟨rfl, rfl⟩

theorem read_magic_eq_ok_iff {data : Bytes} :
    (magic data).read window = .ok (v, rest) ↔ window = data ++ rest ∧ v = .null := by
  simp only [read, readMagic]
  cases h : Bytes.split? data.length window with
  | none =>
    have hshort := Bytes.split?_eq_none_iff.mp h
    constructor
    · intro h'
      exact absurd h' fail_ne_ok
    · rintro ⟨rfl, -⟩
      rw [List.length_append] at hshort
      omega
  | some parts =>
    obtain ⟨head, tail⟩ := parts
    obtain ⟨hlen, rfl⟩ := Bytes.split?_eq_some_iff.mp h
    by_cases heq : head = data
    · subst heq
      simp only [if_true, Except.ok.injEq, Prod.mk.injEq, List.append_cancel_left_eq]
      constructor
      · rintro ⟨rfl, rfl⟩
        exact ⟨rfl, rfl⟩
      · rintro ⟨rfl, rfl⟩
        exact ⟨rfl, rfl⟩
    · simp only [if_neg heq, fail_ne_ok, false_iff]
      rintro ⟨happ, -⟩
      exact heq (List.append_inj_left happ hlen)

theorem read_nothing_eq_ok_iff :
    nothing.read window = .ok (v, rest) ↔ rest = window ∧ v = .null := by
  simp [read, eq_comm, and_comm]

theorem readFields_nil_eq_ok_iff {entries : List (String × Value)} :
    readFields [] window = .ok (entries, rest) ↔ entries = [] ∧ rest = window := by
  simp [readFields, eq_comm]

/-- Magic bytes are read past. -/
theorem readFields_magic_eq_ok_iff {name : String} {s : Schema} {fields : List (String × Schema)}
    {entries : List (String × Value)} (hm : s.isMagic = true) :
    readFields ((name, s) :: fields) window = .ok (entries, rest) ↔
      ∃ u mid, s.read window = .ok (u, mid) ∧ readFields fields mid = .ok (entries, rest) := by
  simp only [readFields, hm, if_true, bind_eq_ok_iff, Prod.exists]

theorem readFields_value_eq_ok_iff {name : String} {s : Schema} {fields : List (String × Schema)}
    {entries : List (String × Value)} (hm : s.isMagic = false) :
    readFields ((name, s) :: fields) window = .ok (entries, rest) ↔
      ∃ u mid tail, s.read window = .ok (u, mid) ∧ readFields fields mid = .ok (tail, rest) ∧
        entries = (name, u) :: tail := by
  simp only [readFields, hm, Bool.false_eq_true, if_false, bind_eq_ok_iff, within_eq_ok_iff,
    Prod.exists, Except.ok.injEq, Prod.mk.injEq]
  constructor
  · rintro ⟨u, mid, hu, tail, left, hf, rfl, rfl⟩
    exact ⟨u, mid, tail, hu, hf, rfl⟩
  · rintro ⟨u, mid, tail, hu, hf, rfl⟩
    exact ⟨u, mid, hu, tail, rest, hf, rfl, rfl⟩

/-- Whether it has a value or not, a field is read, and then the others. -/
theorem parts_of_readFields_cons {name : String} {s : Schema} {fields : List (String × Schema)}
    {entries : List (String × Value)}
    (h : readFields ((name, s) :: fields) window = .ok (entries, rest)) :
    ∃ u mid tail, s.read window = .ok (u, mid) ∧ readFields fields mid = .ok (tail, rest) := by
  cases hm : s.isMagic with
  | true =>
    obtain ⟨u, mid, hu, hf⟩ := (readFields_magic_eq_ok_iff hm).mp h
    exact ⟨u, mid, _, hu, hf⟩
  | false =>
    obtain ⟨u, mid, tail, hu, hf, -⟩ := (readFields_value_eq_ok_iff hm).mp h
    exact ⟨u, mid, tail, hu, hf⟩

theorem readFields_names {fields : List (String × Schema)} :
    ∀ {window rest : Bytes} {entries : List (String × Value)},
      readFields fields window = .ok (entries, rest) → entries.map (·.1) = valueNames fields := by
  induction fields with
  | nil =>
    intro window rest entries h
    obtain ⟨rfl, -⟩ := readFields_nil_eq_ok_iff.mp h
    rfl
  | cons field fields ih =>
    obtain ⟨name, s⟩ := field
    intro window rest entries h
    cases hm : s.isMagic with
    | true =>
      obtain ⟨u, mid, -, hf⟩ := (readFields_magic_eq_ok_iff hm).mp h
      rw [ih hf]
      simp [valueNames, hm]
    | false =>
      obtain ⟨u, mid, tail, -, hf, rfl⟩ := (readFields_value_eq_ok_iff hm).mp h
      rw [List.map_cons, ih hf]
      simp [valueNames, hm]

theorem read_struct_eq_ok_iff {fields : List (String × Schema)} :
    (struct fields).read window = .ok (v, rest) ↔
      ∃ entries, readFields fields window = .ok (entries, rest) ∧
        (∀ entry ∈ entries, entry.1 ≠ "") ∧ v = .map entries := by
  simp only [read, bind_eq_ok_iff, Prod.exists]
  constructor
  · rintro ⟨entries, tail, hf, h⟩
    split at h
    · exact absurd h fail_ne_ok
    · rename_i hnames
      obtain ⟨rfl, rfl⟩ := Prod.mk.inj (Except.ok.inj h)
      refine ⟨entries, hf, fun entry he hempty => hnames ?_, rfl⟩
      exact List.any_eq_true.mpr ⟨entry, he, by simp [hempty]⟩
  · rintro ⟨entries, hf, hnames, rfl⟩
    refine ⟨entries, rest, hf, if_neg fun hany => ?_⟩
    obtain ⟨entry, he, hempty⟩ := List.any_eq_true.mp hany
    exact hnames entry he (by simpa using hempty)

/-- The payload is that of the first arm whose number the tag equals. -/
theorem readArm_eq_ok_iff {tag : Value} :
    ∀ {arms : List (Int × String × Schema)}, readArm arms tag window = .ok (v, rest) ↔
      ∃ arm payload, arms.find? (fun arm => tag.equalInt? == some arm.1) = some arm ∧
        arm.2.2.read window = .ok (payload, rest) ∧ v = .variant arm.2.1 payload := by
  intro arms
  induction arms with
  | nil => simp [readArm]
  | cons arm arms ih =>
    obtain ⟨t, name, s⟩ := arm
    rw [readArm, List.find?_cons]
    by_cases ht : tag.equalInt? = some t
    · simp only [ht, beq_self_eq_true, if_true, bind_eq_ok_iff, within_eq_ok_iff,
        Except.ok.injEq, Prod.mk.injEq]
      constructor
      · rintro ⟨⟨payload, mid⟩, hs, rfl, rfl⟩
        exact ⟨(t, name, s), payload, rfl, hs, rfl⟩
      · rintro ⟨_, payload, harm, hs, rfl⟩
        cases harm
        exact ⟨(payload, rest), hs, rfl, rfl⟩
    · rw [if_neg ht, ih, beq_eq_false_iff_ne.mpr ht]

theorem read_union_eq_ok_iff {tag : Schema} {arms : List (Int × String × Schema)} :
    (union tag arms).read window = .ok (v, rest) ↔
      ∃ t mid arm payload, tag.read window = .ok (t, mid) ∧ t.isKey = true ∧
        arms.find? (fun arm => t.equalInt? == some arm.1) = some arm ∧
        arm.2.2.read mid = .ok (payload, rest) ∧ v = .variant arm.2.1 payload := by
  simp only [read, bind_eq_ok_iff, within_eq_ok_iff]
  constructor
  · rintro ⟨⟨t, mid⟩, ht, h⟩
    dsimp only at h
    split at h
    · rename_i hkey
      obtain ⟨arm, payload, harm, hs, rfl⟩ := readArm_eq_ok_iff.mp h
      exact ⟨t, mid, arm, payload, ht, hkey, harm, hs, rfl⟩
    · exact absurd h fail_ne_ok
  · rintro ⟨t, mid, arm, payload, ht, hkey, harm, hs, rfl⟩
    refine ⟨(t, mid), ht, ?_⟩
    dsimp only
    rw [if_pos hkey]
    exact readArm_eq_ok_iff.mpr ⟨arm, payload, harm, hs, rfl⟩

theorem read_run_eq_ok_iff {element : Schema} :
    (sequence none element).read window = .ok (v, rest) ↔
      ∃ items, items.length ≤ window.length ∧ Run (fun w => element.read w) window items rest ∧
        (items.length < window.length → ∀ answer, element.read rest ≠ .ok answer) ∧
        v = .list items := by
  simp only [read, readSequence]
  cases hr : readRun (fun w => element.read w) window.length [] window with
  | mk all tail =>
    simp only [Except.ok.injEq, Prod.mk.injEq]
    constructor
    · rintro ⟨rfl, rfl⟩
      obtain ⟨items, hall, hle, hrun, hstop⟩ := readRun_eq_iff.mp hr
      exact ⟨items, hle, hrun, hstop, by rw [hall]; rfl⟩
    · rintro ⟨items, hle, hrun, hstop, rfl⟩
      obtain ⟨rfl, rfl⟩ := Prod.mk.inj
        (hr.symm.trans (readRun_eq_iff.mpr ⟨items, rfl, hle, hrun, hstop⟩))
      exact ⟨rfl, rfl⟩

theorem read_counted_eq_ok_iff {length : LengthField} {element : Schema} :
    (sequence (some length) element).read window = .ok (v, rest) ↔
      ∃ (head mid : Bytes) (items : List Value), length.write items.length = .ok head ∧
        window = head ++ mid ∧ Run (fun w => element.read w) mid items rest ∧ v = .list items := by
  simp only [read, readSequence, bind_eq_ok_iff, within_eq_ok_iff, Prod.exists, Except.ok.injEq,
    Prod.mk.injEq, readCount_eq_ok_iff, List.reverse_nil, List.nil_append]
  constructor
  · rintro ⟨n, mid, hn, items, tail, ⟨items', rfl, rfl, hrun⟩, rfl, rfl⟩
    obtain ⟨head, hw, rfl⟩ := LengthField.read_eq_ok_iff.mp hn
    exact ⟨head, mid, items, hw, rfl, hrun, rfl⟩
  · rintro ⟨head, mid, items, hw, rfl, hrun, rfl⟩
    exact ⟨items.length, mid, LengthField.read_eq_ok_iff.mpr ⟨head, hw, rfl⟩, items, rest,
      ⟨items, rfl, rfl, hrun⟩, rfl, rfl⟩

/-- A window with a length field is absent, where that is allowed and nothing is left, or it is a
length followed by as many bytes of content. -/
theorem readWindow_some_eq_ok_iff {length : LengthField} {omitIfEmpty : Bool}
    {content : Bytes → Except Fault Value} :
    readWindow (some length) omitIfEmpty content window = .ok (v, rest) ↔
      (omitIfEmpty = true ∧ window = [] ∧ rest = [] ∧ v = .bytes []) ∨
      ∃ head inner, length.write inner.length = .ok head ∧ window = head ++ inner ++ rest ∧
        content inner = .ok v := by
  by_cases habsent : (omitIfEmpty && window.isEmpty) = true
  · simp only [readWindow, habsent, if_true, Except.ok.injEq, Prod.mk.injEq]
    obtain ⟨homit, hempty⟩ := Bool.and_eq_true .. |>.mp habsent
    rw [List.isEmpty_iff] at hempty
    subst hempty
    constructor
    · rintro ⟨rfl, rfl⟩
      exact Or.inl ⟨homit, rfl, rfl, rfl⟩
    · rintro (⟨-, -, rfl, rfl⟩ | ⟨head, inner, hw, happ, -⟩)
      · exact ⟨rfl, rfl⟩
      · obtain ⟨rfl, -⟩ := List.append_eq_nil_iff.mp (List.append_eq_nil_iff.mp happ.symm).1
        exact absurd rfl (LengthField.write_ne_nil hw)
  · simp only [readWindow, habsent, if_false, bind_eq_ok_iff, Prod.exists, Bool.false_eq_true]
    constructor
    · rintro ⟨size, mid, hn, h⟩
      obtain ⟨head, hw, rfl⟩ := LengthField.read_eq_ok_iff.mp hn
      split at h
      · exact absurd h fail_ne_ok
      · rename_i inner tail hs
        obtain ⟨rfl, rfl⟩ := Bytes.split?_eq_some_iff.mp hs
        obtain ⟨u, hu, h⟩ := bind_eq_ok_iff.mp h
        obtain ⟨rfl, rfl⟩ := Prod.mk.inj (Except.ok.inj h)
        exact Or.inr ⟨head, inner, hw, (List.append_assoc ..).symm, hu⟩
    · rintro (⟨homit, rfl, -⟩ | ⟨head, inner, hw, rfl, hu⟩)
      · exact absurd (by simp [homit]) habsent
      · refine ⟨inner.length, inner ++ rest, LengthField.read_eq_ok_iff.mpr
          ⟨head, hw, List.append_assoc ..⟩, ?_⟩
        rw [Bytes.split?_eq_some_iff.mpr ⟨rfl, rfl⟩]
        exact bind_eq_ok_iff.mpr ⟨v, hu, rfl⟩

/-- A window that has its length in front is its content, whatever the content is read to. -/
theorem readWindow_head {length : LengthField} {omitIfEmpty : Bool}
    {content : Bytes → Except Fault Value} {head inner : Bytes}
    (hh : length.write inner.length = .ok head) (rest : Bytes) :
    readWindow (some length) omitIfEmpty content (head ++ (inner ++ rest)) = (do
      let v ← content inner
      .ok (v, rest)) := by
  have hpresent : (omitIfEmpty && (head ++ (inner ++ rest)).isEmpty) = false := by
    simp [LengthField.write_ne_nil hh]
  have hlength : length.read (head ++ (inner ++ rest)) = .ok (inner.length, inner ++ rest) :=
    LengthField.read_eq_ok_iff.mpr ⟨head, hh, rfl⟩
  have hsplit : Bytes.split? inner.length (inner ++ rest) = some (inner, rest) :=
    Bytes.split?_eq_some_iff.mpr ⟨rfl, rfl⟩
  simp only [readWindow, hpresent, Bool.false_eq_true, if_false, hlength, hsplit, bind,
    Except.bind]

theorem readWindow_none_eq_ok_iff {omitIfEmpty : Bool} {content : Bytes → Except Fault Value} :
    readWindow none omitIfEmpty content window = .ok (v, rest) ↔
      content window = .ok v ∧ rest = [] := by
  simp only [readWindow, bind_eq_ok_iff, Except.ok.injEq, Prod.mk.injEq]
  constructor
  · rintro ⟨u, hu, rfl, rfl⟩
    exact ⟨hu, rfl⟩
  · rintro ⟨hu, rfl⟩
    exact ⟨v, hu, rfl, rfl⟩

/-- A content is used up by its layout. -/
theorem readWhole_eq_ok_iff {layout : Bytes → Except Fault (Value × Bytes)} {content : Bytes} :
    readWhole layout content = .ok v ↔ layout content = .ok (v, []) := by
  unfold readWhole
  cases layout content with
  | error fault => simp [within]
  | ok answer =>
    obtain ⟨u, left⟩ := answer
    cases left with
    | nil => simp [within]
    | cons byte bytes => simp [within]

theorem read_raw_eq_ok_iff {length : LengthField} {omitIfEmpty : Bool} :
    (bytes (some length) none omitIfEmpty).read window = .ok (v, rest) ↔
      (omitIfEmpty = true ∧ window = [] ∧ rest = [] ∧ v = .bytes []) ∨
      ∃ head inner, length.write inner.length = .ok head ∧ window = head ++ inner ++ rest ∧
        v = rawContent true inner := by
  simp only [read, readWindow_some_eq_ok_iff, Option.isSome_some, Except.ok.injEq,
    @eq_comm Value _ v]

theorem read_greedy_eq_ok_iff {omitIfEmpty : Bool} :
    (bytes none none omitIfEmpty).read window = .ok (v, rest) ↔ rest = [] ∧ v = .bytes window := by
  simp only [read, readWindow_none_eq_ok_iff, rawContent, Option.isSome_none, Bool.false_and,
    Bool.false_eq_true, if_false, Except.ok.injEq, @eq_comm Value _ v, and_comm]

theorem read_embedded_eq_ok_iff {length : LengthField} {layout : Schema} {omitIfEmpty : Bool} :
    (bytes (some length) (some layout) omitIfEmpty).read window = .ok (v, rest) ↔
      (omitIfEmpty = true ∧ window = [] ∧ rest = [] ∧ v = .bytes []) ∨
      ∃ head inner, length.write inner.length = .ok head ∧ window = head ++ inner ++ rest ∧
        layout.read inner = .ok (v, []) := by
  simp only [read, readWindow_some_eq_ok_iff, readWhole_eq_ok_iff]

theorem read_greedyEmbedded_eq_ok_iff {layout : Schema} {omitIfEmpty : Bool} :
    (bytes none (some layout) omitIfEmpty).read window = .ok (v, rest) ↔
      rest = [] ∧ layout.read window = .ok (v, []) := by
  simp only [read, readWindow_none_eq_ok_iff, readWhole_eq_ok_iff, and_comm]

theorem read_custom_eq_ok_iff {transform : Transform} {base : Schema} :
    (custom transform base).read window = .ok (v, rest) ↔
      ∃ raw, base.read window = .ok (raw, rest) ∧ transform.decode raw = .ok v := by
  simp only [read, bind_eq_ok_iff, lift_eq_ok_iff, Prod.exists, Except.ok.injEq, Prod.mk.injEq]
  constructor
  · rintro ⟨raw, tail, hb, u, hu, rfl, rfl⟩
    exact ⟨raw, hb, hu⟩
  · rintro ⟨raw, hb, hv⟩
    exact ⟨raw, rest, hb, v, hv, rfl, rfl⟩

theorem read_malformedMagic_ne_ok {shown : String} :
    (malformedMagic shown).read window ≠ .ok (v, rest) := by
  simp [read]

theorem read_malformed_ne_ok {shown : String} : (malformed shown).read window ≠ .ok (v, rest) := by
  simp [read]

end Schema

end TokenBridge.Layout
