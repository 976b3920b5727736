import TokenBridge.Proofs.Layout.Reading

/-!
# What it takes for a value to be written

One equivalence for each node of a schema: a value is written to given bytes exactly when … They are
to writing what the equivalences of reading are to reading. Where both directions meet, in a tag or
a length, the two sides of a theorem are the same bytes because both name the same word.
-/

namespace TokenBridge.Layout

theorem requireBytes_eq_ok_iff {v : Value} {data : Bytes} :
    requireBytes v = .ok data ↔ v.byteString? = some data := by
  unfold requireBytes
  cases v.byteString? with
  | none => simp
  | some content => simp

theorem requireItems_eq_ok_iff {v : Value} {items : List Value} :
    requireItems v = .ok items ↔ v.items? = some items := by
  unfold requireItems
  cases v.items? with
  | none => simp
  | some content => simp

theorem requireFields_eq_ok_iff {names : List String} {v : Value}
    {entries : List (String × Value)} :
    requireFields names v = .ok entries ↔
      v.entries? = some entries ∧ ∀ name ∈ names, name ∈ entries.map (·.1) := by
  unfold requireFields
  cases v.entries? with
  | none => simp
  | some held =>
    simp only [Option.some.injEq]
    cases hf : names.find? fun name => !held.any (·.1 == name) with
    | none =>
      simp only [Except.ok.injEq]
      refine ⟨fun h => ⟨h, fun name hname => ?_⟩, fun h => h.1⟩
      have hheld := List.find?_eq_none.mp hf name hname
      simp only [Bool.not_eq_true, Bool.not_eq_false', List.any_eq_true, beq_iff_eq] at hheld
      obtain ⟨entry, hmem, rfl⟩ := hheld
      exact h ▸ List.mem_map_of_mem hmem
    | some name =>
      simp only [fail_ne_ok, false_iff]
      rintro ⟨rfl, hall⟩
      have hmissing := List.find?_some hf
      obtain ⟨entry, hmem, hname⟩ := List.mem_map.mp (hall name (List.mem_of_find?_eq_some hf))
      have hheld : held.any (·.1 == name) = true :=
        List.any_eq_true.mpr ⟨entry, hmem, by simpa using hname⟩
      rw [hheld] at hmissing
      cases hmissing

theorem requireVariant_eq_ok_iff {v : Value} {parts : String × Value} :
    requireVariant v = .ok parts ↔ v = .variant parts.1 parts.2 := by
  obtain ⟨name, payload⟩ := parts
  cases v <;> simp [requireVariant]

namespace Schema

variable {v : Value} {data : Bytes}

theorem write_uint_eq_ok_iff {word : Word} :
    (uint word).write v = .ok data ↔
      ∃ n : Nat, v.strictInt? = some (n : Int) ∧ word.write n = .ok data := by
  simp only [write, writeWord]
  cases v.strictInt? with
  | none => simp
  | some m =>
    constructor
    · intro h
      obtain ⟨n, rfl, hn⟩ := Word.write_eq_ok_iff.mp h
      exact ⟨n, rfl, h⟩
    · rintro ⟨n, hn, h⟩
      cases hn
      exact h

theorem write_fixed_eq_ok_iff {size : Int} :
    (fixed size).write v = .ok data ↔ v.byteString? = some data ∧ (data.length : Int) = size := by
  simp only [write, writeFixed, bind_eq_ok_iff, requireBytes_eq_ok_iff]
  constructor
  · rintro ⟨content, hv, h⟩
    split at h
    · rename_i hlen
      cases h
      exact ⟨hv, hlen⟩
    · exact absurd h fail_ne_ok
  · rintro ⟨hv, hlen⟩
    exact ⟨data, hv, if_pos hlen⟩

theorem write_magic_eq_ok_iff {content : Bytes} :
    (magic content).write v = .ok data ↔ data = content := by
  simp [write, eq_comm]

theorem write_nothing_eq_ok_iff : nothing.write v = .ok data ↔ data = [] := by
  simp [write, eq_comm]

theorem write_struct_eq_ok_iff {fields : List (String × Schema)} :
    (struct fields).write v = .ok data ↔
      ∃ entries, v.entries? = some entries ∧
        (∀ name ∈ valueNames fields, name ∈ entries.map (·.1)) ∧
        writeFields fields entries = .ok data := by
  simp only [write, bind_eq_ok_iff, requireFields_eq_ok_iff, and_assoc]

theorem writeFields_nil_eq_ok_iff {entries : List (String × Value)} :
    writeFields [] entries = .ok data ↔ data = [] := by
  simp [writeFields, eq_comm]

/-- Magic bytes need no entry. -/
theorem writeFields_magic_eq_ok_iff {name : String} {s : Schema} {fields : List (String × Schema)}
    {entries : List (String × Value)} (hm : s.isMagic = true) :
    writeFields ((name, s) :: fields) entries = .ok data ↔
      ∃ head tail, s.write .null = .ok head ∧ writeFields fields entries = .ok tail ∧
        data = head ++ tail := by
  simp only [writeFields, hm, if_true, bind_eq_ok_iff, Except.ok.injEq, @eq_comm Bytes _ data]
  constructor
  · rintro ⟨head, hs, tail, hf, h⟩
    exact ⟨head, tail, hs, hf, h⟩
  · rintro ⟨head, tail, hs, hf, h⟩
    exact ⟨head, hs, tail, hf, h⟩

theorem writeFields_value_eq_ok_iff {name : String} {s : Schema} {fields : List (String × Schema)}
    {entries : List (String × Value)} (hm : s.isMagic = false) (hname : name ≠ "") :
    writeFields ((name, s) :: fields) entries = .ok data ↔
      ∃ head tail, s.write ((entries.lookup name).getD .null) = .ok head ∧
        writeFields fields entries = .ok tail ∧ data = head ++ tail := by
  have hempty : name.isEmpty = false := by simpa using hname
  simp only [writeFields, hm, hempty, Bool.false_eq_true, if_false, Bool.false_and, bind_eq_ok_iff,
    within_eq_ok_iff, Except.ok.injEq, @eq_comm Bytes _ data]
  constructor
  · rintro ⟨head, hs, tail, hf, h⟩
    exact ⟨head, tail, hs, hf, h⟩
  · rintro ⟨head, tail, hs, hf, h⟩
    exact ⟨head, hs, tail, hf, h⟩

/-- A field is written from the value that the entries hold under its name. -/
theorem writeFields_held {name : String} {s : Schema} {fields : List (String × Schema)}
    {entries : List (String × Value)} (hm : s.isMagic = false) (hname : name ≠ "")
    (h : entries.lookup name = some v) :
    writeFields ((name, s) :: fields) entries = (do
      let head ← within (.field name) (s.write v)
      let tail ← writeFields fields entries
      .ok (head ++ tail)) := by
  have hempty : name.isEmpty = false := by simpa using hname
  simp only [writeFields, hm, hempty, h, Bool.false_eq_true, if_false, Bool.false_and,
    Option.getD_some]

/-- Whatever a field is written from, and whether it has a name or not, it is written before the
others. -/
theorem parts_of_writeFields_cons {name : String} {s : Schema} {fields : List (String × Schema)}
    {entries : List (String × Value)} (h : writeFields ((name, s) :: fields) entries = .ok data) :
    ∃ v head tail, s.write v = .ok head ∧ writeFields fields entries = .ok tail ∧
      data = head ++ tail := by
  have hjoined : ∀ {first : Except Fault Bytes},
      (do
        let head ← first
        let tail ← writeFields fields entries
        .ok (head ++ tail)) = .ok data →
      ∃ head tail, first = .ok head ∧ writeFields fields entries = .ok tail ∧
        data = head ++ tail := by
    intro first h
    obtain ⟨head, hhead, h⟩ := bind_eq_ok_iff.mp h
    obtain ⟨tail, htail, h⟩ := bind_eq_ok_iff.mp h
    cases h
    exact ⟨head, tail, hhead, htail, rfl⟩
  rw [writeFields] at h
  split at h
  · exact ⟨_, hjoined h⟩
  split at h
  · obtain ⟨head, tail, hhead, -⟩ := hjoined h
    exact absurd hhead fail_ne_ok
  split at h
  · obtain ⟨head, tail, hhead, h⟩ := hjoined h
    exact ⟨_, head, tail, within_eq_ok_iff.mp hhead, h⟩
  · obtain ⟨head, tail, hhead, h⟩ := hjoined h
    exact ⟨_, head, tail, within_eq_ok_iff.mp hhead, h⟩

theorem writeFields_append {before after : List (String × Schema)}
    {entries : List (String × Value)} :
    writeFields (before ++ after) entries = (do
      let front ← writeFields before entries
      let tail ← writeFields after entries
      .ok (front ++ tail)) := by
  induction before with
  | nil =>
    rw [List.nil_append, writeFields]
    cases writeFields after entries with
    | error fault => rfl
    | ok tail => rfl
  | cons field before ih =>
    obtain ⟨name, s⟩ := field
    -- whatever is written of the first field, and even if nothing is
    have hassoc : ∀ first : Except Fault Bytes,
        (do
          let head ← first
          let tail ← (do
            let front ← writeFields before entries
            let tail ← writeFields after entries
            .ok (front ++ tail))
          .ok (head ++ tail)) =
        (do
          let front ← (do
            let head ← first
            let tail ← writeFields before entries
            .ok (head ++ tail))
          let tail ← writeFields after entries
          .ok (front ++ tail)) := by
      intro first
      cases first with
      | error fault => rfl
      | ok head =>
        cases writeFields before entries with
        | error fault => rfl
        | ok front =>
          cases writeFields after entries with
          | error fault => rfl
          | ok tail => exact congrArg Except.ok (List.append_assoc head front tail).symm
    rw [List.cons_append, writeFields, writeFields, ih]
    repeat' split
    all_goals exact hassoc _

/-- A struct is written as its first fields and then the others, where there is something to take
the others from. -/
theorem write_struct_append {before after : List (String × Schema)}
    {entries : List (String × Value)} {front : Bytes} (hv : v.entries? = some entries)
    (h : (struct before).write v = .ok front)
    (hkeys : ∀ name ∈ valueNames after, name ∈ entries.map (·.1)) :
    (struct (before ++ after)).write v = (do
      let tail ← writeFields after entries
      .ok (front ++ tail)) := by
  obtain ⟨held, hheld, hbefore, hfront⟩ := write_struct_eq_ok_iff.mp h
  obtain rfl := Option.some.inj (hv.symm.trans hheld)
  have hall : ∀ name ∈ valueNames (before ++ after), name ∈ entries.map (·.1) := by
    intro name hname
    rw [valueNames, List.filter_append, List.map_append] at hname
    exact (List.mem_append.mp hname).elim (hbefore name) (hkeys name)
  have hfields := requireFields_eq_ok_iff.mpr ⟨hv, hall⟩
  rw [write, hfields]
  show writeFields (before ++ after) entries = _
  rw [writeFields_append, hfront]
  rfl

theorem writeArm_of_find? {n : Int} {payload : Value} {arm : Int × String × Schema} :
    ∀ {arms : List (Int × String × Schema)}, arms.find? (fun arm => arm.1 == n) = some arm →
      writeArm arms n payload = arm.2.2.write payload := by
  intro arms
  induction arms with
  | nil => intro h; cases h
  | cons other arms ih =>
    obtain ⟨t, name, s⟩ := other
    intro h
    rw [List.find?_cons] at h
    rw [writeArm]
    by_cases ht : t = n
    · rw [if_pos ht]
      simp only [ht, beq_self_eq_true, Option.some.injEq] at h
      rw [← h]
    · rw [if_neg ht]
      rw [beq_eq_false_iff_ne.mpr ht] at h
      exact ih h

theorem tagFor?_eq_some_iff {name : String} {arms : List (Int × String × Schema)} {n : Int} :
    tagFor? name arms = some n ↔
      ∃ arm, arms.find? (fun arm => arm.2.1 == name) = some arm ∧ arm.1 = n := by
  simp [tagFor?]

theorem write_union_eq_ok_iff {tag : Schema} {arms : List (Int × String × Schema)} :
    (union tag arms).write v = .ok data ↔
      ∃ arm name payload head body, v = .variant name payload ∧
        arms.find? (fun arm => arm.2.1 == name) = some arm ∧ tag.write (.int arm.1) = .ok head ∧
        writeArm arms arm.1 payload = .ok body ∧ data = head ++ body := by
  simp only [write, bind_eq_ok_iff, requireVariant_eq_ok_iff]
  constructor
  · rintro ⟨⟨name, payload⟩, rfl, h⟩
    dsimp only at h
    split at h
    · exact absurd h fail_ne_ok
    · rename_i n hn
      obtain ⟨arm, harm, rfl⟩ := tagFor?_eq_some_iff.mp hn
      simp only [bind_eq_ok_iff, within_eq_ok_iff, Except.ok.injEq] at h
      obtain ⟨head, ht, body, hb, rfl⟩ := h
      exact ⟨arm, name, payload, head, body, rfl, harm, ht, hb, rfl⟩
  · rintro ⟨arm, name, payload, head, body, rfl, harm, ht, hb, rfl⟩
    refine ⟨(name, payload), rfl, ?_⟩
    simp only [tagFor?_eq_some_iff.mpr ⟨arm, harm, rfl⟩, bind_eq_ok_iff, within_eq_ok_iff,
      Except.ok.injEq]
    exact ⟨head, ht, body, hb, rfl⟩

/-! ## Sequences -/

theorem writeItems_nil_eq_ok_iff {element : Value → Except Fault Bytes} :
    writeItems element [] = .ok data ↔ data = [] := by
  show Except.ok [] = Except.ok data ↔ data = []
  rw [Except.ok.injEq, eq_comm]

theorem writeItems_cons_eq_ok_iff {element : Value → Except Fault Bytes} {item : Value}
    {items : List Value} :
    writeItems element (item :: items) = .ok data ↔
      ∃ head tail, element item = .ok head ∧ writeItems element items = .ok tail ∧
        data = head ++ tail := by
  simp only [writeItems, List.mapM_cons, bind_eq_ok_iff, pure, Except.pure, Except.ok.injEq]
  constructor
  · rintro ⟨_, ⟨head, hi, parts, hp, rfl⟩, rfl⟩
    exact ⟨head, parts.flatten, hi, ⟨parts, hp, rfl⟩, by simp⟩
  · rintro ⟨head, _, hi, ⟨parts, hp, rfl⟩, rfl⟩
    exact ⟨head :: parts, ⟨head, hi, parts, hp, rfl⟩, by simp⟩

theorem write_run_eq_ok_iff {element : Schema} :
    (sequence none element).write v = .ok data ↔
      ∃ items, v.items? = some items ∧
        writeItems (fun item => element.write item) items = .ok data := by
  simp only [write, writeSequence, bind_eq_ok_iff, requireItems_eq_ok_iff]

theorem write_counted_eq_ok_iff {length : LengthField} {element : Schema} :
    (sequence (some length) element).write v = .ok data ↔
      ∃ items head body, v.items? = some items ∧ length.write items.length = .ok head ∧
        writeItems (fun item => element.write item) items = .ok body ∧ data = head ++ body := by
  simp only [write, writeSequence, bind_eq_ok_iff, requireItems_eq_ok_iff, within_eq_ok_iff,
    Except.ok.injEq, @eq_comm Bytes _ data]
  constructor
  · rintro ⟨items, hv, head, hh, body, hb, h⟩
    exact ⟨items, head, body, hv, hh, hb, h⟩
  · rintro ⟨items, head, body, hv, hh, hb, h⟩
    exact ⟨items, hv, head, hh, body, hb, h⟩

/-! ## Windows -/

/-- A window with a length field is left out, where that is allowed and its value is plain empty
bytes, or it is the length of its content before the content. -/
theorem writeWindow_some_eq_ok_iff {length : LengthField} {omitIfEmpty : Bool}
    {content : Value → Except Fault Bytes} :
    writeWindow (some length) omitIfEmpty content v = .ok data ↔
      ((omitIfEmpty && v.isPlainEmpty) = true ∧ data = []) ∨
      ((omitIfEmpty && v.isPlainEmpty) = false ∧ ∃ head body, content v = .ok body ∧
        length.write body.length = .ok head ∧ data = head ++ body) := by
  cases homit : omitIfEmpty && v.isPlainEmpty with
  | true => simp [writeWindow, homit, eq_comm]
  | false =>
    simp only [writeWindow, homit, Bool.false_eq_true, if_false, false_and, false_or, true_and,
      bind_eq_ok_iff, Except.ok.injEq, @eq_comm Bytes _ data]
    constructor
    · rintro ⟨body, hb, head, hh, h⟩
      exact ⟨head, body, hb, hh, h⟩
    · rintro ⟨head, body, hb, hh, h⟩
      exact ⟨body, hb, head, hh, h⟩

theorem write_raw_eq_ok_iff {length : LengthField} {omitIfEmpty : Bool} :
    (bytes (some length) none omitIfEmpty).write v = .ok data ↔
      ((omitIfEmpty && v.isPlainEmpty) = true ∧ data = []) ∨
      ((omitIfEmpty && v.isPlainEmpty) = false ∧ ∃ head body, v.byteString? = some body ∧
        length.write body.length = .ok head ∧ data = head ++ body) := by
  simp only [write, writeWindow_some_eq_ok_iff, requireBytes_eq_ok_iff]

theorem write_greedy_eq_ok_iff {omitIfEmpty : Bool} :
    (bytes none none omitIfEmpty).write v = .ok data ↔ v.byteString? = some data := by
  simp only [write, writeWindow, requireBytes_eq_ok_iff]

theorem write_embedded_eq_ok_iff {length : LengthField} {layout : Schema} {omitIfEmpty : Bool} :
    (bytes (some length) (some layout) omitIfEmpty).write v = .ok data ↔
      ((omitIfEmpty && v.isPlainEmpty) = true ∧ data = []) ∨
      ((omitIfEmpty && v.isPlainEmpty) = false ∧ ∃ head body, layout.write v = .ok body ∧
        length.write body.length = .ok head ∧ data = head ++ body) := by
  simp only [write, writeWindow_some_eq_ok_iff, within_eq_ok_iff]

theorem write_greedyEmbedded_eq_ok_iff {layout : Schema} {omitIfEmpty : Bool} :
    (bytes none (some layout) omitIfEmpty).write v = .ok data ↔ layout.write v = .ok data := by
  simp only [write, writeWindow, within_eq_ok_iff]

theorem write_custom_eq_ok_iff {transform : Transform} {base : Schema} :
    (custom transform base).write v = .ok data ↔
      ∃ raw, transform.encode v = .ok raw ∧ base.write raw = .ok data := by
  simp only [write, bind_eq_ok_iff, lift_eq_ok_iff]

/-- Magic bytes are written whatever the value is. -/
theorem write_of_isMagic {s : Schema} (hm : s.isMagic = true) (v w : Value) :
    s.write v = s.write w := by
  cases s <;> first | rfl | cases hm

/-! ## Tags -/

/-- A schema of unsigned integers, which the tag of a union is. -/
def isInteger : Schema → Bool
  | .uint _ => true
  | _ => false

/-- An integer that was read asks for the arm of its own number. -/
theorem int_equalInt?_beq (n m : Int) : ((Value.int n).equalInt? == some m) = (m == n) := by
  have h : (Value.int n).equalInt? = some n := rfl
  rw [h, BEq.comm]
  rfl

/-- A tag reads exactly the integers that it writes. -/
theorem read_tag_eq_ok_iff {tag : Schema} {window rest : Bytes} (ht : tag.isInteger = true) :
    tag.read window = .ok (v, rest) ↔
      ∃ (n : Int) (head : Bytes), tag.write (.int n) = .ok head ∧ window = head ++ rest ∧
        v = .int n := by
  cases tag with
  | uint word =>
    rw [read_uint_eq_ok_iff]
    constructor
    · rintro ⟨n, head, hw, rfl, rfl⟩
      exact ⟨n, head, write_uint_eq_ok_iff.mpr ⟨n, rfl, hw⟩, rfl, rfl⟩
    · rintro ⟨_, head, hw, rfl, rfl⟩
      obtain ⟨n, hn, hw⟩ := write_uint_eq_ok_iff.mp hw
      cases hn
      exact ⟨n, head, hw, rfl, rfl⟩
  | _ => cases ht

end Schema

end TokenBridge.Layout
