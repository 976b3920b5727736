import TokenBridge.Proofs.Layout.Input
import TokenBridge.Value.Entries

/-!
# A layout inside a window, and the same bytes in two stages

A window with a length can hold the layout of its content, or the content can be kept raw and taken
up by that layout later. **The two are one**: writing in place is writing the content and then the
raw window, up to the path at which a fault is shown, and reading in place is reading the raw window
and then its content as an input of its own.

What makes reading agree is that a window is closed on both sides. Nothing in a layout sees past the
end of its content, so the end of a window is the end of an input (`readWhole_eq_ok_iff` against
`deserialize_eq_ok_iff`), and the provenance that a raw window keeps of an explicit length zero is
lost again when its bytes are taken (`deserializeOf_rawContent`).

Only windows that may not be absent are meant: an absent window has a value of its own, and no
content for a layout to read.

The second half lifts this to a struct with such a window among its fields, which is the form of
every wrapper: the value in place is the value in two stages with the raw field replaced.
-/

namespace TokenBridge.Layout

variable {length : LengthField} {s : Schema} {v : Value} {data : Bytes} {n : Nat}

/-! ## Inputs of any kind -/

@[simp] theorem inputOf_rawContent (prefixed : Bool) (content : Bytes) :
    inputOf (Schema.rawContent prefixed content) = .ok content := by
  cases content <;> cases prefixed <;> rfl

theorem length?_rawContent (prefixed : Bool) (content : Bytes) :
    (Schema.rawContent prefixed content).length? = some content.length := by
  cases content <;> cases prefixed <;> rfl

/-- An input is taken up whole when it has bytes and a length, and its bytes are taken up whole. -/
theorem deserializeOf_eq_ok_iff {input : Value} :
    deserializeOf s input = .ok v ↔
      ∃ data, inputOf input = .ok data ∧ input.length?.isSome = true ∧
        deserialize s data = .ok v := by
  simp only [deserializeOf, bind_eq_ok_iff]
  constructor
  · rintro ⟨data, hi, answer, -, h⟩
    split at h
    · rename_i size hlen
      exact ⟨data, hi, by rw [hlen]; rfl, h⟩
    · exact absurd h fail_ne_ok
  · rintro ⟨data, hi, hlen, h⟩
    obtain ⟨answer, hd, -⟩ := bind_eq_ok_iff.mp h
    obtain ⟨size, hlen⟩ := Option.isSome_iff_exists.mp hlen
    exact ⟨data, hi, answer, hd, by rw [hlen]; exact h⟩

theorem deserializeOf_rawContent {prefixed : Bool} {content : Bytes} :
    deserializeOf s (Schema.rawContent prefixed content) = .ok v ↔
      deserialize s content = .ok v := by
  rw [deserializeOf_eq_ok_iff]
  simp [length?_rawContent]

theorem deserialize_eq_ok_iff_decode :
    deserialize s data = .ok v ↔ decode s data = .ok (v, data.length) := by
  rw [deserialize_eq_ok_iff, decode_eq_ok_iff]
  constructor
  · rintro ⟨hs, hr⟩
    exact ⟨hs, [], hr, rfl⟩
  · rintro ⟨hs, rest, hr, hlen⟩
    obtain ⟨head, rfl⟩ := Schema.read_suffix hr
    rw [List.length_append] at hlen
    obtain rfl : rest = [] := List.length_eq_zero_iff.mp (by omega)
    exact ⟨hs, hr⟩

/-! ## One window -/

/-- **Writing in place is writing in two stages**: the same bytes, or a fault of the same family. -/
theorem encode_embedded (length : LengthField) (s : Schema) (v : Value) :
    (encode (.bytes (some length) (some s) false) v).mapError Fault.kind =
      (do
        let content ← encode s v
        encode (.bytes (some length) none false) (.bytes content)).mapError Fault.kind := by
  have hraw : ∀ content : Bytes,
      encode (.bytes (some length) none false) (.bytes content) = (do
        let head ← length.write content.length
        .ok (head ++ content)) := fun content => rfl
  simp only [hraw]
  unfold encode
  rw [show (Schema.bytes (some length) (some s) false).defect? = s.defect? by rw [Schema.defect?]]
  cases s.defect? with
  | some cause => rfl
  | none =>
    simp only [Schema.write, Schema.writeWindow, Bool.false_and, Bool.false_eq_true, if_false]
    -- only the path of a fault of the content tells the two apart
    cases s.write v with
    | error fault => rfl
    | ok content => rfl

namespace Schema

variable {window rest : Bytes}

theorem rawContent_inj {prefixed : Bool} {a b : Bytes}
    (h : rawContent prefixed a = rawContent prefixed b) : a = b := by
  have hbytes := congrArg inputOf h
  simpa using hbytes

theorem read_required_eq_ok_iff :
    (bytes (some length) none false).read window = .ok (v, rest) ↔
      ∃ head inner, length.write inner.length = .ok head ∧ window = head ++ inner ++ rest ∧
        v = rawContent true inner := by
  rw [read_raw_eq_ok_iff]
  simp

theorem admissible_embedded_iff {omitIfEmpty : Bool} :
    (bytes (some length) (some s) omitIfEmpty).Admissible ↔ s.Admissible := by
  simp only [Admissible, defect?]

/-- Reading in place is reading the window raw and its content to its end. -/
theorem read_embedded_iff_staged :
    (bytes (some length) (some s) false).read window = .ok (v, rest) ↔
      ∃ inner, (bytes (some length) none false).read window = .ok (rawContent true inner, rest) ∧
        s.read inner = .ok (v, []) := by
  rw [read_embedded_eq_ok_iff]
  simp only [read_required_eq_ok_iff, Bool.false_eq_true, false_and, false_or]
  constructor
  · rintro ⟨head, inner, hh, rfl, hs⟩
    exact ⟨inner, ⟨head, inner, hh, rfl, rfl⟩, hs⟩
  · rintro ⟨inner, ⟨head, other, hh, rfl, hraw⟩, hs⟩
    obtain rfl := rawContent_inj hraw
    exact ⟨head, inner, hh, rfl, hs⟩

end Schema

/-- **Reading in place is reading in two stages.** -/
theorem decode_embedded_iff :
    decode (.bytes (some length) (some s) false) data = .ok (v, n) ↔
      ∃ raw, decode (.bytes (some length) none false) data = .ok (raw, n) ∧
        deserializeOf s raw = .ok v := by
  simp only [decode_eq_ok_iff]
  constructor
  · rintro ⟨hs, rest, hr, rfl⟩
    obtain ⟨inner, hw, hr⟩ := Schema.read_embedded_iff_staged.mp hr
    exact ⟨_, ⟨rfl, rest, hw, rfl⟩, deserializeOf_rawContent.mpr
      (deserialize_eq_ok_iff.mpr ⟨Schema.admissible_embedded_iff.mp hs, hr⟩)⟩
  · rintro ⟨raw, ⟨-, rest, hw, rfl⟩, hd⟩
    obtain ⟨head, inner, -, -, rfl⟩ := Schema.read_required_eq_ok_iff.mp hw
    obtain ⟨hs, hr⟩ := deserialize_eq_ok_iff.mp (deserializeOf_rawContent.mp hd)
    exact ⟨Schema.admissible_embedded_iff.mpr hs, rest,
      Schema.read_embedded_iff_staged.mpr ⟨inner, hw, hr⟩, rfl⟩

/-! ## A window among the fields of a struct -/

namespace Schema

variable {window rest : Bytes} {name : String} {before after : List (String × Schema)}

/-- The fields of a wrapper, with or without a layout for what it holds. -/
def wrapping (before : List (String × Schema)) (name : String) (length : LengthField)
    (layout : Option Schema) (after : List (String × Schema)) : List (String × Schema) :=
  before ++ (name, bytes (some length) layout false) :: after

theorem not_mem_valueNames_tail {field : String × Schema} {fields : List (String × Schema)}
    (h : name ∉ valueNames (field :: fields)) : name ∉ valueNames fields := by
  intro hmem
  obtain ⟨other, ho, rfl⟩ := List.mem_map.mp hmem
  obtain ⟨ho, hm⟩ := List.mem_filter.mp ho
  exact h (List.mem_map_of_mem (List.mem_filter.mpr ⟨List.mem_cons_of_mem _ ho, hm⟩))

theorem readFields_wrapping_iff :
    ∀ {before : List (String × Schema)} {window : Bytes} {out : List (String × Value)},
      name ∉ valueNames before →
      (readFields (wrapping before name length (some s) after) window = .ok (out, rest) ↔
        ∃ entries inner u,
          readFields (wrapping before name length none after) window = .ok (entries, rest) ∧
          entries.lookup name = some (rawContent true inner) ∧ s.read inner = .ok (u, []) ∧
          out = Value.put entries name u) := by
  intro before
  induction before with
  | nil =>
    intro window out _
    -- the window itself: its entry is the first, and putting the content replaces it
    simp only [wrapping, List.nil_append, readFields_value_eq_ok_iff (s := bytes _ _ _) rfl,
      read_embedded_iff_staged]
    constructor
    · rintro ⟨u, mid, tail, ⟨inner, hw, hs⟩, hf, rfl⟩
      exact ⟨_, inner, u, ⟨_, mid, tail, hw, hf, rfl⟩, List.lookup_cons_self, hs,
        by simp [Value.put]⟩
    · rintro ⟨_, inner, u, ⟨raw, mid, tail, hw, hf, rfl⟩, hlook, hs, rfl⟩
      rw [List.lookup_cons_self] at hlook
      cases hlook
      exact ⟨u, mid, tail, ⟨inner, hw, hs⟩, hf, by simp [Value.put]⟩
  | cons field before ih =>
    obtain ⟨other, t⟩ := field
    intro window out hname
    have hname' := not_mem_valueNames_tail hname
    simp only [wrapping, List.cons_append] at ih ⊢
    cases hm : t.isMagic with
    | true =>
      simp only [readFields_magic_eq_ok_iff hm, ih hname']
      constructor
      · rintro ⟨u, mid, hu, entries, inner, w, hf, hrest⟩
        exact ⟨entries, inner, w, ⟨u, mid, hu, hf⟩, hrest⟩
      · rintro ⟨entries, inner, w, ⟨u, mid, hu, hf⟩, hrest⟩
        exact ⟨u, mid, hu, entries, inner, w, hf, hrest⟩
    | false =>
      have hne : other ≠ name := by
        rintro rfl
        exact hname (by simp [valueNames, hm])
      -- a field in front has another name, so it is neither looked up nor replaced
      have hdiff : (name == other) = false := beq_eq_false_iff_ne.mpr hne.symm
      simp only [readFields_value_eq_ok_iff hm, ih hname']
      constructor
      · rintro ⟨u, mid, _, hu, ⟨entries, inner, w, hf, hlook, hs, rfl⟩, rfl⟩
        exact ⟨(other, u) :: entries, inner, w, ⟨u, mid, entries, hu, hf, rfl⟩,
          by rw [List.lookup_cons, hdiff]; exact hlook, hs, by simp [Value.put, hne]⟩
      · rintro ⟨_, inner, w, ⟨u, mid, entries, hu, hf, rfl⟩, hlook, hs, rfl⟩
        rw [List.lookup_cons, hdiff] at hlook
        exact ⟨u, mid, Value.put entries name w, hu, ⟨entries, inner, w, hf, hlook, hs, rfl⟩,
          by simp [Value.put, hne]⟩

/-- What a wrapper without a layout holds was read from an explicit length. -/
theorem lookup_of_readFields_wrapping :
    ∀ {before : List (String × Schema)} {window : Bytes} {entries : List (String × Value)},
      name ∉ valueNames before →
      readFields (wrapping before name length none after) window = .ok (entries, rest) →
      ∃ inner, entries.lookup name = some (rawContent true inner) := by
  intro before
  induction before with
  | nil =>
    intro window entries _ h
    obtain ⟨u, mid, tail, hw, -, rfl⟩ := (readFields_value_eq_ok_iff rfl).mp h
    obtain ⟨head, inner, -, -, rfl⟩ := read_required_eq_ok_iff.mp hw
    exact ⟨inner, List.lookup_cons_self⟩
  | cons field before ih =>
    obtain ⟨other, t⟩ := field
    intro window entries hname h
    have hname' := not_mem_valueNames_tail hname
    cases hm : t.isMagic with
    | true =>
      obtain ⟨u, mid, -, hf⟩ := (readFields_magic_eq_ok_iff hm).mp h
      exact ih hname' hf
    | false =>
      have hne : name ≠ other := by
        rintro rfl
        exact hname (by simp [valueNames, hm])
      obtain ⟨u, mid, tail, -, hf, rfl⟩ := (readFields_value_eq_ok_iff hm).mp h
      obtain ⟨inner, hlook⟩ := ih hname' hf
      exact ⟨inner, by rw [List.lookup_cons, beq_eq_false_iff_ne.mpr hne]; exact hlook⟩

theorem valueNames_wrapping (layout : Option Schema) :
    valueNames (wrapping before name length layout after) =
      valueNames before ++ name :: valueNames after := by
  simp [valueNames, wrapping, isMagic]

theorem admissible_struct_iff {fields : List (String × Schema)} :
    (struct fields).Admissible ↔ ∀ field ∈ fields, field.2.Admissible := by
  show defectOfFields? fields = none ↔ _
  induction fields with
  | nil => simp [defectOfFields?]
  | cons field fields ih =>
    rw [defectOfFields?, List.forall_mem_cons, ← ih, Admissible]
    cases field.2.defect? with
    | some cause => simp
    | none => simp

theorem admissible_wrapping_iff :
    (struct (wrapping before name length (some s) after)).Admissible ↔
      (struct (wrapping before name length none after)).Admissible ∧ s.Admissible := by
  simp only [admissible_struct_iff, wrapping, List.forall_mem_append, List.forall_mem_cons,
    admissible_embedded_iff]
  constructor
  · rintro ⟨hb, hs, ha⟩
    exact ⟨⟨hb, rfl, ha⟩, hs⟩
  · rintro ⟨⟨hb, -, ha⟩, hs⟩
    exact ⟨hb, hs, ha⟩

end Schema

/-- **A wrapper read in place is the wrapper read raw**, with the raw content taken up by its layout
and put back where it was. -/
theorem decode_wrapping_iff {name : String} {before after : List (String × Schema)}
    (hname : name ∉ Schema.valueNames before) :
    decode (.struct (Schema.wrapping before name length (some s) after)) data = .ok (v, n) ↔
      ∃ entries raw u,
        decode (.struct (Schema.wrapping before name length none after)) data =
          .ok (.map entries, n) ∧
        entries.lookup name = some raw ∧ deserializeOf s raw = .ok u ∧
        v = .map (Value.put entries name u) := by
  -- putting a field keeps the names, so neither struct has a field without one before the other
  have hkeys : ∀ {layout : Option Schema} {window rest : Bytes} {entries : List (String × Value)},
      Schema.readFields (Schema.wrapping before name length layout after) window =
        .ok (entries, rest) →
      ((∀ entry ∈ entries, entry.1 ≠ "") ↔
        ∀ key ∈ Schema.valueNames before ++ name :: Schema.valueNames after, key ≠ "") := by
    intro layout window rest entries h
    rw [← Schema.valueNames_wrapping layout, ← Schema.readFields_names h, List.forall_mem_map]
  simp only [decode_eq_ok_iff, Schema.admissible_wrapping_iff, Schema.read_struct_eq_ok_iff]
  constructor
  · rintro ⟨⟨hw, hs⟩, rest, ⟨out, hf, hnames, rfl⟩, rfl⟩
    obtain ⟨entries, inner, u, hf', hlook, hr, rfl⟩ :=
      (Schema.readFields_wrapping_iff hname).mp hf
    refine ⟨entries, _, u, ⟨hw, rest, ⟨entries, hf', ?_, rfl⟩, rfl⟩, hlook, ?_, rfl⟩
    · exact (hkeys hf').mpr ((hkeys hf).mp hnames)
    · exact deserializeOf_rawContent.mpr (deserialize_eq_ok_iff.mpr ⟨hs, hr⟩)
  · rintro ⟨entries, raw, u, ⟨hw, rest, ⟨held, hf, hnames, hheld⟩, rfl⟩, hlook, hd, rfl⟩
    obtain rfl := Value.map.inj hheld
    obtain ⟨inner, hinner⟩ := Schema.lookup_of_readFields_wrapping hname hf
    obtain rfl : raw = Schema.rawContent true inner := by
      rw [hinner] at hlook
      exact (Option.some.inj hlook).symm
    obtain ⟨hs, hr⟩ := deserialize_eq_ok_iff.mp (deserializeOf_rawContent.mp hd)
    have hf' := (Schema.readFields_wrapping_iff hname).mpr ⟨entries, inner, u, hf, hinner, hr, rfl⟩
    exact ⟨⟨hw, hs⟩, rest, ⟨_, hf', (hkeys hf').mpr ((hkeys hf).mp hnames), rfl⟩, rfl⟩

/-- The same of an input of any kind that is taken up whole. -/
theorem deserializeOf_wrapping_iff {name : String} {before after : List (String × Schema)}
    {input : Value} (hname : name ∉ Schema.valueNames before) :
    deserializeOf (.struct (Schema.wrapping before name length (some s) after)) input = .ok v ↔
      ∃ entries raw u,
        deserializeOf (.struct (Schema.wrapping before name length none after)) input =
          .ok (.map entries) ∧
        entries.lookup name = some raw ∧ deserializeOf s raw = .ok u ∧
        v = .map (Value.put entries name u) := by
  simp only [@deserializeOf_eq_ok_iff (.struct _), deserialize_eq_ok_iff_decode,
    decode_wrapping_iff hname]
  constructor
  · rintro ⟨data, hi, hlen, entries, raw, u, hd, hrest⟩
    exact ⟨entries, raw, u, ⟨data, hi, hlen, hd⟩, hrest⟩
  · rintro ⟨entries, raw, u, ⟨data, hi, hlen, hd⟩, hrest⟩
    exact ⟨data, hi, hlen, entries, raw, u, hd, hrest⟩

end TokenBridge.Layout
