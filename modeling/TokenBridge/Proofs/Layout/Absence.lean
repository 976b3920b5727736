import TokenBridge.Proofs.Layout.Canonical
import TokenBridge.Proofs.Layout.Input

/-!
# Windows that may be absent

A window that may be absent says "empty" in two ways: by not being there, and by the length zero.
What tells the two apart when the value is written again is the value alone, and it is written as
nothing exactly when it is plain empty bytes.

A content without a layout keeps the two apart, since an explicit length zero is read to a value of
its own. A layout reads its content to whatever it likes, and may read an explicit content to plain
empty bytes, as a greedy byte string does with no bytes at all. So **a window is written back exactly
when it was absent or was not read to plain empty bytes** (`encode_optional_iff`), and an explicit
window that was read to them comes back as nothing (`encode_optional_dropped`).
-/

namespace TokenBridge.Layout

namespace Schema

variable {length : LengthField} {layout : Schema} {window rest : Bytes} {v : Value}

/-- Plain empty bytes leave the window out, whatever its content would have been. -/
theorem write_optional_plainEmpty {content : Option Schema} (hv : v.isPlainEmpty = true) :
    (bytes (some length) content true).write v = .ok [] := by
  have homit : (true && v.isPlainEmpty) = true := by simp [hv]
  cases content with
  | none => exact write_raw_eq_ok_iff.mpr (Or.inl ⟨homit, rfl⟩)
  | some layout => exact write_embedded_eq_ok_iff.mpr (Or.inl ⟨homit, rfl⟩)

/-- A content without a layout is plain empty bytes only where there was no window. -/
theorem window_eq_nil_of_plainEmpty
    (h : (bytes (some length) none true).read window = .ok (v, rest))
    (hv : v.isPlainEmpty = true) : window = [] := by
  rcases read_raw_eq_ok_iff.mp h with ⟨-, hw, -, -⟩ | ⟨head, inner, -, -, rfl⟩
  · exact hw
  · rw [isPlainEmpty_rawContent] at hv
    cases hv

/-- Where the layout writes back what it took up whole, so does the window, unless the value leaves
it out. -/
theorem write_optional_of_read
    (hlayout : ∀ {inner : Bytes} {u : Value},
      layout.read inner = .ok (u, []) → layout.write u = .ok inner)
    (h : (bytes (some length) (some layout) true).read window = .ok (v, rest))
    (hv : v.isPlainEmpty = false) :
    ∃ data, (bytes (some length) (some layout) true).write v = .ok data ∧ window = data ++ rest := by
  rcases read_embedded_eq_ok_iff.mp h with ⟨-, -, -, rfl⟩ | ⟨head, inner, hh, rfl, hl⟩
  · -- an absent window is read to plain empty bytes
    cases hv
  · have homit : (true && v.isPlainEmpty) = false := by simp [hv]
    exact ⟨head ++ inner,
      write_embedded_eq_ok_iff.mpr (Or.inr ⟨homit, head, inner, hlayout hl, hh, rfl⟩), rfl⟩

end Schema

/-! ## Whole windows -/

/-- The schema writes back every input that it takes up whole. -/
def Reencodes (s : Schema) : Prop :=
  ∀ (data : Bytes) (v : Value), deserialize s data = .ok v → encode s v = .ok data

theorem reencodes_of_canonical {s : Schema} (hs : s.Canonical) : Reencodes s := by
  intro data v h
  obtain ⟨hadm, hr⟩ := deserialize_eq_ok_iff.mp h
  obtain ⟨written, hw, happ⟩ := Schema.write_of_read hs hr
  rw [List.append_nil] at happ
  rw [happ]
  exact encode_eq_ok_iff.mpr ⟨hadm, hw⟩

/-- The window of a field that may be absent. -/
def optional (length : LengthField) (layout : Option Schema) : Schema := .bytes (some length) layout true

section Optional

variable {length : LengthField} {layout : Option Schema} {data : Bytes} {v : Value}

theorem encode_optional_plainEmpty (hadm : (optional length layout).Admissible)
    (hv : v.isPlainEmpty = true) : encode (optional length layout) v = .ok [] :=
  encode_eq_ok_iff.mpr ⟨hadm, Schema.write_optional_plainEmpty hv⟩

theorem encode_optional_of_ne (hlayout : ∀ s ∈ layout, Reencodes s)
    (h : deserialize (optional length layout) data = .ok v) (hv : v.isPlainEmpty = false) :
    encode (optional length layout) v = .ok data := by
  cases layout with
  | none => exact reencodes_of_canonical (s := optional length none) trivial data v h
  | some s =>
    obtain ⟨hadm, hr⟩ := deserialize_eq_ok_iff.mp h
    have hs : s.Admissible := hadm
    have hback : ∀ {inner : Bytes} {u : Value},
        s.read inner = .ok (u, []) → s.write u = .ok inner := by
      intro inner u hu
      have hw := hlayout s rfl inner u (deserialize_eq_ok_iff.mpr ⟨hs, hu⟩)
      exact (encode_eq_ok_iff.mp hw).2
    obtain ⟨written, hw, happ⟩ := Schema.write_optional_of_read hback hr hv
    rw [List.append_nil] at happ
    rw [happ]
    exact encode_eq_ok_iff.mpr ⟨hadm, hw⟩

/-- **A window that may be absent is written back exactly when it was absent or was not read to plain
empty bytes**; where it was read to them, it is written as nothing. Without a layout that happens to
the absent window alone, so nothing is lost there. -/
theorem encode_optional_iff (hlayout : ∀ s ∈ layout, Reencodes s)
    (h : deserialize (optional length layout) data = .ok v) :
    (encode (optional length layout) v = .ok data ↔ data = [] ∨ v.isPlainEmpty = false) ∧
    (v.isPlainEmpty = true → encode (optional length layout) v = .ok []) ∧
    (data = [] → encode (optional length layout) v = .ok []) ∧
    (layout = none → encode (optional length layout) v = .ok data) := by
  obtain ⟨hadm, hr⟩ := deserialize_eq_ok_iff.mp h
  have hempty : v.isPlainEmpty = true → encode (optional length layout) v = .ok [] :=
    encode_optional_plainEmpty hadm
  have hiff : encode (optional length layout) v = .ok data ↔ data = [] ∨ v.isPlainEmpty = false := by
    cases hv : v.isPlainEmpty with
    | true =>
      rw [hempty hv]
      simp [eq_comm]
    | false => simp [encode_optional_of_ne hlayout h hv]
  refine ⟨hiff, hempty, ?_, ?_⟩
  · intro hnil
    subst hnil
    exact hiff.mpr (Or.inl rfl)
  · intro hnone
    subst hnone
    apply hiff.mpr
    cases hv : v.isPlainEmpty with
    | true => exact Or.inl (Schema.window_eq_nil_of_plainEmpty hr hv)
    | false => exact Or.inr rfl

/-- A window with the length zero keeps it, and a run of elements that ends with its window is written
back whole. -/
theorem encode_optional_explicit :
    let pairs : Schema := .sequence none (.fixed 2)
    let window : Bytes := [0, 4, 7, 9, 8, 1]
    let items : Value := .list [.bytes [7, 9], .bytes [8, 1]]
    deserialize (optional ⟨2, .big⟩ none) [0, 0] = .ok .prefixedEmpty ∧
    encode (optional ⟨2, .big⟩ none) .prefixedEmpty = .ok [0, 0] ∧
    Reencodes pairs ∧
    deserialize (optional ⟨2, .big⟩ (some pairs)) window = .ok items ∧
    encode (optional ⟨2, .big⟩ (some pairs)) items = .ok window := by
  intro pairs window items
  have hzero : deserialize (optional ⟨2, .big⟩ none) [0, 0] = .ok .prefixedEmpty := rfl
  have hpairs : Reencodes pairs := reencodes_of_canonical trivial
  have hitems : deserialize (optional ⟨2, .big⟩ (some pairs)) window = .ok items := rfl
  refine ⟨hzero, ?_, hpairs, hitems, ?_⟩
  · exact (encode_optional_iff (by simp) hzero).2.2.2 rfl
  · have hlayout : ∀ s ∈ some pairs, Reencodes s := by
      intro s hs
      obtain rfl := Option.mem_some_iff.mp hs
      exact hpairs
    exact (encode_optional_iff hlayout hitems).1.mpr (Or.inr rfl)

/-- A greedy byte string reads an explicit window of length zero to plain empty bytes, and the window
comes back as nothing. -/
theorem encode_optional_dropped :
    let greedy : Schema := .bytes none none false
    Reencodes greedy ∧
    deserialize (optional ⟨1, .big⟩ (some greedy)) [0] = .ok (.bytes []) ∧
    encode (optional ⟨1, .big⟩ (some greedy)) (.bytes []) = .ok [] ∧
    ¬ encode (optional ⟨1, .big⟩ (some greedy)) (.bytes []) = .ok [0] := by
  intro greedy
  have hread : deserialize (optional ⟨1, .big⟩ (some greedy)) [0] = .ok (.bytes []) := rfl
  have hwritten : encode (optional ⟨1, .big⟩ (some greedy)) (.bytes []) = .ok [] := rfl
  refine ⟨reencodes_of_canonical trivial, hread, hwritten, ?_⟩
  rw [hwritten]
  simp

end Optional

end TokenBridge.Layout
