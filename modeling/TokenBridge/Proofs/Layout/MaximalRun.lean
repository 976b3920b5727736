import TokenBridge.Proofs.Layout.Embedding
import TokenBridge.Proofs.Layout.Progress
import TokenBridge.Proofs.Layout.Refusal

/-!
# Runs of elements

A sequence without a length takes elements until one cannot be read. Why it cannot be read is
forgotten, and so is how far it was read: a run is told by what its elements are when each is read
alone, from where the one before it ended, and by the try that failed (`Successive`). **Every window
has such a run** (`exists_successive`), and no bytes are lost between the run and what comes after
it.

That forgetting is safe because nothing takes a shorter run for a longer one that was damaged. The
bytes that the failed try had looked at are still there, and whoever comes next meets them: a window
with a length has bytes left over, an input as a whole has them trailing, and in a struct the next
field starts with them.
-/

namespace TokenBridge.Layout

variable {element s : Schema} {window rest : Bytes} {v : Value}

/-! ## Successive elements -/

/-- The bytes that elements take together. -/
def taken : List (Value × Nat) → Nat
  | [] => 0
  | (_, n) :: parts => n + taken parts

/-- The elements, each with the number of bytes it takes, are read one after another from the start
of the window, and after the last of them none can be read. -/
inductive Successive (element : Schema) : Bytes → List (Value × Nat) → Prop
  | stop {window : Bytes} {fault : Fault} :
      decode element window = .error fault → Successive element window []
  | next {window : Bytes} {v : Value} {n : Nat} {parts : List (Value × Nat)} :
      decode element window = .ok (v, n) → Successive element (window.drop n) parts →
      Successive element window ((v, n) :: parts)

/-- Nothing can be read where the run ends. -/
theorem Successive.stops {parts : List (Value × Nat)} (h : Successive element window parts) :
    ∃ fault, decode element (window.drop (taken parts)) = .error fault := by
  induction h with
  | stop hstop => exact ⟨_, hstop⟩
  | @next window v n parts _ _ ih =>
    rw [List.drop_drop] at ih
    exact ih

theorem successive_of_run (hs : element.Admissible) {items : List Value}
    (h : Schema.Run (fun w => element.read w) window items rest)
    (hstop : ∃ fault, element.read rest = .error fault) :
    ∃ parts, Successive element window parts ∧ parts.map (·.1) = items ∧
      taken parts ≤ window.length ∧ window.drop (taken parts) = rest := by
  induction h with
  | @nil window =>
    obtain ⟨fault, hfault⟩ := hstop
    exact ⟨[], .stop ((decode_eq_error_iff hs).mpr hfault), rfl, Nat.zero_le _, rfl⟩
  | @cons window mid rest v items hv _ ih =>
    obtain ⟨parts, hparts, rfl, hle, hdrop⟩ := ih hstop
    obtain ⟨head, rfl⟩ := Schema.read_suffix hv
    have hd : decode element (head ++ mid) = .ok (v, head.length) :=
      decode_eq_ok_iff.mpr ⟨hs, mid, hv, by simp⟩
    refine ⟨(v, head.length) :: parts, .next hd ?_, rfl, ?_, ?_⟩
    · rw [List.drop_left]
      exact hparts
    · rw [List.length_append]
      exact Nat.add_le_add_left hle _
    · rw [← hdrop]
      exact List.drop_length_add_append (taken parts)

theorem admissible_element (hs : (Schema.sequence none element).Admissible) :
    element.Admissible := by
  unfold Schema.Admissible Schema.defect? at hs
  split at hs
  · cases hs
  · assumption

/-- **Every window has a run**, and what is left of the window is what the run did not take. -/
theorem exists_successive (hs : (Schema.sequence none element).Admissible)
    (hc : element.Consumes) (window : Bytes) :
    ∃ parts, Successive element window parts ∧ taken parts ≤ window.length ∧
      (Schema.sequence none element).read window =
        .ok (.list (parts.map (·.1)), window.drop (taken parts)) := by
  -- a run never fails, so there is something that it was read to
  obtain ⟨items, rest, hread⟩ : ∃ items rest,
      (Schema.sequence none element).read window = .ok (.list items, rest) := ⟨_, _, rfl⟩
  obtain ⟨all, -, hrun, -, hall⟩ := Schema.read_run_eq_ok_iff.mp hread
  obtain rfl := Value.list.inj hall
  obtain ⟨parts, hparts, rfl, hle, rfl⟩ :=
    successive_of_run (admissible_element hs) hrun (Schema.read_run_stops hc hread)
  exact ⟨parts, hparts, hle, hread⟩

/-! ## What comes after a run -/

/-- A content that its layout does not use up is left over in its window. -/
theorem readWhole_of_rest {layout : Bytes → Except Fault (Value × Bytes)}
    (h : layout window = .ok (v, rest)) (hrest : rest ≠ []) :
    Schema.readWhole layout window = fail .parsing .unconsumed := by
  rw [Schema.readWhole, h]
  cases rest with
  | nil => exact absurd rfl hrest
  | cons byte rest => rfl

theorem decode_window_of_rest {length : LengthField} {omitIfEmpty : Bool} {head : Bytes}
    (hs : s.Admissible) (hh : length.write window.length = .ok head)
    (h : s.read window = .ok (v, rest)) (hrest : rest ≠ []) (after : Bytes) :
    decode (.bytes (some length) (some s) omitIfEmpty) (head ++ (window ++ after)) =
      fail .parsing .unconsumed := by
  have hread : (Schema.bytes (some length) (some s) omitIfEmpty).read (head ++ (window ++ after)) =
      fail .parsing .unconsumed := by
    rw [Schema.read, Schema.readWindow_head hh, readWhole_of_rest h hrest]
    rfl
  exact (decode_eq_error_iff (Schema.admissible_embedded_iff.mpr hs)).mpr hread

theorem decode_window_of_whole {length : LengthField} {omitIfEmpty : Bool} {head : Bytes}
    (hs : s.Admissible) (hh : length.write window.length = .ok head)
    (h : s.read window = .ok (v, [])) (after : Bytes) :
    decode (.bytes (some length) (some s) omitIfEmpty) (head ++ (window ++ after)) =
      .ok (v, head.length + window.length) := by
  refine decode_eq_ok_iff.mpr ⟨Schema.admissible_embedded_iff.mpr hs, after, ?_, ?_⟩
  · refine Schema.read_embedded_eq_ok_iff.mpr (Or.inr ⟨head, window, hh, ?_, h⟩)
    exact (List.append_assoc ..).symm
  · simp only [List.length_append]
    omega

theorem deserialize_of_rest (hs : s.Admissible) (h : s.read window = .ok (v, rest))
    (hrest : rest ≠ []) :
    deserialize s window = fail .parsing (.trailing rest.length) := by
  obtain ⟨head, rfl⟩ := Schema.read_suffix h
  have hd : decode s (head ++ rest) = .ok (v, head.length) :=
    decode_eq_ok_iff.mpr ⟨hs, rest, h, by simp⟩
  have hpos := List.length_pos_iff.mpr hrest
  rw [deserialize, hd]
  show (if head.length = (head ++ rest).length then _ else _) = _
  rw [List.length_append, if_neg (by omega), Nat.add_sub_cancel_left]

section Fields

variable {before after : List (String × Schema)} {name : String} {entries : List (String × Value)}
  {data mid : Bytes}

theorem readFields_of_magic (hm : s.isMagic = true) (h : s.read data = .ok (v, mid)) :
    Schema.readFields ((name, s) :: after) data = Schema.readFields after mid := by
  rw [Schema.readFields, if_pos hm, h]
  rfl

theorem readFields_of_value (hm : s.isMagic = false) (h : s.read data = .ok (v, mid)) :
    Schema.readFields ((name, s) :: after) data = (do
      let (more, rest) ← Schema.readFields after mid
      .ok ((name, v) :: more, rest)) := by
  rw [Schema.readFields, if_neg (by simp [hm]), h]
  rfl

/-- The fields after a field are read from where it ended. -/
theorem readFields_resume (hm : s.isMagic = false) (hv : s.read mid = .ok (v, rest)) :
    ∀ {data : Bytes} {entries : List (String × Value)},
      Schema.readFields before data = .ok (entries, mid) →
      Schema.readFields (before ++ (name, s) :: after) data = (do
        let (more, left) ← Schema.readFields after rest
        .ok (entries ++ (name, v) :: more, left)) := by
  induction before with
  | nil =>
    intro data entries h
    obtain ⟨rfl, rfl⟩ := Schema.readFields_nil_eq_ok_iff.mp h
    exact readFields_of_value hm hv
  | cons field before ih =>
    obtain ⟨other, t⟩ := field
    intro data entries h
    cases ht : t.isMagic with
    | true =>
      obtain ⟨u, next, hu, hf⟩ := (Schema.readFields_magic_eq_ok_iff ht).mp h
      rw [List.cons_append, readFields_of_magic ht hu]
      exact ih hf
    | false =>
      obtain ⟨u, next, tail, hu, hf, rfl⟩ := (Schema.readFields_value_eq_ok_iff ht).mp h
      rw [List.cons_append, readFields_of_value ht hu, ih hf]
      cases Schema.readFields after rest with
      | error fault => rfl
      | ok answer => rfl

/-- The same of a struct: what comes after a field is a struct of its own, read from there. -/
theorem read_struct_resume (hname : name ≠ "") (hm : s.isMagic = false)
    (hb : (Schema.struct before).read data = .ok (.map entries, mid))
    (hv : s.read mid = .ok (v, rest)) :
    (∀ more left, (Schema.struct after).read rest = .ok (.map more, left) →
      (Schema.struct (before ++ (name, s) :: after)).read data =
        .ok (.map (entries ++ (name, v) :: more), left)) ∧
    (∀ fault, (Schema.struct after).read rest = .error fault →
      (Schema.struct (before ++ (name, s) :: after)).read data = .error fault) := by
  obtain ⟨held, hf, hnames, hheld⟩ := Schema.read_struct_eq_ok_iff.mp hb
  obtain rfl := Value.map.inj hheld
  have hany : (entries.any fun entry => entry.1.isEmpty) = false :=
    List.any_eq_false.mpr fun entry he => by simpa using hnames entry he
  have hempty : name.isEmpty = false := by simpa using hname
  rw [Schema.read, Schema.read, readFields_resume hm hv hf]
  cases Schema.readFields after rest with
  | error fault => exact ⟨fun _ _ h => (by cases h), fun _ h => h⟩
  | ok answer =>
    obtain ⟨held, tail⟩ := answer
    -- only a field that comes after can be without a name
    have hsame : ((entries ++ (name, v) :: held).any fun entry => entry.1.isEmpty) =
        held.any fun entry => entry.1.isEmpty := by
      rw [List.any_append, List.any_cons, hany, hempty, Bool.false_or, Bool.false_or]
    simp only [bind, Except.bind, hsame]
    cases held.any fun entry => entry.1.isEmpty with
    | true => exact ⟨fun _ _ h => (by cases h), fun _ h => h⟩
    | false => exact ⟨fun _ _ h => (by cases h; rfl), fun _ h => (by cases h)⟩

theorem decode_struct_resume {n : Nat} (hname : name ≠ "") (hm : s.isMagic = false)
    (hall : (Schema.struct (before ++ (name, s) :: after)).Admissible)
    (hb : decode (.struct before) data = .ok (.map entries, n))
    (hv : s.read (data.drop n) = .ok (v, rest)) :
    (∀ more m, decode (.struct after) rest = .ok (.map more, m) →
      decode (.struct (before ++ (name, s) :: after)) data =
        .ok (.map (entries ++ (name, v) :: more), data.length - rest.length + m)) ∧
    (∀ fault, decode (.struct after) rest = .error fault →
      decode (.struct (before ++ (name, s) :: after)) data = .error fault) := by
  have hafter : (Schema.struct after).Admissible := by
    rw [Schema.admissible_struct_iff, List.forall_mem_append, List.forall_mem_cons] at hall
    exact Schema.admissible_struct_iff.mpr hall.2.2
  have hbefore := (decode_take hb).2
  constructor
  · intro more m h
    obtain ⟨-, left, hr, rfl⟩ := decode_eq_ok_iff.mp h
    have hresume := (read_struct_resume hname hm hbefore hv).1 more left hr
    refine decode_eq_ok_iff.mpr ⟨hall, left, hresume, ?_⟩
    have hdata := (List.drop_suffix n data).length_le
    have hrest := (Schema.read_suffix hv).length_le
    have hleft := (Schema.read_suffix hr).length_le
    omega
  · intro fault h
    have hr := (decode_eq_error_iff hafter).mp h
    exact (decode_eq_error_iff hall).mpr ((read_struct_resume hname hm hbefore hv).2 fault hr)

end Fields

/-! ## Runs of an input -/

/-- What the reader makes of a window that starts with a run of these items, which takes so many
bytes. -/
structure ReadAsRun (element : Schema) (window : Bytes) (items : Value) (n : Nat) : Prop where
  /-- The run is the value, and no fault. -/
  alone : decode (.sequence none element) window = .ok (items, n)
  /-- Another element cannot be read. -/
  stops : ∃ fault, decode element (window.drop n) = .error fault
  /-- Behind its length, a window that is taken in full is read to the run. -/
  framed : ∀ (length : LengthField) (omitIfEmpty : Bool) (head after : Bytes),
    length.write window.length = .ok head → n = window.length →
    decode (.bytes (some length) (some (.sequence none element)) omitIfEmpty)
      (head ++ (window ++ after)) = .ok (items, head.length + window.length)
  /-- Behind its length, any other window has bytes left over. -/
  overfull : ∀ (length : LengthField) (omitIfEmpty : Bool) (head after : Bytes),
    length.write window.length = .ok head → n ≠ window.length →
    Violates (decode (.bytes (some length) (some (.sequence none element)) omitIfEmpty)
      (head ++ (window ++ after))) "unconsumed bytes inside length window"
  /-- As an input, a window that is taken in full is the run. -/
  whole : n = window.length → deserialize (.sequence none element) window = .ok items
  /-- As an input, any other window has the rest of its bytes trailing. -/
  trailing : n ≠ window.length →
    Violates (deserialize (.sequence none element) window)
      s!"value: {window.length - n} trailing bytes after decoding"
  /-- The fields after the run are a struct that is read from where the run ended. -/
  resumed : ∀ (before after : List (String × Schema)) (name : String) (data : Bytes)
    (entries more : List (String × Value)) (k m : Nat), name ≠ "" →
    (Schema.struct (before ++ (name, .sequence none element) :: after)).Admissible →
    decode (.struct before) data = .ok (.map entries, k) → data.drop k = window →
    decode (.struct after) (window.drop n) = .ok (.map more, m) →
    decode (.struct (before ++ (name, .sequence none element) :: after)) data =
      .ok (.map (entries ++ (name, items) :: more), k + n + m)
  /-- Where they cannot be read, that is the fault of the whole struct. -/
  broken : ∀ (before after : List (String × Schema)) (name : String) (data : Bytes)
    (entries : List (String × Value)) (k : Nat) (fault : Fault), name ≠ "" →
    (Schema.struct (before ++ (name, .sequence none element) :: after)).Admissible →
    decode (.struct before) data = .ok (.map entries, k) → data.drop k = window →
    decode (.struct after) (window.drop n) = .error fault →
    decode (.struct (before ++ (name, .sequence none element) :: after)) data = .error fault

/-- **A run takes the elements that can be read one after another and gives back all other bytes**,
wherever it stands. -/
theorem decode_run (hs : (Schema.sequence none element).Admissible) (hc : element.Consumes)
    (window : Bytes) :
    ∃ parts, Successive element window parts ∧
      ReadAsRun element window (.list (parts.map (·.1))) (taken parts) := by
  obtain ⟨parts, hparts, hle, hread⟩ := exists_successive hs hc window
  have hnil : taken parts = window.length → window.drop (taken parts) = [] := by
    intro h
    rw [h, List.drop_length]
  have hne : taken parts ≠ window.length → window.drop (taken parts) ≠ [] := by
    intro h hdrop
    have := List.drop_eq_nil_iff.mp hdrop
    omega
  have hrest := List.length_drop (l := window) (i := taken parts)
  refine ⟨parts, hparts,
    { alone := ?alone, stops := hparts.stops, framed := ?framed, overfull := ?overfull,
      whole := ?whole, trailing := ?trailing, resumed := ?resumed, broken := ?broken }⟩
  case alone => exact decode_eq_ok_iff.mpr ⟨hs, _, hread, by omega⟩
  case framed =>
    intro length omitIfEmpty head after hh h
    rw [hnil h] at hread
    exact decode_window_of_whole hs hh hread after
  case overfull =>
    intro length omitIfEmpty head after hh h
    rw [decode_window_of_rest hs hh hread (hne h) after]
    exact ⟨_, rfl, rfl, rfl⟩
  case whole =>
    intro h
    rw [hnil h] at hread
    exact deserialize_eq_ok_iff.mpr ⟨hs, hread⟩
  case trailing =>
    intro h
    rw [deserialize_of_rest hs hread (hne h), hrest]
    exact ⟨_, rfl, rfl, rfl⟩
  case resumed =>
    intro before after name data entries more k m hname hall hb hwindow h
    subst hwindow
    have hcount : data.length - ((data.drop k).drop (taken parts)).length + m =
        k + taken parts + m := by
      have hk := (decode_take hb).1
      have hdrop := List.length_drop (l := data) (i := k)
      omega
    rw [(decode_struct_resume hname rfl hall hb hread).1 more m h, hcount]
  case broken =>
    intro before after name data entries k fault hname hall hb hwindow h
    subst hwindow
    exact (decode_struct_resume hname rfl hall hb hread).2 fault h

/-- A mark, and a text behind its length. -/
def note : Schema := .struct [("mark", .magic [7]), ("text", .bytes (some ⟨1, .big⟩) none false)]

/-- The second note is torn: its mark and its length are read, but the text is missing. These three
bytes are not lost. -/
theorem decode_run_notes :
    let window : Bytes := [7, 2, 1, 1, 7, 5, 9]
    (Schema.sequence none note).Admissible ∧ note.Consumes ∧
      ∃ parts, Successive note window parts ∧ taken parts = 4 ∧
        Violates (decode (.bytes (some ⟨2, .big⟩) (some (.sequence none note)) false)
          ([0, 7] ++ (window ++ []))) "unconsumed bytes inside length window" ∧
        Violates (deserialize (.sequence none note) window)
          "value: 3 trailing bytes after decoding" := by
  have hs : (Schema.sequence none note).Admissible := rfl
  have hc : note.Consumes := Schema.consumes_of_leastWidth (by decide)
  obtain ⟨parts, hparts, hrun⟩ := decode_run hs hc [7, 2, 1, 1, 7, 5, 9]
  have htaken : taken parts = 4 := by
    have hone : decode (.sequence none note) [7, 2, 1, 1, 7, 5, 9] =
        .ok (.list [.map [("text", .bytes [1, 1])]], 4) := rfl
    have halone := hrun.alone
    rw [hone] at halone
    exact (Prod.mk.inj (Except.ok.inj halone)).2.symm
  rw [htaken] at hrun
  exact ⟨hs, hc, parts, hparts, htaken,
    hrun.overfull ⟨2, .big⟩ false [0, 7] [] rfl (by decide), hrun.trailing (by decide)⟩

end TokenBridge.Layout
