import TokenBridge.Json.Reader
import TokenBridge.Proofs.Outcome
import TokenBridge.Value.Display

/-!
# What is read can be written

An integer of too many digits is not read as JSON, so a value that was read contains none, however it
is put together: **every value that is read can be written** (`isWritable_of_read`). The invariant of
the reading is that there is no such integer in anything that is open or complete, and only a token
could bring one.
-/

namespace TokenBridge

namespace Value

/-- Every integer in a value can be written. -/
def IsWritable (v : Value) : Prop := ∀ n ∈ v.integers, Number.IsWritable n

theorem IsWritable.shown {v : Value} (h : v.IsWritable) : ∃ text, v.shown = .ok text := by
  cases hshown : v.shown with
  | ok text => exact ⟨text, rfl⟩
  | error fault =>
    obtain ⟨n, hn, hlong⟩ := exists_long_of_shown hshown
    exact absurd (h n hn) hlong

theorem isWritable_list_iff {items : List Value} :
    IsWritable (.list items) ↔ ∀ v ∈ items, v.IsWritable := by
  show (∀ n ∈ integersOfItems items, _) ↔ _
  induction items with
  | nil => exact iff_of_true (fun n hn => nomatch hn) fun v hv => nomatch hv
  | cons v items ih =>
    show (∀ n ∈ integers v ++ integersOfItems items, _) ↔ _
    rw [List.forall_mem_append, List.forall_mem_cons, ih]
    rfl

theorem isWritable_map {entries : Entries} (h : ∀ entry ∈ entries, entry.2.IsWritable) :
    IsWritable (.map entries) := by
  show ∀ n ∈ integersOfEntries entries, _
  induction entries with
  | nil => exact fun n hn => nomatch hn
  | cons entry entries ih =>
    obtain ⟨hentry, hentries⟩ := List.forall_mem_cons.mp h
    intro n hn
    rcases List.mem_append.mp hn with hn | hn
    · exact hentry n hn
    · exact ih hentries n hn

theorem isWritable_put {entries : Entries} {key : String} {v : Value} (hv : v.IsWritable)
    (h : ∀ entry ∈ entries, entry.2.IsWritable) :
    ∀ entry ∈ put entries key v, entry.2.IsWritable := by
  induction entries with
  | nil =>
    rw [put, List.forall_mem_singleton]
    exact hv
  | cons entry entries ih =>
    obtain ⟨hentry, hentries⟩ := List.forall_mem_cons.mp h
    rw [put]
    split
    · exact List.forall_mem_cons.mpr ⟨hv, hentries⟩
    · exact List.forall_mem_cons.mpr ⟨hentry, ih hentries⟩

end Value

namespace Json

/-! ## Tokens -/

/-- A token brings no integer that cannot be written. -/
def Token.IsWritable : Token → Prop
  | .scalar v => v.IsWritable
  | _ => True

variable {cs after : List Char} {token : Token}

theorem isWritable_of_scanWord {v : Value} (h : scanWord cs = some (v, after)) : v.IsWritable := by
  have hwords : ∀ entry ∈ wordValues, entry.2.integers = [] := by
    simp [wordValues, Value.integers]
  obtain ⟨entry, hentry, hsame⟩ := Option.map_eq_some_iff.mp h
  cases hsame
  intro n hn
  rw [hwords entry (List.mem_of_find?_eq_some hentry)] at hn
  cases hn

theorem isDigit_of_scanWhole {whole : List Char} (h : scanWhole cs = some (whole, after)) :
    ∀ c ∈ whole, c.isDigit = true := by
  cases cs with
  | nil => cases h
  | cons c rest =>
    simp only [scanWhole] at h
    split at h
    · rename_i hc
      cases h
      rw [hc]
      exact List.forall_mem_singleton.mpr rfl
    · split at h
      · rename_i hc
        cases h
        refine List.forall_mem_cons.mpr ⟨hc, fun d hd => ?_⟩
        exact List.all_eq_true.mp (List.all_takeWhile (p := Char.isDigit)) d hd
      · cases h

theorem isWritable_numberToken {negative : Bool} {whole fraction : List Char}
    {exponent : Option Int} (hwhole : ∀ c ∈ whole, c.isDigit = true) :
    (numberToken negative whole fraction exponent).IsWritable := by
  unfold numberToken
  split
  · cases hread : Number.ofDigits negative whole with
    | error fault => trivial
    | ok n =>
      show ∀ m ∈ [n], _
      rw [List.forall_mem_singleton]
      exact Number.isWritable_of_ofDigits hwhole hread
  · exact fun n hn => nomatch hn

theorem isWritable_of_scanUnsigned {negative : Bool}
    (h : scanUnsigned negative cs = some (token, after)) : token.IsWritable := by
  obtain ⟨⟨whole, afterWhole⟩, hwhole, hsame⟩ := Option.map_eq_some_iff.mp h
  obtain ⟨rfl, -⟩ := Prod.mk.inj hsame
  exact isWritable_numberToken (isDigit_of_scanWhole hwhole)

theorem isWritable_of_scanNumber (h : scanNumber cs = some (token, after)) :
    token.IsWritable := by
  unfold scanNumber at h
  split at h
  · exact isWritable_of_scanUnsigned h
  · exact isWritable_of_scanUnsigned h

theorem isWritable_of_punctuation? {c : Char} (h : punctuation? c = some token) :
    token.IsWritable := by
  unfold punctuation? at h
  repeat
    split at h
    · cases h
      trivial
  cases h

theorem isWritable_of_scanToken {c : Char} {rest : List Char}
    (h : scanToken c rest = some (token, after)) : token.IsWritable := by
  unfold scanToken at h
  split at h
  · rename_i hpunctuation
    cases h
    exact isWritable_of_punctuation? hpunctuation
  · split at h
    · obtain ⟨codes, -, hsame⟩ := Option.map_eq_some_iff.mp h
      cases hsame
      trivial
    · split at h
      · rename_i hword
        cases h
        exact isWritable_of_scanWord hword
      · exact isWritable_of_scanNumber h

theorem isWritable_of_mem_tokens : ∀ token ∈ tokens cs, token.IsWritable := by
  fun_induction tokens cs with
  | case1 => exact fun token htoken => nomatch htoken
  | case2 c rest hblank ih => exact ih
  | case3 c rest hblank token after hscan ih =>
    exact List.forall_mem_cons.mpr ⟨isWritable_of_scanToken hscan, ih⟩
  | case4 c rest hblank hscan => exact List.forall_mem_singleton.mpr trivial

/-! ## States -/

/-- Whatever is still open can be written so far. -/
def Frame.IsWritable : Frame → Prop
  | .list done => ∀ v ∈ done, v.IsWritable
  | .map done => ∀ entry ∈ done, entry.2.IsWritable
  | .entry done _ => ∀ entry ∈ done, entry.2.IsWritable

/-- What is complete can be written. -/
def Expected.IsWritable : Expected → Prop
  | .nothing v => v.IsWritable
  | _ => True

/-- What was read so far can be written. -/
structure State.IsWritable (state : State) : Prop where
  frames : ∀ frame ∈ state.frames, frame.IsWritable
  expected : state.expected.IsWritable

variable {depth : Nat} {state next : State} {frames : List Frame}

theorem isWritable_of_complete {v : Value} (hv : v.IsWritable)
    (hframes : ∀ frame ∈ frames, frame.IsWritable) (h : State.complete v frames = .ok next) :
    next.IsWritable := by
  cases frames with
  | nil =>
    cases h
    exact ⟨hframes, hv⟩
  | cons frame frames =>
    obtain ⟨hframe, hrest⟩ := List.forall_mem_cons.mp hframes
    cases frame with
    | list done =>
      cases h
      exact ⟨List.forall_mem_cons.mpr ⟨List.forall_mem_cons.mpr ⟨hv, hframe⟩, hrest⟩, trivial⟩
    | entry done key =>
      cases h
      exact ⟨List.forall_mem_cons.mpr ⟨Value.isWritable_put hv hframe, hrest⟩, trivial⟩
    | map done => cases h

theorem isWritable_of_endList (hframes : ∀ frame ∈ frames, frame.IsWritable)
    (h : State.endList frames = .ok next) : next.IsWritable := by
  unfold State.endList at h
  split at h
  · obtain ⟨hframe, hframes⟩ := List.forall_mem_cons.mp hframes
    refine isWritable_of_complete (Value.isWritable_list_iff.mpr ?_) hframes h
    exact fun v hv => hframe v (List.mem_reverse.mp hv)
  · cases h

theorem isWritable_of_endMap (hframes : ∀ frame ∈ frames, frame.IsWritable)
    (h : State.endMap frames = .ok next) : next.IsWritable := by
  unfold State.endMap at h
  split at h
  · obtain ⟨hframe, hframes⟩ := List.forall_mem_cons.mp hframes
    exact isWritable_of_complete (Value.isWritable_map hframe) hframes h
  · cases h

theorem isWritable_of_descend {frame : Frame} {expected : Expected} (hframe : frame.IsWritable)
    (hexpected : expected.IsWritable) (hframes : ∀ frame ∈ frames, frame.IsWritable)
    (h : State.descend depth frame expected frames = .ok next) : next.IsWritable := by
  unfold State.descend at h
  split at h
  · cases h
    exact ⟨List.forall_mem_cons.mpr ⟨hframe, hframes⟩, hexpected⟩
  · cases h

theorem isWritable_of_startValue (htoken : token.IsWritable)
    (hframes : ∀ frame ∈ frames, frame.IsWritable)
    (h : State.startValue depth frames token = .ok next) : next.IsWritable := by
  cases token with
  | openList =>
    have hnew : Frame.IsWritable (.list []) := fun _ hv => nomatch hv
    refine isWritable_of_descend hnew ?_ hframes h
    trivial
  | openMap =>
    have hnew : Frame.IsWritable (.map []) := fun _ hentry => nomatch hentry
    refine isWritable_of_descend hnew ?_ hframes h
    trivial
  | text s =>
    have hv : Value.IsWritable (.text s) := fun _ hn => nomatch hn
    exact isWritable_of_complete hv hframes h
  | scalar v => exact isWritable_of_complete htoken hframes h
  | _ => cases h

theorem isWritable_of_separate (hframes : ∀ frame ∈ frames, frame.IsWritable)
    (h : State.separate frames = .ok next) : next.IsWritable := by
  unfold State.separate at h
  split at h
  · cases h
    exact ⟨hframes, trivial⟩
  · cases h
    exact ⟨hframes, trivial⟩
  · cases h

theorem isWritable_of_bindKey {key : String} (hframes : ∀ frame ∈ frames, frame.IsWritable)
    (h : State.bindKey key frames = .ok next) : next.IsWritable := by
  unfold State.bindKey at h
  split at h
  · obtain ⟨hframe, hframes⟩ := List.forall_mem_cons.mp hframes
    cases h
    exact ⟨List.forall_mem_cons.mpr ⟨hframe, hframes⟩, trivial⟩
  · cases h

/-- A token keeps what was read so far such that it can be written. -/
theorem isWritable_of_step (htoken : token.IsWritable) (hstate : state.IsWritable)
    (h : state.step depth token = .ok next) : next.IsWritable := by
  obtain ⟨hframes, hexpected⟩ := hstate
  unfold State.step at h
  split at h
  · exact isWritable_of_startValue htoken hframes h
  · exact isWritable_of_endList hframes h
  · exact isWritable_of_startValue htoken hframes h
  · cases h
    exact ⟨hframes, trivial⟩
  · cases h
    exact ⟨hframes, trivial⟩
  · exact isWritable_of_endMap hframes h
  · exact isWritable_of_bindKey hframes h
  · exact isWritable_of_separate hframes h
  · exact isWritable_of_endList hframes h
  · exact isWritable_of_endMap hframes h
  · cases h

/-! ## Values -/

theorem isWritable_of_ofTokens {all : List Token} {v : Value}
    (hall : ∀ token ∈ all, token.IsWritable) (h : ofTokens depth all = .ok v) : v.IsWritable := by
  have hstart : State.initial.IsWritable := ⟨(fun _ hframe => nomatch hframe), trivial⟩
  cases hlast : all.foldlM (State.step depth) State.initial with
  | error fault =>
    simp only [ofTokens, hlast] at h
    cases h
  | ok last =>
    have hkept : last.IsWritable :=
      foldlM_invariant (fun token htoken _ _ => isWritable_of_step (hall token htoken)) hstart hlast
    obtain ⟨frames, expected⟩ := last
    cases expected with
    | nothing w =>
      simp only [ofTokens, hlast, Except.ok.injEq] at h
      exact h ▸ hkept.expected
    | _ =>
      simp only [ofTokens, hlast] at h
      cases h

/-- **Every value that is read can be written.** -/
theorem isWritable_of_read {data : Bytes} {v : Value} (h : read depth data = .ok v) :
    v.IsWritable := by
  unfold read at h
  split at h
  · exact isWritable_of_ofTokens isWritable_of_mem_tokens h
  · cases h

end Json

end TokenBridge
