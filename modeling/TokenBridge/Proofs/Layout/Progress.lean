import TokenBridge.Proofs.Layout.RoundTrip

/-!
# Progress

A sequence without a length is read by a loop that counts nothing: it ends because an element cannot
be read, and that has to happen because the elements before it took bytes of the window. Which bytes
an element takes depends on the input; how many at least, the schema says (`leastWidth`), and **what
is read takes up at least its least width** (`Schema.leastWidth_le`).

The reader of the library bounds its loops by the length of the window, so that it ends by its form
and says nothing about the loop. `Schema.watch` is the same reader with loops that nothing bounds but
an onlooker, who goes away after some turns and then has no answer, not even a fault. **If no element
can be empty, an onlooker who stays for one turn more than there are bytes left in each window sees
the whole reading end, and sees the answer of the reader** (`Schema.watch_eq`). So the bound of the
reader is never what ends a loop. Elements that may be absent keep the onlooker waiting for ever
(`Schema.watch_absent`).
-/

namespace TokenBridge.Layout

variable {α β : Type}

namespace Schema

/-! ## Least widths -/

mutual

/-- The number of bytes that a value takes up at least. -/
def leastWidth : Schema → Nat
  | .uint word => word.size
  | .fixed size => size.toNat
  | .magic data => data.length
  | .nothing | .malformedMagic _ | .malformed _ => 0
  | .struct fields => leastWidthOfFields fields
  | .union tag arms => leastWidth tag + leastWidthOfArms arms
  | .sequence none _ => 0
  | .sequence (some length) _ => length.width.toNat
  | .bytes none none _ => 0
  | .bytes none (some layout) _ => leastWidth layout
  | .bytes (some length) none omitIfEmpty => if omitIfEmpty then 0 else length.width.toNat
  | .bytes (some length) (some layout) omitIfEmpty =>
    if omitIfEmpty then 0 else length.width.toNat + leastWidth layout
  | .custom _ base => leastWidth base

/-- The fields of a struct add up. -/
def leastWidthOfFields : List (String × Schema) → Nat
  | [] => 0
  | (_, s) :: fields => leastWidth s + leastWidthOfFields fields

/-- The least of the payloads of a union. -/
def leastWidthOfArms : List (Int × String × Schema) → Nat
  | [] => 0
  | (_, _, s) :: arms =>
    if arms.isEmpty then leastWidth s else min (leastWidth s) (leastWidthOfArms arms)

end

theorem leastWidthOfArms_le {arms : List (Int × String × Schema)} :
    ∀ arm ∈ arms, leastWidthOfArms arms ≤ arm.2.2.leastWidth := by
  induction arms with
  | nil => simp
  | cons arm arms ih =>
    obtain ⟨t, name, s⟩ := arm
    cases arms with
    | nil => simp [leastWidthOfArms]
    | cons next arms =>
      intro other ho
      rw [leastWidthOfArms, if_neg (by simp)]
      rcases List.mem_cons.mp ho with rfl | ho
      · exact Nat.min_le_left _ _
      · exact Nat.le_trans (Nat.min_le_right _ _) (ih other ho)

/-- What the schema reads takes up at least its least width. -/
def TakesLeast (s : Schema) : Prop :=
  ∀ {window rest : Bytes} {v : Value}, s.read window = .ok (v, rest) →
    s.leastWidth + rest.length ≤ window.length

theorem leastWidthOfFields_le {fields : List (String × Schema)}
    (ih : ∀ field ∈ fields, field.2.TakesLeast) :
    ∀ {window rest : Bytes} {entries : List (String × Value)},
      readFields fields window = .ok (entries, rest) →
      leastWidthOfFields fields + rest.length ≤ window.length := by
  induction fields with
  | nil =>
    intro window rest entries h
    obtain ⟨-, rfl⟩ := readFields_nil_eq_ok_iff.mp h
    simp [leastWidthOfFields]
  | cons field fields ihf =>
    obtain ⟨name, s⟩ := field
    obtain ⟨hs, ih⟩ := List.forall_mem_cons.mp ih
    intro window rest entries h
    obtain ⟨u, mid, tail, hu, hf⟩ := parts_of_readFields_cons h
    have hfirst : s.leastWidth + mid.length ≤ window.length := hs hu
    have hothers := ihf ih hf
    rw [leastWidthOfFields]
    omega

/-- **What is read takes up at least its least width.** -/
theorem leastWidth_le {s : Schema} : s.TakesLeast := by
  induction s using Schema.induction with
  | uint word =>
    intro window rest v h
    obtain ⟨n, head, hw, rfl, -⟩ := read_uint_eq_ok_iff.mp h
    obtain ⟨m, -, -, rfl⟩ := Word.write_eq_ok_iff.mp hw
    simp only [leastWidth, List.length_append, Endian.length_write, Nat.le_refl]
  | fixed size =>
    intro window rest v h
    obtain ⟨data, hlen, rfl, -⟩ := read_fixed_eq_ok_iff.mp h
    rw [leastWidth, List.length_append]
    omega
  | magic data =>
    intro window rest v h
    obtain ⟨rfl, -⟩ := read_magic_eq_ok_iff.mp h
    simp only [leastWidth, List.length_append, Nat.le_refl]
  | nothing =>
    intro window rest v h
    obtain ⟨rfl, -⟩ := read_nothing_eq_ok_iff.mp h
    simp only [leastWidth, Nat.zero_add, Nat.le_refl]
  | struct fields ih =>
    intro window rest v h
    obtain ⟨entries, hf, -, -⟩ := read_struct_eq_ok_iff.mp h
    exact leastWidthOfFields_le ih hf
  | union tag arms iht iha =>
    intro window rest v h
    obtain ⟨t, mid, arm, payload, ht, -, harm, hs, -⟩ := read_union_eq_ok_iff.mp h
    have hmem := List.mem_of_find?_eq_some harm
    have htag := iht ht
    have hpayload := iha arm hmem hs
    have hleast := leastWidthOfArms_le arm hmem
    rw [leastWidth]
    omega
  | sequence length element ih =>
    intro window rest v h
    cases length with
    | none =>
      rw [leastWidth, Nat.zero_add]
      exact (read_suffix h).length_le
    | some length =>
      obtain ⟨head, mid, items, hh, rfl, hrun, -⟩ := read_counted_eq_ok_iff.mp h
      have hrest := (hrun.suffix read_suffix).length_le
      rw [leastWidth, List.length_append, LengthField.length_of_write hh]
      omega
  | raw length omitIfEmpty =>
    intro window rest v h
    cases length with
    | none =>
      rw [leastWidth, Nat.zero_add]
      exact (read_suffix h).length_le
    | some length =>
      rcases read_raw_eq_ok_iff.mp h with ⟨rfl, rfl, rfl, -⟩ | ⟨head, inner, hh, rfl, -⟩
      · exact Nat.le_refl 0
      · have hwidth := LengthField.length_of_write hh
        rw [leastWidth, List.length_append, List.length_append]
        split <;> omega
  | embedded length layout omitIfEmpty ih =>
    intro window rest v h
    cases length with
    | none =>
      obtain ⟨rfl, hl⟩ := read_greedyEmbedded_eq_ok_iff.mp h
      exact ih hl
    | some length =>
      rcases read_embedded_eq_ok_iff.mp h with ⟨rfl, rfl, rfl, -⟩ | ⟨head, inner, hh, rfl, hl⟩
      · exact Nat.le_refl 0
      · have hwidth := LengthField.length_of_write hh
        have hinner : layout.leastWidth + 0 ≤ inner.length := ih hl
        rw [leastWidth, List.length_append, List.length_append]
        split <;> omega
  | custom transform base ih =>
    intro window rest v h
    obtain ⟨raw, hb, -⟩ := read_custom_eq_ok_iff.mp h
    exact ih hb
  | malformedMagic shown => intro window rest v h; exact absurd h read_malformedMagic_ne_ok
  | malformed shown => intro window rest v h; exact absurd h read_malformed_ne_ok

theorem consumes_of_leastWidth {s : Schema} (h : 0 < s.leastWidth) : s.Consumes := by
  intro window rest v hr
  have := leastWidth_le hr
  omega

/-- The elements of a run cannot be empty, where the node is one. -/
def AdvancesRuns : Schema → Prop
  | .sequence none element => 0 < element.leastWidth
  | _ => True

instance : DecidablePred AdvancesRuns
  | .sequence none element => inferInstanceAs (Decidable (0 < element.leastWidth))
  | .sequence (some _) _ | .bytes .. | .uint _ | .fixed _ | .magic _ | .nothing
  | .struct _ | .union .. | .custom .. | .malformedMagic _ | .malformed _ => isTrue trivial

end Schema

/-! ## Loops that nothing bounds -/

/-- An outcome that may still be out. -/
abbrev Awaited (α : Type) := ExceptT Fault Option α

/-- An outcome that is there. -/
def settled (x : Except Fault α) : Awaited α := ExceptT.mk (some x)

/-- No outcome yet. -/
def unsettled : Awaited α := ExceptT.mk none

/-- A part that is entered by a step, as far as there is an outcome. -/
def awaitedWithin (step : Step) (x : Awaited α) : Awaited α := ExceptT.mk (x.run.map (within step))

theorem settled_bind {x : Except Fault α} {f : α → Awaited β} {g : α → Except Fault β}
    (h : ∀ a, x = .ok a → f a = settled (g a)) : settled x >>= f = settled (x >>= g) := by
  cases x with
  | error fault => rfl
  | ok a => exact h a rfl

namespace Schema

/-- Elements one after another until one cannot be read. Nothing else ends the loop; after so many
turns the onlooker leaves. -/
def watchRun (element : Bytes → Awaited (Value × Bytes)) :
    Nat → List Value → Bytes → Awaited (List Value × Bytes)
  | 0, _, _ => unsettled
  | turns + 1, done, window =>
    match (element window).run with
    | none => unsettled
    | some (.ok (v, rest)) => watchRun element turns (v :: done) rest
    | some (.error _) => settled (.ok (done.reverse, window))

/-- Exactly `count` elements one after another. -/
def watchCount (element : Bytes → Awaited (Value × Bytes)) :
    Nat → List Value → Bytes → Awaited (List Value × Bytes)
  | 0, done, window => settled (.ok (done.reverse, window))
  | count + 1, done, window => do
    let (v, rest) ← element window
    watchCount element count (v :: done) rest

/-- The value of a content that must be used up. -/
def watchWhole (layout : Bytes → Awaited (Value × Bytes)) (content : Bytes) : Awaited Value := do
  let (v, rest) ← awaitedWithin .value (layout content)
  if rest.isEmpty then settled (.ok v) else settled (fail .parsing .unconsumed)

/-- A window and its content. -/
def watchWindow (length : Option LengthField) (omitIfEmpty : Bool)
    (content : Bytes → Awaited Value) (window : Bytes) : Awaited (Value × Bytes) :=
  match length with
  | none => do
    let v ← content window
    settled (.ok (v, []))
  | some length =>
    if omitIfEmpty && window.isEmpty then settled (.ok (.bytes [], []))
    else do
      let (size, rest) ← settled (length.read window)
      match Bytes.split? size rest with
      | none => settled (fail .parsing .truncated)
      | some (inner, rest) => do
        let v ← content inner
        settled (.ok (v, rest))

section Watch

-- how many turns of a loop are watched, by the number of bytes that are left in its window
variable (turns : Nat → Nat)

mutual

/-- The reading of a schema, with no bound on its loops but the onlooker's. -/
def watch : Schema → Bytes → Awaited (Value × Bytes)
  | .uint word, window => settled (read (.uint word) window)
  | .fixed size, window => settled (read (.fixed size) window)
  | .magic data, window => settled (read (.magic data) window)
  | .nothing, window => settled (read .nothing window)
  | .struct fields, window => do
    let (entries, rest) ← watchFields fields window
    if entries.any (·.1.isEmpty) then settled (fail .parsing .namelessField)
    else settled (.ok (.map entries, rest))
  | .union tag arms, window => do
    let (t, rest) ← awaitedWithin .tag (watch tag window)
    if t.isKey then watchArm arms t rest
    else settled (fail .parsing .tagNotAKey)
  | .sequence none element, window => do
    let (items, rest) ← watchRun (fun w => watch element w) (turns window.length) [] window
    settled (.ok (.list items, rest))
  | .sequence (some length) element, window => do
    let (count, rest) ← settled (within .count (length.read window))
    let (items, rest) ← awaitedWithin .items (watchCount (fun w => watch element w) count [] rest)
    settled (.ok (.list items, rest))
  | .bytes length none omitIfEmpty, window => settled (read (.bytes length none omitIfEmpty) window)
  | .bytes length (some layout) omitIfEmpty, window =>
    watchWindow length omitIfEmpty (watchWhole fun w => watch layout w) window
  | .custom transform base, window => do
    let (raw, rest) ← watch base window
    let v ← settled (lift .parsing (transform.decode raw))
    settled (.ok (v, rest))
  | .malformedMagic value, window => settled (read (.malformedMagic value) window)
  | .malformed value, window => settled (read (.malformed value) window)

/-- The fields of a struct. -/
def watchFields : List (String × Schema) → Bytes → Awaited (List (String × Value) × Bytes)
  | [], window => settled (.ok ([], window))
  | (name, s) :: fields, window =>
    if s.isMagic then do
      let (_, rest) ← watch s window
      watchFields fields rest
    else do
      let (v, rest) ← awaitedWithin (.field name) (watch s window)
      let (entries, rest) ← watchFields fields rest
      settled (.ok ((name, v) :: entries, rest))

/-- The variant that a tag stands for. -/
def watchArm : List (Int × String × Schema) → Value → Bytes → Awaited (Value × Bytes)
  | [], tag, _ => settled (within .value (fail .parsing (.unmappedTag tag)))
  | (t, name, s) :: arms, tag, window =>
    if tag.equalInt? = some t then do
      let (payload, rest) ← awaitedWithin .value (watch s window)
      settled (.ok (.variant name payload, rest))
    else watchArm arms tag window

end

end Watch

/-! ## Readings end -/

section Nodes

variable {element : Bytes → Except Fault (Value × Bytes)} {window : Bytes}

/-- A loop whose elements take bytes ends by itself, with the elements of the bounded loop. -/
theorem watchRun_eq (hc : ∀ {window rest : Bytes} {v : Value},
      element window = .ok (v, rest) → rest.length < window.length) {turns : Nat} :
    ∀ {fuel : Nat} {done : List Value} {window : Bytes}, window.length < turns →
      window.length ≤ fuel →
      watchRun (fun w => settled (element w)) turns done window =
        settled (.ok (readRun element fuel done window)) := by
  induction turns with
  | zero => intro fuel done window hturns; omega
  | succ turns ih =>
    intro fuel done window hturns hfuel
    rw [watchRun]
    cases hv : element window with
    | error fault =>
      -- both loops end here, the bounded one also if it had no turn left
      have hend : readRun element fuel done window = (done.reverse, window) := by
        cases fuel with
        | zero => rfl
        | succ fuel => rw [readRun, hv]
      rw [hend]
      rfl
    | ok answer =>
      obtain ⟨v, rest⟩ := answer
      have hless := hc hv
      obtain ⟨fuel, rfl⟩ : ∃ n, fuel = n + 1 := ⟨fuel - 1, by omega⟩
      rw [readRun, hv]
      exact ih (by omega) (by omega)

theorem watchCount_eq {n : Nat} :
    ∀ {done : List Value} {window : Bytes},
      watchCount (fun w => settled (element w)) n done window =
        settled (readCount element n done window) := by
  induction n with
  | zero => intro done window; rfl
  | succ n ih =>
    intro done window
    rw [watchCount, readCount_succ]
    apply settled_bind
    intro answer _
    exact ih

theorem watchWhole_eq {content : Bytes} :
    watchWhole (fun w => settled (element w)) content = settled (readWhole element content) := by
  unfold watchWhole readWhole
  dsimp only
  cases element content with
  | error fault => rfl
  | ok answer =>
    obtain ⟨v, rest⟩ := answer
    cases rest with
    | nil => rfl
    | cons byte rest => rfl

theorem watchWindow_eq {length : Option LengthField} {omitIfEmpty : Bool}
    {content : Bytes → Except Fault Value} :
    watchWindow length omitIfEmpty (fun inner => settled (content inner)) window =
      settled (readWindow length omitIfEmpty content window) := by
  cases length with
  | none => exact settled_bind fun v _ => rfl
  | some length =>
    unfold watchWindow readWindow
    dsimp only
    split
    · rfl
    · apply settled_bind
      rintro ⟨size, rest⟩ _
      dsimp only
      cases Bytes.split? size rest with
      | none => rfl
      | some parts => exact settled_bind fun v _ => rfl

end Nodes

section Schemas

variable {turns : Nat → Nat}

theorem watchFields_eq {fields : List (String × Schema)}
    (ih : ∀ field ∈ fields, ∀ window, watch turns field.2 window = settled (field.2.read window)) :
    ∀ {window : Bytes}, watchFields turns fields window = settled (readFields fields window) := by
  induction fields with
  | nil => intro window; rfl
  | cons field fields ihf =>
    obtain ⟨name, s⟩ := field
    obtain ⟨hs, ih⟩ := List.forall_mem_cons.mp ih
    intro window
    rw [watchFields, readFields, hs window]
    split
    · exact settled_bind fun answer _ => ihf ih
    · apply settled_bind
      rintro ⟨v, rest⟩ _
      dsimp only
      rw [ihf ih]
      exact settled_bind fun entries _ => rfl

theorem watchArm_eq {tag : Value} {arms : List (Int × String × Schema)}
    (ih : ∀ arm ∈ arms, ∀ window, watch turns arm.2.2 window = settled (arm.2.2.read window)) :
    ∀ {window : Bytes}, watchArm turns arms tag window = settled (readArm arms tag window) := by
  induction arms with
  | nil => intro window; rfl
  | cons arm arms iha =>
    obtain ⟨t, name, s⟩ := arm
    obtain ⟨hs, ih⟩ := List.forall_mem_cons.mp ih
    intro window
    rw [watchArm, readArm, hs window]
    split
    · exact settled_bind fun answer _ => rfl
    · exact iha ih

/-- **Where no element can be empty, a reading that nothing bounds ends**, and with the outcome of the
reader: in each window one turn more than there are bytes left is enough. -/
theorem watch_eq {s : Schema} (hturns : ∀ left, left < turns left) :
    s.Everywhere AdvancesRuns → ∀ window, s.watch turns window = settled (s.read window) := by
  induction s using Schema.induction with
  | uint | fixed | magic | nothing | raw | malformedMagic | malformed =>
    intro _ window
    rfl
  | struct fields ih =>
    intro ha window
    have hfields := (everywhere_struct_iff.mp ha).2
    rw [watch, read, watchFields_eq fun field hf => ih field hf (hfields field hf)]
    refine settled_bind fun answer _ => ?_
    dsimp only
    split
    · rfl
    · rfl
  | union tag arms iht iha =>
    intro ha window
    obtain ⟨-, htag, harms⟩ := everywhere_union_iff.mp ha
    rw [watch, read, iht htag]
    refine settled_bind fun answer _ => ?_
    dsimp only
    split
    · exact watchArm_eq fun arm hm => iha arm hm (harms arm hm)
    · rfl
  | sequence length element ih =>
    intro ha window
    obtain ⟨hadvances, helement⟩ := everywhere_sequence_iff.mp ha
    have hwatched : (fun w => element.watch turns w) = fun w => settled (element.read w) :=
      funext (ih helement)
    cases length with
    | none =>
      rw [watch, read, hwatched, watchRun_eq (consumes_of_leastWidth hadvances)
        (hturns window.length) (Nat.le_refl _)]
      rfl
    | some length =>
      rw [watch, read, hwatched]
      refine settled_bind fun answer _ => ?_
      dsimp only
      rw [watchCount_eq]
      exact settled_bind fun items _ => rfl
  | embedded length layout omitIfEmpty ih =>
    intro ha window
    have hwatched : (fun w => layout.watch turns w) = fun w => settled (layout.read w) :=
      funext (ih (everywhere_embedded_iff.mp ha).2)
    have hwhole : watchWhole (fun w => layout.watch turns w) =
        fun inner => settled (readWhole (fun w => layout.read w) inner) := by
      rw [hwatched]
      exact funext fun inner => watchWhole_eq
    rw [watch, read, hwhole]
    exact watchWindow_eq
  | custom transform base ih =>
    intro ha window
    rw [watch, read, ih (everywhere_custom_iff.mp ha).2]
    refine settled_bind fun answer _ => ?_
    exact settled_bind fun v _ => rfl

end Schemas

/-- Elements that may be absent never end a loop: nothing is left, each of them is absent, and so is
the next. -/
theorem watch_absent {turns : Nat → Nat} {length : LengthField} {layout : Option Schema} :
    (Schema.sequence none (.bytes (some length) layout true)).watch turns [] = unsettled := by
  have habsent : (Schema.bytes (some length) layout true).watch turns [] =
      settled (.ok (.bytes [], [])) := by
    cases layout <;> rfl
  have hloop : ∀ turns' done,
      watchRun (fun w => (Schema.bytes (some length) layout true).watch turns w) turns' done [] =
        unsettled := by
    intro turns'
    induction turns' with
    | zero => intro done; rfl
    | succ turns' ih =>
      intro done
      rw [watchRun, habsent]
      exact ih _
  rw [watch, hloop]
  rfl

end Schema

/-! ## Inputs -/

/-- The reading of an input, with no bound on its loops but the onlooker's. -/
def watchDecode (turns : Nat → Nat) (s : Schema) (data : Bytes) : Awaited (Value × Nat) :=
  match s.defect? with
  | some cause => settled (fail .parsing cause)
  | none => do
    let (v, rest) ← s.watch turns data
    settled (.ok (v, data.length - rest.length))

/-- **Reading makes progress, and so it ends**: what is read takes up at least its least width, and
where no element of a run can be empty, the loops of every input end by themselves, after one turn
more at most than there are bytes left in their windows. -/
theorem decode_ends (s : Schema) :
    (∀ window v rest, s.read window = .ok (v, rest) → s.leastWidth + rest.length ≤ window.length) ∧
    (∀ data v n, decode s data = .ok (v, n) → s.leastWidth ≤ n) ∧
    (s.Everywhere Schema.AdvancesRuns → ∀ turns : Nat → Nat, (∀ left, left < turns left) →
      ∀ data, watchDecode turns s data = settled (decode s data)) := by
  refine ⟨fun window v rest => Schema.leastWidth_le, ?_, ?_⟩
  · intro data v n h
    obtain ⟨-, rest, hr, rfl⟩ := decode_eq_ok_iff.mp h
    have hleast := Schema.leastWidth_le hr
    omega
  · intro ha turns hturns data
    unfold watchDecode decode
    cases s.defect? with
    | some cause => rfl
    | none =>
      dsimp only
      rw [Schema.watch_eq hturns ha]
      exact settled_bind fun answer _ => rfl

/-- A seal and batches of letters, each a run in a window of its own, with marks between them. -/
def mailbag : Schema :=
  let letter := Schema.bytes (some ⟨1, .big⟩) none false
  let batch := Schema.bytes (some ⟨2, .big⟩) (some (.sequence none letter)) false
  .struct
    [("seal", .fixed 2),
      ("bag", .sequence none (.union (.uint ⟨1, .big, Nat.one_pos⟩)
        [(1, "batch", batch), (2, "mark", .nothing)]))]

/-- A batch of two letters and a mark are read, and the tag that no arm has ends the loop. -/
theorem decode_ends_mailbag :
    let data : Bytes := [8, 8, 1, 0, 3, 1, 7, 0, 2, 9]
    ∃ v, mailbag.Everywhere Schema.AdvancesRuns ∧
      watchDecode (· + 1) mailbag data = settled (.ok (v, 9)) ∧
      decode mailbag data = .ok (v, 9) ∧ mailbag.leastWidth ≤ 9 := by
  have hdata : decode mailbag [8, 8, 1, 0, 3, 1, 7, 0, 2, 9] = .ok (.map
      [("seal", .bytes [8, 8]),
        ("bag", .list
          [.variant "batch" (.list [.bytes [7], .prefixedEmpty]), .variant "mark" .null])], 9) :=
    rfl
  have hadvances : mailbag.Everywhere Schema.AdvancesRuns := by decide
  obtain ⟨-, hleast, hends⟩ := decode_ends mailbag
  refine ⟨_, hadvances, ?_, hdata, hleast _ _ _ hdata⟩
  rw [hends hadvances (· + 1) fun left => Nat.lt_succ_self left, hdata]

end TokenBridge.Layout
