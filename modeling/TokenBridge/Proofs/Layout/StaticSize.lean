import TokenBridge.Proofs.Layout.MaximalRun

/-!
# Static sizes

The size that a schema says beforehand is a third recursion on it, beside the writer and the reader,
and neither of these asks it. **All three agree** (`Schema.ofSize_of_staticSize?`): what is written of
such a schema has the size and what is read of it takes the size, whatever the value and the bytes
are. The agreement is one induction for both directions, because a transform between them changes the
value and never the bytes.

One decision rests on the size. A sequence without a length ends only where an element cannot be read,
so an element that takes no bytes would be read for ever; such a sequence is refused before anything
is read. Among elements of a static size **it is refused exactly for those of size zero**, and so
every turn of a sequence that is not refused takes bytes, each turn as many as the others.
-/

namespace TokenBridge.Layout

namespace Schema

/-! ## Sizes of encodings -/

/-- Whatever is written or read of the schema is of the size. -/
structure OfSize (s : Schema) (size : Int) : Prop where
  written : ∀ {v : Value} {data : Bytes}, s.write v = .ok data → (data.length : Int) = size
  taken : ∀ {window rest : Bytes} {v : Value}, s.read window = .ok (v, rest) →
    (window.length : Int) = size + rest.length

/-- The sizes of fields add up. -/
theorem staticSizes?_cons_eq_some_iff {name : String} {s : Schema}
    {fields : List (String × Schema)} {size : Int} :
    staticSizes? ((name, s) :: fields) = some size ↔
      ∃ first others, s.staticSize? = some first ∧ staticSizes? fields = some others ∧
        first + others = size := by
  rw [staticSizes?]
  cases s.staticSize? with
  | none => simp
  | some first =>
    cases staticSizes? fields with
    | none => simp
    | some others => simp

theorem length_writeFields {fields : List (String × Schema)} {entries : List (String × Value)}
    (ih : ∀ field ∈ fields, ∀ {size : Int}, field.2.staticSize? = some size →
      field.2.OfSize size) :
    ∀ {size : Int} {data : Bytes}, staticSizes? fields = some size →
      writeFields fields entries = .ok data → (data.length : Int) = size := by
  induction fields with
  | nil =>
    intro size data h hw
    cases h
    rw [writeFields_nil_eq_ok_iff.mp hw]
    rfl
  | cons field fields ihf =>
    obtain ⟨name, s⟩ := field
    obtain ⟨hs, ih⟩ := List.forall_mem_cons.mp ih
    intro size data h hw
    obtain ⟨first, others, hfirst, hothers, rfl⟩ := staticSizes?_cons_eq_some_iff.mp h
    obtain ⟨v, head, tail, hv, ht, rfl⟩ := parts_of_writeFields_cons hw
    rw [List.length_append, Int.natCast_add, (hs hfirst).written hv, ihf ih hothers ht]

theorem length_readFields {fields : List (String × Schema)}
    (ih : ∀ field ∈ fields, ∀ {size : Int}, field.2.staticSize? = some size →
      field.2.OfSize size) :
    ∀ {size : Int} {window rest : Bytes} {entries : List (String × Value)},
      staticSizes? fields = some size → readFields fields window = .ok (entries, rest) →
      (window.length : Int) = size + rest.length := by
  induction fields with
  | nil =>
    intro size window rest entries h hr
    cases h
    obtain ⟨-, rfl⟩ := readFields_nil_eq_ok_iff.mp hr
    exact (Int.zero_add _).symm
  | cons field fields ihf =>
    obtain ⟨name, s⟩ := field
    obtain ⟨hs, ih⟩ := List.forall_mem_cons.mp ih
    intro size window rest entries h hr
    obtain ⟨first, others, hfirst, hothers, rfl⟩ := staticSizes?_cons_eq_some_iff.mp h
    obtain ⟨v, mid, tail, hv, ht⟩ := parts_of_readFields_cons hr
    rw [(hs hfirst).taken hv, ihf ih hothers ht, Int.add_assoc]

/-- **A schema of a static size writes and reads that many bytes.** -/
theorem ofSize_of_staticSize? {s : Schema} :
    ∀ {size : Int}, s.staticSize? = some size → s.OfSize size := by
  induction s using Schema.induction with
  | uint word =>
    intro size h
    cases h
    constructor
    case written =>
      intro v data hw
      obtain ⟨n, -, hw⟩ := write_uint_eq_ok_iff.mp hw
      rw [Word.length_of_write hw]
    case taken =>
      intro window rest v hr
      obtain ⟨n, head, hw, rfl, -⟩ := read_uint_eq_ok_iff.mp hr
      rw [List.length_append, Int.natCast_add, Word.length_of_write hw]
  | fixed bytes =>
    intro size h
    cases h
    constructor
    case written =>
      intro v data hw
      exact (write_fixed_eq_ok_iff.mp hw).2
    case taken =>
      intro window rest v hr
      obtain ⟨data, hlen, rfl, -⟩ := read_fixed_eq_ok_iff.mp hr
      rw [List.length_append, Int.natCast_add, hlen]
  | magic data =>
    intro size h
    cases h
    constructor
    case written =>
      intro v other hw
      rw [write_magic_eq_ok_iff.mp hw]
    case taken =>
      intro window rest v hr
      obtain ⟨rfl, -⟩ := read_magic_eq_ok_iff.mp hr
      rw [List.length_append, Int.natCast_add]
  | nothing =>
    intro size h
    cases h
    constructor
    case written =>
      intro v data hw
      rw [write_nothing_eq_ok_iff.mp hw]
      rfl
    case taken =>
      intro window rest v hr
      obtain ⟨rfl, -⟩ := read_nothing_eq_ok_iff.mp hr
      exact (Int.zero_add _).symm
  | struct fields ih =>
    intro size h
    constructor
    case written =>
      intro v data hw
      obtain ⟨entries, -, -, hw⟩ := write_struct_eq_ok_iff.mp hw
      exact length_writeFields ih h hw
    case taken =>
      intro window rest v hr
      obtain ⟨entries, hr, -, -⟩ := read_struct_eq_ok_iff.mp hr
      exact length_readFields ih h hr
  | custom transform base ih =>
    intro size h
    constructor
    case written =>
      intro v data hw
      obtain ⟨raw, -, hw⟩ := write_custom_eq_ok_iff.mp hw
      exact (ih h).written hw
    case taken =>
      intro window rest v hr
      obtain ⟨raw, hr, -⟩ := read_custom_eq_ok_iff.mp hr
      exact (ih h).taken hr
  | union | sequence | raw | embedded | malformedMagic | malformed =>
    intro size h
    cases h

/-! ## Elements of runs -/

theorem defectOfFields?_of_staticSizes? {fields : List (String × Schema)}
    (ih : ∀ field ∈ fields, ∀ {size : Int}, field.2.staticSize? = some size →
      field.2.Admissible) :
    ∀ {size : Int}, staticSizes? fields = some size → defectOfFields? fields = none := by
  induction fields with
  | nil => intro size _; rfl
  | cons field fields ihf =>
    obtain ⟨name, s⟩ := field
    obtain ⟨hs, ih⟩ := List.forall_mem_cons.mp ih
    intro size h
    obtain ⟨first, others, hfirst, hothers, -⟩ := staticSizes?_cons_eq_some_iff.mp h
    have hnone : s.defect? = none := hs hfirst
    rw [defectOfFields?, hnone]
    exact ihf ih hothers

/-- A schema of a static size can be used: there is no sequence in it. -/
theorem admissible_of_staticSize? {s : Schema} :
    ∀ {size : Int}, s.staticSize? = some size → s.Admissible := by
  induction s using Schema.induction with
  | uint | fixed | magic | nothing => intro size _; rfl
  | struct fields ih => intro size h; exact defectOfFields?_of_staticSizes? ih h
  | custom transform base ih => intro size h; exact ih h
  | union | sequence | raw | embedded | malformedMagic | malformed =>
    intro size h
    cases h

theorem defect?_run {s : Schema} {size : Int} (h : s.staticSize? = some size) :
    (Schema.sequence none s).defect? = if size = 0 then some .emptyElement else none := by
  have hnone : s.defect? = none := admissible_of_staticSize? h
  rw [defect?, hnone, h]
  simp

/-- Elements of a size other than zero take bytes. -/
theorem consumes_of_staticSize? {s : Schema} {size : Int} (h : s.staticSize? = some size)
    (hne : size ≠ 0) : s.Consumes := by
  intro window rest v hr
  have hlength := (ofSize_of_staticSize? h).taken hr
  have hle := (read_suffix hr).length_le
  omega

end Schema

variable {s : Schema} {size : Int}

theorem length_of_encode (h : s.staticSize? = some size) {v : Value} {data : Bytes}
    (he : encode s v = .ok data) : (data.length : Int) = size :=
  (Schema.ofSize_of_staticSize? h).written (encode_eq_ok_iff.mp he).2

theorem count_of_decode (h : s.staticSize? = some size) {data : Bytes} {v : Value} {n : Nat}
    (hd : decode s data = .ok (v, n)) : (n : Int) = size := by
  obtain ⟨-, rest, hr, rfl⟩ := decode_eq_ok_iff.mp hd
  have hlength := (Schema.ofSize_of_staticSize? h).taken hr
  have hle := (Schema.read_suffix hr).length_le
  omega

/-- A run of the schema is refused, before a value or a byte is looked at. -/
def RefusedInRuns (s : Schema) : Prop :=
  (∀ v, Violates (encode (.sequence none s) v) "an implicit sequence element must consume bytes") ∧
  ∀ data, Violates (decode (.sequence none s) data)
    "an implicit sequence element must consume bytes"

/-- The elements of a run take the size of the element each. -/
theorem Successive.count_eq (h : s.staticSize? = some size) {window : Bytes}
    {parts : List (Value × Nat)} (hparts : Successive s window parts) :
    ∀ part ∈ parts, (part.2 : Int) = size := by
  induction hparts with
  | stop => exact fun part hpart => absurd hpart List.not_mem_nil
  | next hd _ ih => exact List.forall_mem_cons.mpr ⟨count_of_decode h hd, ih⟩

theorem taken_eq {parts : List (Value × Nat)} (h : ∀ part ∈ parts, (part.2 : Int) = size) :
    (taken parts : Int) = size * parts.length := by
  induction parts with
  | nil => exact (Int.mul_zero size).symm
  | cons part parts ih =>
    obtain ⟨v, n⟩ := part
    obtain ⟨hn, hparts⟩ := List.forall_mem_cons.mp h
    rw [taken, Int.natCast_add, ih hparts, hn, List.length_cons, Int.natCast_add, Int.mul_add,
      Int.natCast_one, Int.mul_one, Int.add_comm]

/-- A run that is not refused is read, and each of its turns takes the size. -/
theorem decode_run_of_ne_zero (h : s.staticSize? = some size) (hne : size ≠ 0) (window : Bytes) :
    ∃ parts, Successive s window parts ∧
      decode (.sequence none s) window = .ok (.list (parts.map (·.1)), taken parts) := by
  have hs : (Schema.sequence none s).Admissible := by
    rw [Schema.Admissible, Schema.defect?_run h, if_neg hne]
  obtain ⟨parts, hparts, hle, hread⟩ :=
    exists_successive hs (Schema.consumes_of_staticSize? h hne) window
  have hcount : taken parts = window.length - (window.drop (taken parts)).length := by
    rw [List.length_drop]
    omega
  exact ⟨parts, hparts, decode_eq_ok_iff.mpr ⟨hs, _, hread, hcount⟩⟩

/-- **Runs are refused of elements of size zero, and of no others.** -/
theorem refusedInRuns_iff (h : s.staticSize? = some size) : RefusedInRuns s ↔ size = 0 := by
  constructor
  · intro hrefused
    by_cases hzero : size = 0
    · exact hzero
    · obtain ⟨parts, -, hread⟩ := decode_run_of_ne_zero h hzero []
      obtain ⟨fault, hfault, -⟩ := hrefused.2 []
      rw [hread] at hfault
      cases hfault
  · intro hzero
    have hdefect : (Schema.sequence none s).defect? = some .emptyElement := by
      rw [Schema.defect?_run h, if_pos hzero]
    constructor
    · intro v
      rw [encode, hdefect]
      exact ⟨_, rfl, rfl, rfl⟩
    · intro data
      rw [decode, hdefect]
      exact ⟨_, rfl, rfl, rfl⟩

/-- **A static size is the size of everything**: of whatever is written under the schema, and of
whatever is read of it. A run of such elements is refused exactly if the size is zero, so wherever the
element is written or read, exactly if it takes no byte; and in a run that is not refused every turn
takes as many bytes as the size says, which is one at least. -/
theorem static_size_exact (h : s.staticSize? = some size) :
    (∀ v data, encode s v = .ok data → (data.length : Int) = size) ∧
    (∀ data v n, decode s data = .ok (v, n) → (n : Int) = size) ∧
    (RefusedInRuns s ↔ size = 0) ∧
    (∀ v data, encode s v = .ok data → (RefusedInRuns s ↔ data = [])) ∧
    (∀ data v n, decode s data = .ok (v, n) → (RefusedInRuns s ↔ n = 0)) ∧
    (¬ RefusedInRuns s → ∀ window, ∃ parts, Successive s window parts ∧
      decode (.sequence none s) window = .ok (.list (parts.map (·.1)), taken parts) ∧
      (∀ part ∈ parts, (part.2 : Int) = size ∧ 1 ≤ part.2) ∧
      (taken parts : Int) = size * parts.length) := by
  refine ⟨fun v data => length_of_encode h, fun data v n => count_of_decode h,
    refusedInRuns_iff h, ?encoded, ?decoded, ?turns⟩
  case encoded =>
    intro v data he
    have hlength := length_of_encode h he
    rw [refusedInRuns_iff h, ← List.length_eq_zero_iff]
    omega
  case decoded =>
    intro data v n hd
    have hcount := count_of_decode h hd
    rw [refusedInRuns_iff h]
    omega
  case turns =>
    intro hrefused window
    rw [refusedInRuns_iff h] at hrefused
    obtain ⟨parts, hparts, hread⟩ := decode_run_of_ne_zero h hrefused window
    have hcounts := hparts.count_eq h
    refine ⟨parts, hparts, hread, fun part hpart => ⟨hcounts part hpart, ?_⟩, taken_eq hcounts⟩
    have hcount := hcounts part hpart
    omega

/-- A mark, a number that is known by a name, and a seal. -/
def stamp : Schema :=
  let named : Transform := ⟨fun raw => .ok (.variant "code" raw), fun
    | .variant _ raw => .ok raw
    | _ => .error .refused⟩
  .struct [("mark", .magic [7]), ("code", .custom named (.uint ⟨2, .big, Nat.two_pos⟩)),
    ("seal", .fixed 1)]

/-- Two stamps are read, and the third is torn; a run of nothing but gaps is refused. -/
theorem static_size_exact_stamp :
    stamp.staticSize? = some 4 ∧
      (∃ parts, Successive stamp [7, 1, 0, 9, 7, 2, 0, 9, 7, 3] parts ∧ taken parts = 8 ∧
        ∀ part ∈ parts, part.2 = 4) ∧
      RefusedInRuns (.struct [("gap", .fixed 0), ("mark", .magic [])]) := by
  have h : stamp.staticSize? = some 4 := rfl
  have hgap : (Schema.struct [("gap", .fixed 0), ("mark", .magic [])]).staticSize? = some 0 := rfl
  obtain ⟨-, -, hrefused, -, -, hturns⟩ := static_size_exact h
  obtain ⟨-, -, hrefusedGap, -⟩ := static_size_exact hgap
  have hread : ¬ RefusedInRuns stamp := fun hr => absurd (hrefused.mp hr) (by decide)
  obtain ⟨parts, hparts, hd, hcounts, -⟩ := hturns hread [7, 1, 0, 9, 7, 2, 0, 9, 7, 3]
  have htaken : taken parts = 8 := by
    have htwo : decode (.sequence none stamp) [7, 1, 0, 9, 7, 2, 0, 9, 7, 3] =
        .ok (.list [.map [("code", .variant "code" (.int 256)), ("seal", .bytes [9])],
          .map [("code", .variant "code" (.int 512)), ("seal", .bytes [9])]], 8) := rfl
    rw [htwo] at hd
    exact (Prod.mk.inj (Except.ok.inj hd)).2.symm
  refine ⟨h, ⟨parts, hparts, htaken, fun part hpart => ?_⟩, hrefusedGap.mpr rfl⟩
  have hcount := (hcounts part hpart).1
  omega

end TokenBridge.Layout
