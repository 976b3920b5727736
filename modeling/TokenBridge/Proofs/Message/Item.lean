import TokenBridge.Message.Item
import TokenBridge.Proofs.Layout.Canonical
import TokenBridge.Proofs.Layout.Refusal
import TokenBridge.Proofs.Layout.RoundTrip
import TokenBridge.Proofs.Value.Equality

/-!
# The items of messages

What the layout theorems ask of a transform, for the three transforms that messages are built from.
Each is asked the same three things: that it undoes itself on what its base reads (`Canonical`),
that it makes of the number it wrote a value that is the one it was given (`Delimited`), and that it
refuses a number it does not know as a violation of the schema (`Guarded`).

Chains and modes are tables, and for them all of it comes from one equivalence: **a table entry is
found by its name and by its number** (`Chain.id?_eq_some_iff`, `Chain.name?_eq_some_iff`).

A mode may be given as any number that equals its own, so what is read back is the same value and
not the same term; that is why `Delimited` asks for `Value.equal`.
-/

namespace TokenBridge

/-! ## Tables -/

theorem Chain.id?_eq_some_iff {name : String} {n : Nat} :
    id? name = some n ↔ (name, n) ∈ table := by
  constructor
  · intro h
    obtain ⟨before, after, htable, -⟩ := List.lookup_eq_some_iff.mp h
    rw [htable]
    exact List.mem_append_right _ List.mem_cons_self
  · intro h
    exact Layout.lookup_eq_some_of_mem table_names_nodup h

theorem Chain.name?_eq_some_iff {id : Int} {name : String} :
    name? id = some name ↔ ∃ n : Nat, id = n ∧ (name, n) ∈ table := by
  -- the table is searched for an integer, and its numbers are naturals
  have hids : (table.map fun entry => (entry.2 : Int)).Nodup := by
    have hcast : (table.map fun entry => (entry.2 : Int)) =
        (table.map (·.2)).map fun n : Nat => (n : Int) := by
      rw [List.map_map]
      rfl
    rw [hcast]
    exact List.Pairwise.map _ (fun _ _ hne h => hne (Int.ofNat.inj h)) table_ids_nodup
  simp only [name?, Option.map_eq_some_iff]
  constructor
  · rintro ⟨⟨held, n⟩, hfind, rfl⟩
    have hid : (n : Int) = id := by simpa using List.find?_some hfind
    exact ⟨n, hid.symm, List.mem_of_find?_eq_some hfind⟩
  · rintro ⟨n, rfl, hmem⟩
    exact ⟨(name, n), Layout.find?_key_of_nodup (a := (name, n)) hids hmem, rfl⟩

theorem Mode.ofCode?_eq_some_iff {code : Int} {m : Mode} :
    ofCode? code = some m ↔ code = m.code := by
  constructor
  · intro h
    unfold ofCode? at h
    split at h
    · cases h
      rfl
    · cases h
      rfl
    · cases h
  · rintro rfl
    cases m <;> rfl

namespace Message

open Layout

theorem read_uint_int {size : Nat} {size_pos : 0 < size} {window rest : Bytes} {raw : Value}
    (h : (uint size size_pos).read window = .ok (raw, rest)) :
    ∃ n : Nat, n < 256 ^ size ∧ raw = .int n := by
  obtain ⟨n, head, hw, -, rfl⟩ := Schema.read_uint_eq_ok_iff.mp h
  obtain ⟨m, hm, hlt, -⟩ := Word.write_eq_ok_iff.mp hw
  obtain rfl : n = m := by exact_mod_cast hm
  exact ⟨n, hlt, rfl⟩

/-! ## Chains -/

theorem chainFromRaw_int_eq_ok_iff {id : Int} {v : Value} :
    chainFromRaw (.int id) = .ok v ↔ ∃ name, Chain.name? id = some name ∧ v = .text name := by
  simp only [chainFromRaw]
  cases Chain.name? id with
  | none => simp
  | some name => simp [eq_comm]

theorem chainToRaw_of_chainFromRaw {raw v : Value} (h : chainFromRaw raw = .ok v) :
    chainToRaw v = .ok raw := by
  unfold chainFromRaw at h
  split at h
  · split at h
    · rename_i id name hname
      cases h
      obtain ⟨n, rfl, hmem⟩ := Chain.name?_eq_some_iff.mp hname
      simp only [chainToRaw, Chain.id?_eq_some_iff.mpr hmem]
    · cases h
  · cases h

theorem canonical_chainItem : chainItem.Canonical :=
  ⟨trivial, fun _ _ _ _ _ h => chainToRaw_of_chainFromRaw h⟩

theorem delimited_chainItem {last : Bool} : chainItem.Delimited last := by
  refine ⟨trivial, fun v raw data he _ => ?_⟩
  replace he : chainToRaw v = .ok raw := he
  unfold chainToRaw at he
  split at he
  · rename_i name
    split at he
    · rename_i n hn
      cases he
      have hname := Chain.name?_eq_some_iff.mpr ⟨n, rfl, Chain.id?_eq_some_iff.mp hn⟩
      exact ⟨.text name, chainFromRaw_int_eq_ok_iff.mpr ⟨name, hname, rfl⟩, by simp⟩
    · cases he
  · cases he

theorem consumes_chainItem : chainItem.Consumes :=
  Schema.consumes_custom Schema.consumes_uint

theorem guarded_chainItem : chainItem.Guarded := by
  refine ⟨trivial, fun window raw rest fault hb hd => ?_⟩
  obtain ⟨n, -, rfl⟩ := read_uint_int hb
  simp only [chainFromRaw] at hd
  split at hd
  · cases hd
  · cases hd
    rfl

/-! ## Modes -/

theorem modeToRaw_of_equalInt? {v : Value} {m : Mode} (h : v.equalInt? = some (m.code : Int)) :
    modeToRaw v = .ok (.int m.code) := by
  have hm : v.equalInt?.bind Mode.ofCode? = some m := by
    rw [h]
    exact Mode.ofCode?_eq_some_iff.mpr rfl
  simp only [modeToRaw, hm]

theorem modeToRaw_of_modeFromRaw {raw v : Value} (h : modeFromRaw raw = .ok v) :
    modeToRaw v = .ok raw := by
  unfold modeFromRaw at h
  split at h
  · split at h
    · rename_i code m hm
      cases h
      obtain rfl := Mode.ofCode?_eq_some_iff.mp hm
      exact modeToRaw_of_equalInt? rfl
    · cases h
  · cases h

theorem canonical_modeItem : modeItem.Canonical :=
  ⟨trivial, fun _ _ _ _ _ h => modeToRaw_of_modeFromRaw h⟩

theorem delimited_modeItem {last : Bool} : modeItem.Delimited last := by
  refine ⟨trivial, fun v raw data he _ => ?_⟩
  replace he : modeToRaw v = .ok raw := he
  unfold modeToRaw at he
  split at he
  · rename_i m hm
    cases he
    -- the value that was given equals the number of its mode, and so does the mode
    obtain ⟨n, hn, hcode⟩ := Option.bind_eq_some_iff.mp hm
    obtain rfl := Mode.ofCode?_eq_some_iff.mp hcode
    refine ⟨.mode m, ?_, Value.equal_of_equalInt? rfl hn⟩
    show modeFromRaw (.int m.code) = _
    simp only [modeFromRaw, hcode]
  · cases he

theorem guarded_modeItem : modeItem.Guarded := by
  refine ⟨trivial, fun window raw rest fault hb hd => ?_⟩
  obtain ⟨n, hn, rfl⟩ := read_uint_int hb
  simp only [modeFromRaw] at hd
  split at hd
  · cases hd
  · cases hd
    -- the number stood in one byte, so it can be shown
    exact Number.kindShowing_decimal_of_isWritable (Number.isWritable_of_lt_pow hn (by decide))

/-! ## Trimmed amounts -/

/-- The two fields of a trimmed amount, in the order in which they are written. -/
theorem read_trimmedParts {window rest : Bytes} {raw : Value}
    (h : (Schema.struct [("decimals", uint 1), ("amount", uint 8)]).read window = .ok (raw, rest)) :
    ∃ decimals amount : Nat, raw = .map [("decimals", .int decimals), ("amount", .int amount)] := by
  obtain ⟨entries, hfields, -, rfl⟩ := Schema.read_struct_eq_ok_iff.mp h
  obtain ⟨u, mid, tail, hu, hmore, rfl⟩ := (Schema.readFields_value_eq_ok_iff rfl).mp hfields
  obtain ⟨w, left, none, hw, hend, rfl⟩ := (Schema.readFields_value_eq_ok_iff rfl).mp hmore
  obtain ⟨rfl, -⟩ := Schema.readFields_nil_eq_ok_iff.mp hend
  obtain ⟨decimals, -, rfl⟩ := read_uint_int hu
  obtain ⟨amount, -, rfl⟩ := read_uint_int hw
  exact ⟨decimals, amount, rfl⟩

theorem canonical_trimmedItem : trimmedItem.Canonical := by
  refine ⟨⟨by decide, trivial, trivial, trivial⟩, fun window raw rest v hb hd => ?_⟩
  obtain ⟨decimals, amount, rfl⟩ := read_trimmedParts hb
  cases hd
  rfl

theorem delimited_trimmedItem {last : Bool} : trimmedItem.Delimited last := by
  refine ⟨⟨by decide, trivial, trivial, trivial⟩, fun v raw data he hw => ?_⟩
  replace he : trimmedToRaw v = .ok raw := he
  unfold trimmedToRaw at he
  split at he
  · rename_i amount decimals
    cases he
    -- that the parts were written means that they are integers
    obtain ⟨entries, hentries, -, hfields⟩ := Schema.write_struct_eq_ok_iff.mp hw
    cases hentries
    obtain ⟨head, tail, hd, hmore, rfl⟩ :=
      (Schema.writeFields_value_eq_ok_iff rfl (by decide)).mp hfields
    obtain ⟨body, left, ha, -, -⟩ :=
      (Schema.writeFields_value_eq_ok_iff rfl (by decide)).mp hmore
    obtain ⟨d, hd, -⟩ := Schema.write_uint_eq_ok_iff.mp hd
    obtain ⟨a, ha, -⟩ := Schema.write_uint_eq_ok_iff.mp ha
    replace hd : decimals.strictInt? = some (d : Int) := hd
    replace ha : amount.strictInt? = some (a : Int) := ha
    refine ⟨.trimmed (.int a) (.int d), ?_, ?_⟩
    · show trimmedFromRaw (.map [("decimals", decimals.strictInt?.elim decimals .int),
        ("amount", amount.strictInt?.elim amount .int)]) = _
      rw [hd, ha]
      rfl
    · show (Value.equal (.int a) amount && Value.equal (.int d) decimals) = true
      rw [Value.equal_of_strictInt? ha, Value.equal_of_strictInt? hd]
      rfl
  · cases he

theorem guarded_trimmedItem : trimmedItem.Guarded := by
  refine ⟨⟨by decide, trivial, trivial, trivial⟩, fun window raw rest fault hb hd => ?_⟩
  obtain ⟨decimals, amount, rfl⟩ := read_trimmedParts hb
  cases hd

end Message

end TokenBridge
