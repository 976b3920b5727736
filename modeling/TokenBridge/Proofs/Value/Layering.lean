import TokenBridge.Value.Entries

/-!
# Layers, one path at a time

What stands at a path of keys after one tree of entries was laid over another, or after one value was
put at a path. A layer that has only maps where a path leads through it is `Passable` there, and then
**the layer decides what stands at the path if it mentions the path, and else leaves what was there**
(`at?_merge`). Without that a layer cuts a path off without mentioning its end, so the law has no
simpler form; whoever reads a whole path in the merged tree knows that no layer did
(`Passable.of_merge`).

Two paths of which neither leads through the other are `Apart`, and what is put at one of them does
not show at the other (`at?_putAt_of_apart`).
-/

namespace TokenBridge.Value

variable {base layer entries : Entries} {key : String} {path other : List String} {v w : Value}

/-! ## Maps with each key once -/

/-- Every map in a value, and every view, has each of its keys once. -/
def HasDistinctKeys (v : Value) : Prop :=
  ∀ path entries, (v.find? path).bind entries? = some entries → (entries.map (·.1)).Nodup

theorem at?_map_cons : at? (.map entries) (key :: path) = (entries.lookup key).bind (at? · path) :=
  rfl

theorem at?_cons_of_not_map (h : ∀ entries, v ≠ .map entries) : at? v (key :: path) = none := by
  cases v with
  | map entries => exact absurd rfl (h entries)
  | _ => rfl

theorem at?_append : at? v (path ++ other) = (at? v path).bind (at? · other) := by
  induction path generalizing v with
  | nil => rfl
  | cons key path ih =>
    cases v with
    | map entries =>
      rw [List.cons_append, at?_map_cons, at?_map_cons, Option.bind_assoc]
      exact congrArg _ (funext fun _ => ih)
    | _ => rfl

/-- A map inside a map that mentions a key has a value there, and in it what is further on. -/
theorem exists_at?_of_mentioned {inner : Entries} {first : String} (path : List String)
    (hmap : entries.lookup first = some (.map inner))
    (hmentioned : (at? (.map entries) [first, key]).isSome = true) :
    ∃ v, inner.lookup key = some v ∧ at? (.map entries) (first :: key :: path) = at? v path := by
  rw [at?_map_cons, hmap, Option.bind_some, at?_map_cons] at hmentioned
  obtain ⟨v, hv⟩ := Option.isSome_iff_exists.mp (Option.isSome_of_isSome_bind hmentioned)
  refine ⟨v, hv, ?_⟩
  rw [at?_map_cons, hmap, Option.bind_some, at?_map_cons, hv, Option.bind_some]

theorem find?_map_cons :
    find? (.map entries) (key :: path) = (entries.lookup key).bind (find? · path) := rfl

theorem find?_append : find? v (path ++ other) = (find? v path).bind (find? · other) := by
  induction path generalizing v with
  | nil => rfl
  | cons key path ih =>
    simp only [List.cons_append, find?, Option.bind_assoc, ih]

theorem HasDistinctKeys.keys (h : HasDistinctKeys (.map entries)) : (entries.map (·.1)).Nodup :=
  h [] entries rfl

theorem HasDistinctKeys.of_lookup (h : HasDistinctKeys (.map entries))
    (hv : entries.lookup key = some v) : HasDistinctKeys v := by
  intro path inner hinner
  refine h (key :: path) inner ?_
  rw [find?_map_cons, hv]
  exact hinner

theorem HasDistinctKeys.of_view (h : HasDistinctKeys (.view entries)) :
    HasDistinctKeys (.map entries) := by
  intro path inner hinner
  cases path with
  | nil => exact h [] inner hinner
  | cons key path => exact h (key :: path) inner hinner

theorem hasDistinctKeys_of_leaf (h : v.entries? = none) : HasDistinctKeys v := by
  intro path inner hinner
  cases path with
  | nil =>
    rw [find?, Option.bind_some, h] at hinner
    cases hinner
  | cons key path =>
    rw [find?, h] at hinner
    cases hinner

theorem hasDistinctKeys_map (hkeys : (entries.map (·.1)).Nodup)
    (h : ∀ key v, entries.lookup key = some v → HasDistinctKeys v) :
    HasDistinctKeys (.map entries) := by
  intro path inner hinner
  cases path with
  | nil =>
    cases hinner
    exact hkeys
  | cons key path =>
    rw [find?_map_cons, Option.bind_assoc] at hinner
    obtain ⟨v, hv, hat⟩ := Option.bind_eq_some_iff.mp hinner
    exact h key v hv path inner hat

theorem hasDistinctKeys_nil : HasDistinctKeys (.map []) :=
  hasDistinctKeys_map List.nodup_nil fun _ _ h => nomatch h

/-! ## Paths through a layer -/

/-- A value has only maps where a path leads through it: as far as it mentions the path, what it
mentions before the end is a map. -/
def Passable : Value → List String → Prop
  | _, [] => True
  | v, key :: path => ∃ entries, v = .map entries ∧ ∀ w, entries.lookup key = some w → Passable w path

theorem passable_map_iff :
    Passable (.map entries) (key :: path) ↔ ∀ w, entries.lookup key = some w → Passable w path := by
  constructor
  · intro h
    obtain ⟨inner, hinner, h⟩ := h
    cases hinner
    exact h
  · intro h
    exact ⟨entries, rfl, h⟩

/-! ## Laying over -/

/-- Only a map over a map is anything but the layer. -/
theorem overlay_of_not_map {old : Option Value} (h : ∀ entries, v ≠ .map entries) :
    overlay old v = v := by
  cases v with
  | map entries => exact absurd rfl (h entries)
  | _ => rfl

theorem overlay_over_not_map {old : Option Value} (h : ∀ entries, old ≠ some (.map entries)) :
    overlay old v = v := by
  cases v with
  | map entries =>
    cases old with
    | none => rfl
    | some old =>
      cases old with
      | map base => exact absurd rfl (h base)
      | _ => rfl
  | _ => rfl

theorem lookup_merge (h : (layer.map (·.1)).Nodup) :
    (merge base layer).lookup key =
      (layer.lookup key).elim (base.lookup key) fun v => some (overlay (base.lookup key) v) := by
  induction layer generalizing base with
  | nil => rw [merge]; rfl
  | cons entry layer ih =>
    obtain ⟨k, v⟩ := entry
    obtain ⟨hk, h⟩ := List.nodup_cons.mp h
    rw [merge, ih h]
    by_cases heq : key = k
    · subst heq
      -- the layer does not mention the key again
      have hlast : layer.lookup key = none := by
        rw [List.lookup_eq_none_iff]
        intro entry hentry
        exact bne_iff_ne.mpr fun he => hk (List.mem_map.mpr ⟨entry, hentry, he.symm⟩)
      simp [hlast]
    · rw [lookup_put_of_ne heq, List.lookup_cons, beq_eq_false_iff_ne.mpr heq]

/-- Nothing is merged into a view: it stands where the layer has it, or where the layer says nothing
and it stood before. -/
theorem lookup_merge_eq_view_iff {inner : Entries} (h : (layer.map (·.1)).Nodup) :
    (merge base layer).lookup key = some (.view inner) ↔
      layer.lookup key = some (.view inner) ∨
        layer.lookup key = none ∧ base.lookup key = some (.view inner) := by
  rw [lookup_merge h]
  cases hv : layer.lookup key with
  | none => simp
  | some v =>
    have hover : overlay (base.lookup key) v = .view inner ↔ v = .view inner := by
      cases v with
      | map entries =>
        unfold overlay
        split <;> simp
      | _ => rfl
    simp [hover]

/-- Where the merged tree has only maps, the layer has. -/
theorem Passable.of_merge (hd : HasDistinctKeys (.map layer))
    (h : Passable (.map (merge base layer)) path) : Passable (.map layer) path := by
  induction path generalizing base layer with
  | nil => trivial
  | cons key path ih =>
    rw [passable_map_iff] at h ⊢
    intro w hw
    have hmerged := h (overlay (base.lookup key) w) (by rw [lookup_merge hd.keys, hw]; rfl)
    by_cases hover : ∃ inner old, w = .map inner ∧ base.lookup key = some (.map old)
    · obtain ⟨inner, old, rfl, hold⟩ := hover
      rw [hold] at hmerged
      exact ih (hd.of_lookup hw) hmerged
    · have hsame : overlay (base.lookup key) w = w := by
        by_cases hmap : ∃ inner, w = .map inner
        · obtain ⟨inner, rfl⟩ := hmap
          exact overlay_over_not_map fun old hold => hover ⟨inner, old, rfl, hold⟩
        · exact overlay_of_not_map fun inner hinner => hmap ⟨inner, hinner⟩
      rwa [hsame] at hmerged

/-- **At a path that leads through it, a layer decides what stands there if it mentions the path**,
and leaves what was there otherwise. -/
theorem at?_merge (hd : HasDistinctKeys (.map layer)) (hp : Passable (.map layer) path) :
    at? (.map (merge base layer)) path =
      (at? (.map layer) path).elim (at? (.map base) path) fun v =>
        some (overlay (at? (.map base) path) v) := by
  induction path generalizing base layer with
  | nil => simp only [at?, Option.elim_some, overlay]
  | cons key path ih =>
    rw [at?_map_cons, at?_map_cons, at?_map_cons, lookup_merge hd.keys]
    cases hw : layer.lookup key with
    | none => rfl
    | some w =>
      have hpw := passable_map_iff.mp hp w hw
      simp only [Option.elim_some, Option.bind_some]
      cases path with
      | nil => rw [at?, at?, Option.elim_some]; cases base.lookup key <;> rfl
      | cons next path =>
        obtain ⟨inner, rfl, -⟩ := hpw
        by_cases hold : ∃ old, base.lookup key = some (.map old)
        · obtain ⟨old, hold⟩ := hold
          rw [hold]
          exact ih (hd.of_lookup hw) (passable_map_iff.mp hp _ hw)
        · -- what stood in the way of the path is gone, and had nothing at its end
          have hnone : (base.lookup key).bind (at? · (next :: path)) = none := by
            cases hb : base.lookup key with
            | none => rfl
            | some old => exact at?_cons_of_not_map fun es he => hold ⟨es, by rw [hb, he]⟩
          rw [overlay_over_not_map fun es he => hold ⟨es, he⟩, hnone]
          cases at? (.map inner) (next :: path) with
          | none => rfl
          | some v =>
            have hover : overlay none v = v := overlay_over_not_map fun es he => nomatch he
            rw [Option.elim_some, hover]

/-- Where no map was below, the layer's value is the one that stands there. -/
theorem at?_merge_of_leaf (hd : HasDistinctKeys (.map layer)) (hp : Passable (.map layer) path)
    (hleaf : ∀ entries, at? (.map base) path ≠ some (.map entries)) :
    at? (.map (merge base layer)) path = (at? (.map layer) path).or (at? (.map base) path) := by
  rw [at?_merge hd hp]
  cases at? (.map layer) path with
  | none => rfl
  | some v => rw [Option.elim_some, overlay_over_not_map hleaf, Option.some_or]

/-! ## Putting at a path -/

/-- Neither of two paths leads through the other. -/
def Apart : List String → List String → Prop
  | key :: path, key' :: path' => key = key' → Apart path path'
  | _, _ => False

/-- The entries that a path goes on in after its first key. -/
theorem putAt_cons_cons {next : String} : putAt entries (key :: next :: path) v =
    put entries key (.map (putAt (((entries.lookup key).map entriesOf).getD []) (next :: path) v)) :=
  rfl

theorem at?_inner {next : String} :
    at? (.map (((entries.lookup key).map entriesOf).getD [])) (next :: path) =
      at? (.map entries) (key :: next :: path) := by
  show _ = (entries.lookup key).bind _
  cases hv : entries.lookup key with
  | none => rfl
  | some v => cases v <;> rfl

theorem at?_putAt_self (h : path ≠ []) : at? (.map (putAt entries path v)) path = some v := by
  induction path generalizing entries with
  | nil => exact absurd rfl h
  | cons key path ih =>
    cases path with
    | nil => rw [putAt, at?_map_cons, lookup_put_self]; rfl
    | cons next path =>
      rw [putAt_cons_cons, at?_map_cons, lookup_put_self]
      exact ih (List.cons_ne_nil _ _)

theorem at?_putAt_of_apart (h : Apart path other) :
    at? (.map (putAt entries path v)) other = at? (.map entries) other := by
  induction path generalizing entries other with
  | nil => cases h
  | cons key path ih =>
    cases other with
    | nil => cases h
    | cons key' other =>
      by_cases hk : key' = key
      · subst hk
        have h := h rfl
        cases path with
        | nil => cases h
        | cons next path =>
          cases other with
          | nil => cases h
          | cons next' other =>
            rw [putAt_cons_cons, at?_map_cons, lookup_put_self, Option.bind_some, ih h, at?_inner]
      · cases path with
        | nil => rw [putAt, at?_map_cons, lookup_put_of_ne hk, at?_map_cons]
        | cons next path => rw [putAt_cons_cons, at?_map_cons, lookup_put_of_ne hk, at?_map_cons]

/-- The entries that a path goes on in have only maps where the entries have. -/
theorem Passable.inner (h : Passable (.map entries) (key :: path)) :
    Passable (.map (((entries.lookup key).map entriesOf).getD [])) path := by
  cases path with
  | nil => trivial
  | cons next path =>
    cases hv : entries.lookup key with
    | none => exact passable_map_iff.mpr fun w hw => nomatch hw
    | some v =>
      obtain ⟨inner, rfl, hinner⟩ := passable_map_iff.mp h v hv
      exact passable_map_iff.mpr hinner

/-- Putting a value beyond a path or at its end puts nothing in its way. -/
theorem Passable.putAt (h : Passable (.map entries) other) (hp : path = other ∨ Apart path other) :
    Passable (.map (putAt entries path v)) other := by
  induction path generalizing entries other with
  | nil =>
    rcases hp with rfl | hp
    · trivial
    · cases hp
  | cons key path ih =>
    cases other with
    | nil => trivial
    | cons key' other =>
      rw [passable_map_iff]
      intro w hw
      cases path with
      | nil =>
        by_cases hk : key' = key
        · -- a path of one key that is not beyond the other is the other
          rcases hp with hp | hp
          · cases hp
            trivial
          · cases hp hk.symm
        · rw [Value.putAt, lookup_put_of_ne hk] at hw
          exact passable_map_iff.mp h w hw
      | cons next path =>
        rw [putAt_cons_cons] at hw
        by_cases hk : key' = key
        · subst hk
          rw [lookup_put_self] at hw
          cases hw
          refine ih h.inner ?_
          rcases hp with hp | hp
          · exact .inl (List.cons.inj hp).2
          · exact .inr (hp rfl)
        · rw [lookup_put_of_ne hk] at hw
          exact passable_map_iff.mp h w hw

theorem mem_keys_put {k : String} (h : k ∈ (put entries key v).map (·.1)) :
    k = key ∨ k ∈ entries.map (·.1) := by
  induction entries with
  | nil => exact .inl (List.mem_singleton.mp h)
  | cons entry entries ih =>
    rw [put] at h
    split at h
    · exact .inr h
    · rcases List.mem_cons.mp h with rfl | h
      · exact .inr List.mem_cons_self
      · rcases ih h with h | h
        · exact .inl h
        · exact .inr (List.mem_cons_of_mem _ h)

theorem nodup_keys_put (h : (entries.map (·.1)).Nodup) :
    ((put entries key v).map (·.1)).Nodup := by
  induction entries with
  | nil => simp [put]
  | cons entry entries ih =>
    obtain ⟨hne, htail⟩ := List.nodup_cons.mp h
    rw [put]
    split
    · exact h
    · rename_i hk
      refine List.nodup_cons.mpr ⟨fun hmem => ?_, ih htail⟩
      rcases mem_keys_put hmem with hmem | hmem
      · exact hk hmem
      · exact hne hmem

theorem HasDistinctKeys.put (h : HasDistinctKeys (.map entries)) (hv : HasDistinctKeys v) :
    HasDistinctKeys (.map (put entries key v)) := by
  refine hasDistinctKeys_map (nodup_keys_put h.keys) fun k w hw => ?_
  by_cases hk : k = key
  · rw [hk, lookup_put_self] at hw
    cases hw
    exact hv
  · rw [lookup_put_of_ne hk] at hw
    exact h.of_lookup hw

theorem HasDistinctKeys.inner (h : HasDistinctKeys (.map entries)) :
    HasDistinctKeys (.map (((entries.lookup key).map entriesOf).getD [])) := by
  cases hv : entries.lookup key with
  | none => exact hasDistinctKeys_nil
  | some v =>
    cases v with
    | map inner => exact h.of_lookup hv
    | _ => exact hasDistinctKeys_nil

theorem HasDistinctKeys.putAt (h : HasDistinctKeys (.map entries)) (hv : HasDistinctKeys v) :
    HasDistinctKeys (.map (putAt entries path v)) := by
  induction path generalizing entries with
  | nil => exact h
  | cons key path ih =>
    cases path with
    | nil => exact h.put hv
    | cons next path => exact h.put (ih h.inner)

end TokenBridge.Value
