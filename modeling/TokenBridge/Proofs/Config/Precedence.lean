import TokenBridge.Proofs.Config.Checking

/-!
# Which layer a setting comes from

Settings are loaded from four layers. Each is a tree, and trees are merged and not settings; that the
result is nevertheless decided setting by setting is what this file says: **a loaded setting has the
value of the highest layer that mentions it** (`load_settles_each`), in the order overrides,
variables, defaults of the environment, base defaults. So to set one setting in a layer changes no
other, and a relay table has the networks that some layer gives it.

All layers but the overrides are `Laid`: values put at settings one after another, and nothing else.
The overrides may be of any form as long as they replace no section: nothing is merged into a view,
so that one in the place of a section is all that is left of it (`Replaces`). What makes the law hold
for all other overrides is that the settings were found to be good: a layer that cuts off the way to
a setting leaves a tree that the check refuses.
-/

namespace TokenBridge.Config

section Layers

variable {y z : Setting} {v : Value} {entries layer out : Value.Entries} {vars : Variables}
  {env : Option String} {overrides : Value} {x : Settings}

/-! ## Layers that are put together from settings -/

theorem RelayTable.key_inj {t u : RelayTable} : t.key = u.key ↔ t = u := by
  cases t <;> cases u <;> decide

theorem RelayTable.key_ne_timeout (t : RelayTable) : t.key ≠ "request_timeout" := by
  cases t <;> decide

/-- No setting is on the way to another. -/
theorem apart_path (h : y ≠ z) : Value.Apart y.path z.path := by
  cases y <;> cases z <;>
    simp_all [Setting.path, Value.Apart, RelayTable.key_inj, RelayTable.key_ne_timeout,
      eq_comm (a := "request_timeout")]

/-- Values were put at settings, none of them a map or a view, and nothing else. -/
inductive Laid : Value.Entries → Prop
  | nothing : Laid []
  | put (y : Setting) (v : Value) {entries : Value.Entries} : Laid entries →
      v.entries? = none → Laid (Value.putAt entries y.path v)

theorem Setting.path_ne_nil (y : Setting) : y.path ≠ [] := by
  cases y <;> exact List.cons_ne_nil _ _

theorem at?_putAt (y z : Setting) : (Value.map (Value.putAt entries y.path v)).at? z.path =
    if y = z then some v else (Value.map entries).at? z.path := by
  by_cases h : y = z
  · rw [if_pos h, ← h, Value.at?_putAt_self y.path_ne_nil]
  · rw [if_neg h, Value.at?_putAt_of_apart (apart_path h)]

theorem Laid.hasDistinctKeys (h : Laid entries) : (Value.map entries).HasDistinctKeys := by
  induction h with
  | nothing => exact Value.hasDistinctKeys_nil
  | put y v _ hv ih => exact ih.putAt (Value.hasDistinctKeys_of_leaf hv)

theorem Laid.passable (h : Laid entries) (z : Setting) : (Value.map entries).Passable z.path := by
  induction h with
  | nothing => cases z <;> exact Value.passable_map_iff.mpr fun w hw => nomatch hw
  | put y v _ hv ih =>
    refine ih.putAt ?_
    by_cases h : y = z
    · exact .inl (congrArg Setting.path h)
    · exact .inr (apart_path h)

theorem Laid.not_map (h : Laid entries) (z : Setting) :
    ∀ inner, (Value.map entries).at? z.path ≠ some (.map inner) := by
  induction h with
  | nothing => cases z <;> exact fun inner hinner => nomatch hinner
  | put y v _ hv ih =>
    intro inner
    rw [at?_putAt]
    split
    · intro hsome
      rw [Option.some.inj hsome] at hv
      cases hv
    · exact ih inner

theorem Laid.not_view (h : Laid entries) {key : String} :
    ∀ inner, entries.lookup key ≠ some (.view inner) := by
  induction h with
  | nothing => exact fun inner hinner => nomatch hinner
  | put y v _ hv ih =>
    intro inner
    have hput {other : String} {w : Value} (hw : ∀ inner, w ≠ .view inner) {base : Value.Entries}
        (hbase : base.lookup key ≠ some (.view inner)) :
        (Value.put base other w).lookup key ≠ some (.view inner) := by
      by_cases hother : key = other
      · rw [hother, Value.lookup_put_self]
        exact fun hsome => hw inner (Option.some.inj hsome)
      · rwa [Value.lookup_put_of_ne hother]
    cases y with
    | network =>
      refine hput ?_ (ih inner)
      rintro inner rfl
      cases hv
    | url | timeout | level | format | datefmt =>
      refine hput ?_ (ih inner)
      intro inner hw
      cases hw

/-- The entries with values put at settings, one after another. -/
def putAll (entries : Value.Entries) (puts : List (Setting × Value)) : Value.Entries :=
  puts.foldl (fun entries put => Value.putAt entries put.1.path put.2) entries

theorem laid_putAll {puts : List (Setting × Value)} (h : Laid entries)
    (hputs : ∀ put ∈ puts, put.2.entries? = none) : Laid (putAll entries puts) := by
  induction puts generalizing entries with
  | nil => exact h
  | cons put puts ih =>
    obtain ⟨hput, hputs⟩ := List.forall_mem_cons.mp hputs
    exact ih (h.put put.1 put.2 hput) hputs

/-! ## Defaults -/

/-- The base defaults, setting by setting. -/
def baseSettings : List (Setting × Value) :=
  [(.network, .text "Testnet"),
    (.url .executorApi "Mainnet", .text "https://executor.labsapis.com"),
    (.url .executorApi "Testnet", .text "https://executor-testnet.labsapis.com"),
    (.url .axelarApi "Mainnet", .text "https://api.axelarscan.io"),
    (.url .axelarApi "Testnet", .text "https://testnet.api.axelarscan.io"),
    (.url .axelarExplorer "Mainnet", .text "https://axelarscan.io"),
    (.url .axelarExplorer "Testnet", .text "https://testnet.axelarscan.io"),
    (.timeout, seconds 10), (.level, .text "INFO"),
    (.format, .text "%(asctime)s %(levelname)s [%(name)s] %(message)s"),
    (.datefmt, .text "%Y-%m-%d %H:%M:%S")]

theorem laid_baseDefaults : Laid baseDefaults := by
  have hputs : baseDefaults = putAll [] baseSettings := rfl
  rw [hputs]
  exact laid_putAll .nothing (by simp [baseSettings, seconds, Value.entries?])

theorem laid_environmentDefaults (name : String) : Laid (environmentDefaults name) := by
  have hlayer (network level : String) (timeout : Nat) : Laid
      [("network", .text network), ("logging", .map [("level", .text level)]),
        ("relay", .map [("request_timeout", seconds timeout)])] := by
    show Laid (putAll [] [(.network, .text network), (.level, .text level),
      (.timeout, seconds timeout)])
    exact laid_putAll .nothing (by simp [seconds, Value.entries?])
  unfold environmentDefaults
  split
  · exact hlayer "Devnet" "DEBUG" 2
  · split
    · exact hlayer "Mainnet" "WARNING" 15
    · exact .nothing

/-- What the defaults of an environment say of a setting. -/
def Setting.inEnvironment (y : Setting) (name : String) : Option Value :=
  (Value.map (environmentDefaults name)).at? y.path

/-- What the base defaults say of a setting. -/
def Setting.inBase (y : Setting) : Option Value := (Value.map baseDefaults).at? y.path

/-! ## Variables -/

/-- The variables, with the setting that each carries and how its text is read. -/
def variableSettings : List (String × Setting × Reading) :=
  [("NTT_NETWORK", .network, .asText),
    ("NTT_EXECUTOR_MAINNET_URL", .url .executorApi "Mainnet", .asText),
    ("NTT_EXECUTOR_TESTNET_URL", .url .executorApi "Testnet", .asText),
    ("NTT_AXELAR_MAINNET_URL", .url .axelarApi "Mainnet", .asText),
    ("NTT_AXELAR_TESTNET_URL", .url .axelarApi "Testnet", .asText),
    ("NTT_RELAY_TIMEOUT", .timeout, .asNumber), ("NTT_LOG_LEVEL", .level, .asText),
    ("NTT_LOG_FORMAT", .format, .asText), ("NTT_LOG_DATEFMT", .datefmt, .asText)]

theorem variablePaths_eq : variablePaths =
    variableSettings.map fun entry => (entry.1, entry.2.1.path, entry.2.2) := rfl

/-- What the variables of a table say of a setting: the value of the text that its variable has. -/
def valueIn (vars : Variables) (table : List (String × Setting × Reading)) (y : Setting) :
    Option Value :=
  (table.find? (·.2.1 = y)).bind fun (name, _, reading) =>
    (vars.lookup name).bind fun text => (readVariable name reading text).toOption

/-- What the variables of the process say of a setting. -/
def Setting.inVariables (y : Setting) (vars : Variables) : Option Value :=
  valueIn vars variableSettings y

theorem entries?_of_readVariable {name text : String} {reading : Reading}
    (h : readVariable name reading text = .ok v) : v.entries? = none := by
  unfold readVariable at h
  split at h
  · cases h
    rfl
  · split at h
    · cases h
      rfl
    · cases h

/-- Each variable is put at its setting, and says nothing of the others. -/
theorem layVariables_eq_ok {table : List (String × Setting × Reading)}
    (hnodup : (table.map (·.2.1)).Nodup) (hlaid : Laid layer)
    (h : layVariables vars (table.map fun entry => (entry.1, entry.2.1.path, entry.2.2)) layer =
      .ok out) :
    Laid out ∧ ∀ z : Setting, (Value.map out).at? z.path =
      (valueIn vars table z).or ((Value.map layer).at? z.path) := by
  induction table generalizing layer with
  | nil =>
    cases h
    exact ⟨hlaid, fun z => rfl⟩
  | cons entry table ih =>
    obtain ⟨name, y, reading⟩ := entry
    obtain ⟨hy, hnodup⟩ := List.nodup_cons.mp hnodup
    -- the setting of the first variable is nobody else's
    have hrest : valueIn vars table y = none := by
      have hnone : table.find? (·.2.1 = y) = none := by
        refine List.find?_eq_none.mpr fun entry hentry hsame => hy ?_
        exact List.mem_map.mpr ⟨entry, hentry, of_decide_eq_true hsame⟩
      rw [valueIn, hnone]
      rfl
    have hother {z : Setting} (hz : y ≠ z) :
        valueIn vars ((name, y, reading) :: table) z = valueIn vars table z := by
      simp [valueIn, hz]
    have hfirst : valueIn vars ((name, y, reading) :: table) y =
        (vars.lookup name).bind fun text => (readVariable name reading text).toOption := by
      simp [valueIn]
    rw [List.map_cons, layVariables] at h
    cases htext : vars.lookup name with
    | none =>
      rw [htext] at h
      obtain ⟨hout, hat⟩ := ih hnodup hlaid h
      refine ⟨hout, fun z => ?_⟩
      rw [hat z]
      by_cases hz : y = z
      · subst hz
        rw [hrest, hfirst, htext]
        rfl
      · rw [hother hz]
    | some text =>
      rw [htext] at h
      obtain ⟨v, hv, h⟩ := bind_eq_ok_iff.mp h
      obtain ⟨hout, hat⟩ := ih hnodup (hlaid.put y v (entries?_of_readVariable hv)) h
      refine ⟨hout, fun z => ?_⟩
      rw [hat z, at?_putAt]
      by_cases hz : y = z
      · subst hz
        rw [hrest, hfirst, htext, if_pos rfl, Option.bind_some, hv]
        rfl
      · rw [hother hz, if_neg hz]

theorem variableLayer_eq_ok (h : variableLayer vars = .ok out) :
    Laid out ∧ ∀ z : Setting, (Value.map out).at? z.path = z.inVariables vars := by
  have hnodup : (variableSettings.map (·.2.1)).Nodup := by decide
  rw [variableLayer, variablePaths_eq] at h
  obtain ⟨hlaid, hat⟩ := layVariables_eq_ok hnodup .nothing h
  refine ⟨hlaid, fun z => ?_⟩
  rw [hat z, Setting.inVariables]
  cases z <;> exact Option.or_none

/-! ## Overrides -/

/-- The overrides replace a section: they have a view in its place. -/
def Replaces (overrides : Value) (key : String) : Prop :=
  ∃ inner, overrides.find? [key] = some (.view inner)

/-- Overrides that are nested maps where the defaults are: neither they nor a section of theirs is a
view. -/
structure Nested (overrides : Value) : Prop where
  not_view : ∀ inner, overrides ≠ .view inner
  kept (y : Setting) : ¬ Replaces overrides y.sectionKey

/-- The entries of overrides, and none of what is no map and no view. -/
def overrideEntries (overrides : Value) : Value.Entries := overrides.entries?.getD []

@[simp] theorem overrideEntries_map : overrideEntries (.map entries) = entries := rfl

theorem overrideLayer_eq_ok (h : overrideLayer overrides = .ok out) :
    out = overrideEntries overrides := by
  unfold overrideLayer at h
  by_cases htruthy : overrides.truthy = true
  · simp only [htruthy, Bool.not_true, Bool.false_eq_true, if_false] at h
    split at h
    · rename_i entries hentries
      cases h
      rw [overrideEntries, hentries, Option.getD_some]
    · cases h
  · simp only [htruthy, Bool.not_false, if_true] at h
    cases h
    -- what counts as false and is looked into has no entries
    cases overrides with
    | map entries | view entries =>
      cases entries with
      | nil => rfl
      | cons entry entries => exact absurd rfl htruthy
    | _ => rfl

theorem hasDistinctKeys_overrideEntries (hkeys : overrides.HasDistinctKeys) :
    (Value.map (overrideEntries overrides)).HasDistinctKeys := by
  cases overrides with
  | map entries => exact hkeys
  | view entries => exact hkeys.of_view
  | _ => exact Value.hasDistinctKeys_nil

/-- Overrides that are no view say what the map of their entries says. -/
theorem at?_overrideEntries (hview : ∀ inner, overrides ≠ .view inner) (y : Setting) :
    (Value.map (overrideEntries overrides)).at? y.path = overrides.at? y.path := by
  cases overrides with
  | map entries => rfl
  | view entries => exact absurd rfl (hview entries)
  | _ => cases y <;> rfl

theorem lookup_overrideEntries {key : String} :
    (overrideEntries overrides).lookup key = overrides.find? [key] := by
  rw [overrideEntries, Value.find?]
  cases overrides.entries? with
  | none => rfl
  | some entries =>
    show entries.lookup key = (entries.lookup key).bind some
    exact (Option.bind_fun_some _).symm

/-! ## All layers -/

theorem or_ne_some_map {a b : Option Value} (ha : ∀ inner, a ≠ some (.map inner))
    (hb : ∀ inner, b ≠ some (.map inner)) : ∀ inner, a.or b ≠ some (.map inner) := by
  cases a with
  | none => exact hb
  | some v => exact ha

/-- What the layers say of a setting, the highest one that says anything first. -/
def Setting.settled (y : Setting) (overrides : Value) (vars : Variables) (name : String) :
    Option Value :=
  (overrides.at? y.path).or ((y.inVariables vars).or ((y.inEnvironment name).or y.inBase))

theorem layered_eq_ok {name : String} (h : layered name vars overrides = .ok out) :
    ∃ fromVariables, variableLayer vars = .ok fromVariables ∧
      out = Value.merge (Value.merge (Value.merge baseDefaults (environmentDefaults name))
        fromVariables) (overrideEntries overrides) := by
  obtain ⟨fromVariables, hvariables, h⟩ := bind_eq_ok_iff.mp h
  obtain ⟨fromCaller, hcaller, h⟩ := bind_eq_ok_iff.mp h
  cases h
  exact ⟨fromVariables, hvariables, by rw [overrideLayer_eq_ok hcaller]⟩

/-- A section is a view in the merged tree only where the overrides have one. -/
theorem lookup_layered_eq_view_iff {name key : String} {inner : Value.Entries}
    (hkeys : overrides.HasDistinctKeys) (h : layered name vars overrides = .ok out) :
    out.lookup key = some (.view inner) ↔ overrides.find? [key] = some (.view inner) := by
  obtain ⟨fromVariables, hvariables, rfl⟩ := layered_eq_ok h
  have hlaid := (variableLayer_eq_ok hvariables).1
  have henv := laid_environmentDefaults name
  rw [Value.lookup_merge_eq_view_iff (hasDistinctKeys_overrideEntries hkeys).keys,
    Value.lookup_merge_eq_view_iff hlaid.hasDistinctKeys.keys,
    Value.lookup_merge_eq_view_iff henv.hasDistinctKeys.keys, lookup_overrideEntries]
  simp [hlaid.not_view, henv.not_view, laid_baseDefaults.not_view]

/-- A merged tree with only maps on the way to a setting has the settled value there. -/
theorem at?_layered {name : String} (hkeys : overrides.HasDistinctKeys)
    (h : layered name vars overrides = .ok out) (hpassable : (Value.map out).Passable y.path) :
    (Value.map out).at? y.path = y.settled (.map (overrideEntries overrides)) vars name := by
  obtain ⟨fromVariables, hvariables, rfl⟩ := layered_eq_ok h
  obtain ⟨hlaid, hvariables⟩ := variableLayer_eq_ok hvariables
  have hdistinct := hasDistinctKeys_overrideEntries hkeys
  have hbase := laid_baseDefaults.not_map y
  have henv := laid_environmentDefaults name
  -- no layer below the overrides has a map at a setting, so that nothing is merged there
  have hdefaults := Value.at?_merge_of_leaf henv.hasDistinctKeys (henv.passable y) hbase
  have hdefaultsLeaf := or_ne_some_map (henv.not_map y) hbase
  rw [← hdefaults] at hdefaultsLeaf
  have hset := Value.at?_merge_of_leaf hlaid.hasDistinctKeys (hlaid.passable y) hdefaultsLeaf
  have hsetLeaf := or_ne_some_map (hlaid.not_map y) hdefaultsLeaf
  rw [← hset] at hsetLeaf
  rw [Value.at?_merge_of_leaf hdistinct (.of_merge hdistinct hpassable) hsetLeaf, hset,
    hdefaults, hvariables]
  rfl

/-- Wherever a section has a setting, the base defaults have one in the same place. -/
theorem exists_inBase {key : String} {path : List String}
    (h : y.path = y.sectionKey :: key :: path) : ∃ (z : Setting) (rest : List String),
      z.sectionKey = y.sectionKey ∧ z.path = [y.sectionKey, key] ++ rest ∧
      z.inBase.isSome = true := by
  cases y with
  | network => cases h
  | url t network =>
    cases h
    refine ⟨.url t "Mainnet", ["Mainnet"], rfl, rfl, ?_⟩
    cases t <;> rfl
  | timeout | level | format | datefmt =>
    cases h
    exact ⟨_, [], rfl, rfl, rfl⟩

/-- **A loaded setting is settled by the layers**, if its section is not replaced. -/
theorem get?_of_load (hkeys : overrides.HasDistinctKeys)
    (hkept : ¬ Replaces overrides y.sectionKey) (h : load env vars overrides = .ok x) :
    x.get? y = y.settled (.map (overrideEntries overrides)) vars (environmentName env vars) := by
  obtain ⟨entries, hlayered, h⟩ := bind_eq_ok_iff.mp h
  obtain ⟨relay, logging, hx⟩ := check_eq_ok_iff.mp h
  have hsection : ∀ inner, entries.lookup y.sectionKey ≠ some (.view inner) := by
    intro inner hinner
    exact hkept ⟨inner, (lookup_layered_eq_view_iff hkeys hlayered).mp hinner⟩
  rw [← at?_layered hkeys hlayered (hx.passable hsection)]
  refine hx.get?_eq hsection fun key path hpath => ?_
  obtain ⟨z, rest, hz, hzpath, hbase⟩ := exists_inBase hpath
  have hat := at?_layered hkeys hlayered (hx.passable (hz ▸ hsection))
  rw [hzpath, Value.at?_append] at hat
  refine Option.isSome_of_isSome_bind (f := (Value.at? · rest)) ?_
  simp only [hat, Setting.settled, Option.isSome_or, hbase, Bool.or_true]

/-- What the base defaults have is never lost, if its section is not replaced. -/
theorem isSome_get?_of_load (hkeys : overrides.HasDistinctKeys)
    (hkept : ¬ Replaces overrides y.sectionKey) (h : load env vars overrides = .ok x)
    (hbase : y.inBase.isSome = true) : (x.get? y).isSome = true := by
  rw [get?_of_load hkeys hkept h]
  simp only [Setting.settled, Option.isSome_or, hbase, Bool.or_true]

/-- Relay settings that were loaded, with a relay section that is merged from all layers. -/
def RelaySettings.Loaded (relay : RelaySettings) : Prop :=
  ∃ (env : Option String) (vars : Variables) (overrides : Value) (x : Settings),
    overrides.HasDistinctKeys ∧ ¬ Replaces overrides "relay" ∧
    load env vars overrides = .ok x ∧ x.relay = relay

theorem isSome_lookup_table {t : RelayTable} {network : String} :
    ((x.relay.table t).lookup network).isSome = (x.get? (.url t network)).isSome :=
  Option.isSome_map.symm

theorem RelaySettings.Loaded.isSome_lookup {relay : RelaySettings} (h : relay.Loaded)
    {t : RelayTable} {network : String} (hbase : (Setting.url t network).inBase.isSome = true) :
    ((relay.table t).lookup network).isSome = true := by
  obtain ⟨env, vars, overrides, x, hkeys, hkept, hload, rfl⟩ := h
  rw [isSome_lookup_table]
  exact isSome_get?_of_load hkeys hkept hload hbase

theorem load_of_check {name : String} (hname : environmentName env vars = name)
    (hlayered : layered name vars overrides = .ok entries) (hcheck : check name entries = .ok x) :
    load env vars overrides = .ok x := by
  rw [load, hname]
  exact bind_eq_ok_iff.mpr ⟨entries, hlayered, hcheck⟩

theorem environmentName_development : environmentName none [] = "development" := by
  decide +kernel

theorem valid_initialRelay (t : RelayTable) : (initialRelay.table t).Valid := by
  cases t <;> simp [Table.Valid, RelaySettings.table, initialRelay, networks, isUrl]

theorem load_initialSettings : load none [] .null = .ok initialSettings := by
  have hmem : initialSettings.network ∈ networks := by decide
  exact load_of_check environmentName_development rfl
    (check_of_sections rfl rfl rfl hmem valid_initialRelay rfl rfl rfl)

theorem hasDistinctKeys_null : Value.null.HasDistinctKeys :=
  Value.hasDistinctKeys_of_leaf rfl

theorem inVariables_cons {name text : String} {reading : Reading}
    (hmem : (name, y, reading) ∈ variableSettings) (h : y ≠ z) :
    z.inVariables ((name, text) :: vars) = z.inVariables vars := by
  unfold Setting.inVariables valueIn
  cases hfound : variableSettings.find? (·.2.1 = z) with
  | none => rfl
  | some entry =>
    -- a variable that carries another setting has another name
    have hname : entry.1 ≠ name := by
      intro hname
      have hone : ∀ e ∈ variableSettings, ∀ f ∈ variableSettings, e.1 = f.1 → e.2.1 = f.2.1 := by
        decide
      have hsame := hone entry (List.mem_of_find?_eq_some hfound) (name, y, reading) hmem hname
      have hz : entry.2.1 = z := by simpa using List.find?_some hfound
      exact h (hsame.symm.trans hz)
    simp only [Option.bind_some, List.lookup_cons, beq_eq_false_iff_ne.mpr hname]

/-- A value put at one setting replaces no section of another. -/
theorem not_replaces_putAt (hnested : Nested overrides) (h : y ≠ z) :
    ¬ Replaces (.map (Value.putAt (Value.entriesOf overrides) y.path v)) z.sectionKey := by
  have hbefore {key : String} : (Value.entriesOf overrides).lookup key = overrides.find? [key] := by
    rw [← lookup_overrideEntries]
    cases overrides with
    | view entries => exact absurd rfl (hnested.not_view entries)
    | _ => rfl
  have hput {key : String} {w : Value} (hw : z.sectionKey = key → ∀ inner, w ≠ .view inner) :
      ¬ Replaces (.map (Value.put (Value.entriesOf overrides) key w)) z.sectionKey := by
    rintro ⟨inner, hinner⟩
    rw [← lookup_overrideEntries] at hinner
    show False
    by_cases hkey : z.sectionKey = key
    · have hfound : some w = some (.view inner) := by
        rw [← hinner, hkey]
        exact (Value.lookup_put_self _ _ _).symm
      exact hw hkey inner (Option.some.inj hfound)
    · have hfound : (Value.entriesOf overrides).lookup z.sectionKey = some (.view inner) :=
        (Value.lookup_put_of_ne hkey).symm.trans hinner
      exact hnested.kept z ⟨inner, hbefore.symm.trans hfound⟩
  cases y with
  | network =>
    -- no other setting is in the section that the network is
    refine hput fun hkey => ?_
    cases z with
    | network => exact absurd rfl h
    | url | timeout | level | format | datefmt => simp [Setting.sectionKey] at hkey
  | url | timeout | level | format | datefmt => exact hput fun _ _ hw => nomatch hw

/-- **Every setting comes from the highest layer that mentions it**, where the overrides are nested
maps as the defaults are. A loaded setting has the value that the overrides give it, or else its
variable, or else the environment of the lower-case name, or else the base defaults; a relay table
has the networks that one of them gives it. So a value that is put at one setting in the overrides,
or that one more variable has, leaves all other settings as they were. -/
theorem load_settles_each {env : Option String} {vars : Variables} {overrides : Value}
    {x : Settings} (hkeys : overrides.HasDistinctKeys) (hnested : Nested overrides)
    (h : load env vars overrides = .ok x) :
    (∀ y : Setting, x.get? y = (overrides.at? y.path).or ((y.inVariables vars).or
      ((y.inEnvironment (environmentName env vars)).or y.inBase))) ∧
    (∀ (t : RelayTable) (network : String), ((x.relay.table t).lookup network).isSome = true ↔
      (overrides.at? (Setting.url t network).path).isSome = true ∨
      ((Setting.url t network).inVariables vars).isSome = true ∨
      ((Setting.url t network).inEnvironment (environmentName env vars)).isSome = true ∨
      (Setting.url t network).inBase.isSome = true) ∧
    (∀ (y z : Setting) (v : Value) (x' : Settings), y ≠ z → v.HasDistinctKeys →
      load env vars (.map (Value.putAt (Value.entriesOf overrides) y.path v)) = .ok x' →
      x'.get? z = x.get? z) ∧
    (∀ (name : String) (y z : Setting) (reading : Reading) (text : String) (x' : Settings),
      (name, y, reading) ∈ variableSettings → y ≠ z →
      load env ((name, text) :: vars) overrides = .ok x' → x'.get? z = x.get? z) := by
  have hsettled (y : Setting) {vars : Variables} {x : Settings}
      (h : load env vars overrides = .ok x) :
      x.get? y = y.settled overrides vars (environmentName env vars) := by
    rw [get?_of_load hkeys (hnested.kept y) h, Setting.settled,
      at?_overrideEntries hnested.not_view]
    rfl
  refine ⟨fun y => hsettled y h, ?_, ?_, ?_⟩
  · intro t network
    rw [isSome_lookup_table, hsettled _ h]
    simp only [Setting.settled, Option.isSome_or, Bool.or_eq_true]
  · intro y z v x' hne hv h'
    have hentries : (Value.map (Value.entriesOf overrides)).HasDistinctKeys ∧
        (Value.map (Value.entriesOf overrides)).at? z.path = overrides.at? z.path := by
      cases overrides with
      | map entries => exact ⟨hkeys, rfl⟩
      | _ => exact ⟨Value.hasDistinctKeys_nil, by cases z <;> rfl⟩
    have hput := get?_of_load (hentries.1.putAt hv) (not_replaces_putAt hnested hne) h'
    rw [hsettled z h, hput, overrideEntries_map, Setting.settled, Setting.settled, at?_putAt,
      if_neg hne, hentries.2]
  · intro name y z reading text x' hmem hne h'
    have hname : environmentName env ((name, text) :: vars) = environmentName env vars := by
      have henv : ("NTT_ENV" == name) = false := by
        have hall : ∀ entry ∈ variableSettings, ("NTT_ENV" == entry.1) = false := by decide
        exact hall _ hmem
      simp only [environmentName, List.lookup_cons, henv]
    rw [hsettled z h, hsettled z h', Setting.settled, Setting.settled, inVariables_cons hmem hne,
      hname]

end Layers

namespace Sample

/-! ## Every layer has a say -/

/-- A web address, and a level that the overrides cover. -/
def vars : Variables := [("NTT_EXECUTOR_TESTNET_URL", "http://e"), ("NTT_LOG_LEVEL", "")]

/-- A network that no other layer mentions, and a level. -/
def overrides : Value :=
  .map [("relay", .map [("axelar_api", .map [("Devnet", .text "http://d")])]),
    ("logging", .map [("level", .text "info")])]

/-- What the environment `test` comes to with them. -/
def settings : Settings where
  env := "test"
  network := "Devnet"
  relay :=
    { executorApi := [("Mainnet", "https://executor.labsapis.com"), ("Testnet", "http://e")]
      axelarApi :=
        [("Mainnet", "https://api.axelarscan.io"), ("Testnet", "https://testnet.api.axelarscan.io"),
          ("Devnet", "http://d")]
      axelarExplorer :=
        [("Mainnet", "https://axelarscan.io"), ("Testnet", "https://testnet.axelarscan.io")]
      requestTimeout := seconds 2 }
  logging :=
    { level := .text "info"
      format := .text "%(asctime)s %(levelname)s [%(name)s] %(message)s"
      datefmt := .text "%Y-%m-%d %H:%M:%S" }

theorem laid_overrides : Laid (Value.entriesOf overrides) := by
  show Laid (putAll [] [(.url .axelarApi "Devnet", .text "http://d"), (.level, .text "info")])
  exact laid_putAll .nothing (by simp [Value.entries?])

theorem nested_overrides : Nested overrides := by
  refine ⟨nofun, fun y => ?_⟩
  rintro ⟨inner, hinner⟩
  rw [← lookup_overrideEntries] at hinner
  exact laid_overrides.not_view inner hinner

theorem load_settings : load (some "TEST") vars overrides = .ok settings := by
  have hname : environmentName (some "TEST") vars = "test" := by decide +kernel
  have hvalid : ∀ t, (settings.relay.table t).Valid := by
    intro t
    cases t <;> simp [Table.Valid, RelaySettings.table, settings, networks, isUrl]
  have hmem : settings.network ∈ networks := by decide
  exact load_of_check hname rfl (check_of_sections rfl rfl rfl hmem hvalid rfl rfl rfl)

/-- The environment is found in lower case, its level gives way to that of the overrides, an empty
variable beneath them does not count, and the networks beside a web address that was set keep
theirs. -/
theorem load_settles_each_sample :
    overrides.HasDistinctKeys ∧ Nested overrides ∧
    load (some "TEST") vars overrides = .ok settings ∧
    settings.get? .level = some (.text "info") ∧
    settings.get? .network = some (.text "Devnet") ∧
    settings.get? (.url .executorApi "Testnet") = some (.text "http://e") ∧
    settings.get? (.url .executorApi "Mainnet") = some (.text "https://executor.labsapis.com") ∧
    (settings.relay.axelarApi.lookup "Devnet").isSome = true ∧
    (settings.relay.executorApi.lookup "Devnet").isSome = false := by
  have hkeys : overrides.HasDistinctKeys := laid_overrides.hasDistinctKeys
  obtain ⟨hsettled, htables, -, -⟩ := load_settles_each hkeys nested_overrides load_settings
  have hname : environmentName (some "TEST") vars = "test" := by decide +kernel
  rw [hname] at hsettled htables
  refine ⟨hkeys, nested_overrides, load_settings, (hsettled .level).trans rfl, (hsettled .network).trans rfl,
    (hsettled (.url .executorApi "Testnet")).trans rfl,
    (hsettled (.url .executorApi "Mainnet")).trans rfl,
    (htables .axelarApi "Devnet").mpr (.inl rfl), ?_⟩
  rw [← Bool.not_eq_true]
  intro hsome
  rcases (htables .executorApi "Devnet").mp hsome with h | h | h | h <;> cases h

end Sample

end TokenBridge.Config
