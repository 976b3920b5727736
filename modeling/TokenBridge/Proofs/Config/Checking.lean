import TokenBridge.Config.Session
import TokenBridge.Proofs.Outcome
import TokenBridge.Proofs.Value.Layering

/-!
# What checked settings come from

The check of settings changes nothing: it takes a tree of entries apart, and what it answers are the
entries themselves, known to be of the right form, or the defaults of a section that does not mention
them. Each part of the check has an exact condition here, and **a checked setting is the value at its
own path in the tree** (`Settings.ComeFrom.get?_eq`), with nothing but maps on the way there
(`Settings.ComeFrom.passable`), if its section is a map that mentions it.

A `Setting` is a single leaf of that tree. The web address of one network in one relay table is a
setting of its own, so a table has as many settings as there are networks, and those that it does not
mention have no value.
-/

namespace TokenBridge.Config

/-! ## Relay tables -/

/-- The relay tables of the settings. -/
inductive RelayTable where
  | executorApi
  | axelarApi
  | axelarExplorer
deriving DecidableEq, Repr

/-- The key of a relay table in the relay section. -/
def RelayTable.key : RelayTable → String
  | .executorApi => "executor_api"
  | .axelarApi => "axelar_api"
  | .axelarExplorer => "axelar_explorer"

/-- A relay table of relay settings. -/
def RelaySettings.table (relay : RelaySettings) : RelayTable → Table
  | .executorApi => relay.executorApi
  | .axelarApi => relay.axelarApi
  | .axelarExplorer => relay.axelarExplorer

/-- A table of networks that settings can name, with what looks like web addresses. -/
def Table.Valid (table : Table) : Prop :=
  ∀ entry ∈ table, entry.1 ∈ networks ∧ isUrl entry.2 = true

variable {name env : String} {v : Value} {entries : Value.Entries} {table : Table}

theorem lookup_tableValue {network : String} :
    (table.map fun entry => (entry.1, Value.text entry.2)).lookup network =
      (table.lookup network).map .text := by
  induction table with
  | nil => rfl
  | cons entry table ih =>
    obtain ⟨other, url⟩ := entry
    rw [List.map_cons, List.lookup_cons, List.lookup_cons, ih]
    cases network == other <;> rfl

theorem checkEntries_eq_ok_iff : checkEntries name entries = .ok table ↔
    entries = (table.map fun entry => (entry.1, Value.text entry.2)) ∧ table.Valid := by
  induction entries generalizing table with
  | nil =>
    simp only [checkEntries, Except.ok.injEq]
    constructor
    · intro h
      subst h
      exact ⟨rfl, fun _ h => nomatch h⟩
    · intro h
      exact (List.map_eq_nil_iff.mp h.1.symm).symm
  | cons entry entries ih =>
    obtain ⟨network, url⟩ := entry
    constructor
    · intro h
      by_cases hnetwork : networks.contains network = true
      · cases url with
        | text s =>
          simp only [checkEntries, hnetwork, Bool.not_true, Bool.false_eq_true, if_false] at h
          split at h
          · rename_i hurl
            obtain ⟨others, hothers, h⟩ := bind_eq_ok_iff.mp h
            cases h
            obtain ⟨rfl, hvalid⟩ := ih.mp hothers
            exact ⟨rfl, List.forall_mem_cons.mpr
              ⟨⟨List.contains_iff_mem.mp hnetwork, hurl⟩, hvalid⟩⟩
          · cases h
        | _ =>
          simp only [checkEntries, hnetwork] at h
          cases h
      · simp only [checkEntries, hnetwork] at h
        cases h
    · intro h
      obtain ⟨htable, hvalid⟩ := h
      cases table with
      | nil => cases htable
      | cons first table =>
        rw [List.map_cons, List.cons.injEq, Prod.mk.injEq] at htable
        obtain ⟨⟨rfl, rfl⟩, hrest⟩ := htable
        obtain ⟨⟨hnetwork, hurl⟩, hvalid⟩ := List.forall_mem_cons.mp hvalid
        have hrest := ih.mpr ⟨hrest, hvalid⟩
        simp only [checkEntries, List.contains_iff_mem.mpr hnetwork, hurl, hrest]
        rfl

theorem checkTable_eq_ok_iff :
    checkTable name v = .ok table ↔ v = tableValue table ∧ table.Valid := by
  cases v with
  | map entries => simp only [checkTable, checkEntries_eq_ok_iff, tableValue, Value.map.injEq]
  | _ => simp [checkTable, tableValue]

/-! ## Sections -/

/-- What is looked into and is no view is a map. -/
theorem eq_map_of_entries? {found : Option Value} (h : found.bind Value.entries? = some entries)
    (hview : ∀ inner, found ≠ some (.view inner)) : found = some (.map entries) := by
  obtain ⟨w, rfl, hw⟩ := Option.bind_eq_some_iff.mp h
  cases w with
  | map inner =>
    cases hw
    rfl
  | view inner => exact absurd rfl (hview inner)
  | _ => cases hw

theorem lookup_withDefaults {defaults : Value.Entries} {key : String} :
    (withDefaults defaults entries).lookup key =
      (defaults.lookup key).map fun default => (entries.lookup key).getD default := by
  unfold withDefaults
  induction defaults with
  | nil => rfl
  | cons setting defaults ih =>
    obtain ⟨other, default⟩ := setting
    rw [List.map_cons, List.lookup_cons, List.lookup_cons, ih]
    cases hkey : key == other with
    | true => rw [eq_of_beq hkey]; rfl
    | false => rfl

theorem lookup_withDefaults_of_some {defaults : Value.Entries} {key : String}
    (hkey : (defaults.lookup key).isSome = true) (hv : entries.lookup key = some v) :
    (withDefaults defaults entries).lookup key = some v := by
  obtain ⟨default, hdefault⟩ := Option.isSome_iff_exists.mp hkey
  rw [lookup_withDefaults, hdefault, hv]
  rfl

theorem sectionSettings_eq_ok_iff {defaults settings : Value.Entries} {found : Option Value} :
    sectionSettings defaults found = .ok settings ↔
      ∃ entries, found.bind Value.entries? = some entries ∧
        (∀ entry ∈ entries, entry.1 ∈ defaults.map (·.1)) ∧
        withDefaults defaults entries = settings := by
  unfold sectionSettings
  constructor
  · intro h
    split at h
    · rename_i entries hentries
      split at h
      · rename_i hknown
        exact ⟨entries, hentries, by simpa using hknown, Except.ok.inj h⟩
      · cases h
    · cases h
  · rintro ⟨entries, hentries, hknown, rfl⟩
    rw [hentries]
    exact if_pos (by simpa using hknown)

theorem checkNetwork_eq_ok_iff {network : String} :
    checkNetwork v = .ok network ↔ v = .text network ∧ network ∈ networks := by
  cases v with
  | text s =>
    simp only [checkNetwork, Value.text.injEq]
    by_cases h : networks.contains s = true
    · simp only [h, if_true, Except.ok.injEq]
      constructor
      · intro hs
        exact ⟨hs, hs ▸ List.contains_iff_mem.mp h⟩
      · intro hs
        exact hs.1
    · rw [if_neg h]
      simp only [reduceCtorEq, false_iff, not_and]
      intro hs hmem
      exact h (hs ▸ List.contains_iff_mem.mpr hmem)
  | _ => simp [checkNetwork]

theorem checkTimeout_eq_ok_iff {timeout : Value} :
    checkTimeout v = .ok timeout ↔ v = timeout ∧ atMostZero? timeout = some false := by
  unfold checkTimeout
  constructor
  · intro h
    split at h
    · cases h
    · cases h
    · rename_i hpositive
      cases h
      exact ⟨rfl, hpositive⟩
  · intro h
    obtain ⟨rfl, hpositive⟩ := h
    rw [hpositive]

theorem lookup_of_getD_ne_null {key : String} (h : (entries.lookup key).getD .null = v)
    (hv : v ≠ .null) : entries.lookup key = some v := by
  cases hfound : entries.lookup key with
  | none =>
    rw [hfound] at h
    exact absurd h.symm hv
  | some found =>
    rw [hfound] at h
    exact congrArg some h

/-- Relay settings are the relay section, taken apart. -/
structure RelaySettings.ComeFrom (relay : RelaySettings) (entries : Value.Entries) : Prop where
  table (t : RelayTable) : entries.lookup t.key = some (tableValue (relay.table t))
  valid (t : RelayTable) : (relay.table t).Valid
  timeout : entries.lookup "request_timeout" = some relay.requestTimeout
  timeout_positive : atMostZero? relay.requestTimeout = some false

theorem checkRelay_eq_ok_iff {relay : RelaySettings} :
    checkRelay entries = .ok relay ↔ relay.ComeFrom entries := by
  unfold checkRelay
  simp only [bind_eq_ok_iff, checkTable_eq_ok_iff, checkTimeout_eq_ok_iff, Except.ok.injEq]
  constructor
  · intro h
    obtain ⟨executorApi, ⟨hexecutor, hexecutorValid⟩, axelarApi, ⟨haxelar, haxelarValid⟩,
      axelarExplorer, ⟨hexplorer, hexplorerValid⟩, timeout, ⟨htimeout, hpositive⟩, rfl⟩ := h
    refine ⟨?_, ?_, lookup_of_getD_ne_null htimeout ?_, hpositive⟩
    · intro t
      cases t with
      | executorApi => exact lookup_of_getD_ne_null hexecutor nofun
      | axelarApi => exact lookup_of_getD_ne_null haxelar nofun
      | axelarExplorer => exact lookup_of_getD_ne_null hexplorer nofun
    · intro t
      cases t with
      | executorApi => exact hexecutorValid
      | axelarApi => exact haxelarValid
      | axelarExplorer => exact hexplorerValid
    · -- nothing at all is no number
      intro hnull
      have hnull : timeout = .null := hnull
      rw [hnull] at hpositive
      cases hpositive
  · intro h
    have hentry {key : String} {v : Value} (hv : entries.lookup key = some v) :
        (entries.lookup key).getD .null = v := by rw [hv]; rfl
    exact ⟨relay.executorApi, ⟨hentry (h.table .executorApi), h.valid .executorApi⟩,
      relay.axelarApi, ⟨hentry (h.table .axelarApi), h.valid .axelarApi⟩,
      relay.axelarExplorer, ⟨hentry (h.table .axelarExplorer), h.valid .axelarExplorer⟩,
      relay.requestTimeout, ⟨hentry h.timeout, h.timeout_positive⟩, rfl⟩

/-! ## Settings -/

/-- A single setting. -/
inductive Setting where
  | network
  /-- The web address of one network in one relay table. -/
  | url (table : RelayTable) (network : String)
  | timeout
  | level
  | format
  | datefmt
deriving DecidableEq, Repr

/-- Where a setting stands in the tree. -/
def Setting.path : Setting → List String
  | .network => ["network"]
  | .url table net => ["relay", table.key, net]
  | .timeout => ["relay", "request_timeout"]
  | .level => ["logging", "level"]
  | .format => ["logging", "format"]
  | .datefmt => ["logging", "datefmt"]

/-- The key of the section that a setting is in; the network is a section of its own. -/
def Setting.sectionKey : Setting → String
  | .network => "network"
  | .url _ _ | .timeout => "relay"
  | .level | .format | .datefmt => "logging"

/-- The value of a setting; a network that a table does not mention has none. -/
def Settings.get? (x : Settings) : Setting → Option Value
  | .network => some (.text x.network)
  | .url table net => ((x.relay.table table).lookup net).map .text
  | .timeout => some x.relay.requestTimeout
  | .level => some x.logging.level
  | .format => some x.logging.format
  | .datefmt => some x.logging.datefmt

/-- Settings are a tree of entries, taken apart: the network, and two sections with their
defaults. -/
structure Settings.ComeFrom (x : Settings) (env : String) (entries relay logging : Value.Entries) :
    Prop where
  env : x.env = env
  relay_section : (entries.lookup "relay").bind Value.entries? = some relay
  relay_known : ∀ entry ∈ relay, entry.1 ∈ relayDefaults.map (·.1)
  logging_section : (entries.lookup "logging").bind Value.entries? = some logging
  logging_known : ∀ entry ∈ logging, entry.1 ∈ loggingDefaults.map (·.1)
  network : entries.lookup "network" = some (.text x.network)
  network_mem : x.network ∈ networks
  relay : x.relay.ComeFrom (withDefaults relayDefaults relay)
  logging : loggingOf (withDefaults loggingDefaults logging) = x.logging
  level_truthy : x.logging.level.truthy = true
  format_truthy : x.logging.format.truthy = true

variable {x : Settings}

theorem checkLogging_eq_ok_iff {logging checked : LoggingSettings} :
    checkLogging logging = .ok checked ↔
      logging = checked ∧ checked.level.truthy = true ∧ checked.format.truthy = true := by
  unfold checkLogging
  constructor
  · intro h
    split at h
    · cases h
    · rename_i hlevel
      split at h
      · cases h
      · rename_i hformat
        cases h
        exact ⟨rfl, by simpa using hlevel, by simpa using hformat⟩
  · intro h
    obtain ⟨rfl, hlevel, hformat⟩ := h
    rw [if_neg (by simp [hlevel]), if_neg (by simp [hformat])]

/-- **Settings are what the check answers exactly if they are the tree, taken apart.** -/
theorem check_eq_ok_iff :
    check env entries = .ok x ↔ ∃ relay logging, x.ComeFrom env entries relay logging := by
  unfold check
  simp only [bind_eq_ok_iff, sectionSettings_eq_ok_iff, checkNetwork_eq_ok_iff,
    checkRelay_eq_ok_iff, checkLogging_eq_ok_iff, Except.ok.injEq]
  constructor
  · rintro ⟨_, ⟨relay, hrelay, hrelayKnown, rfl⟩, _, ⟨logging, hlogging, hloggingKnown, rfl⟩,
      network, ⟨hnetwork, hmem⟩, relaySettings, hcome, loggingSettings, ⟨rfl, hlevel, hformat⟩, rfl⟩
    exact ⟨relay, logging, {
      env := rfl
      relay_section := hrelay
      relay_known := hrelayKnown
      logging_section := hlogging
      logging_known := hloggingKnown
      network := lookup_of_getD_ne_null hnetwork nofun
      network_mem := hmem
      relay := hcome
      logging := rfl
      level_truthy := hlevel
      format_truthy := hformat }⟩
  · rintro ⟨relay, logging, h⟩
    refine ⟨_, ⟨relay, h.relay_section, h.relay_known, rfl⟩, _,
      ⟨logging, h.logging_section, h.logging_known, rfl⟩, x.network, ⟨?_, h.network_mem⟩, x.relay,
      h.relay, x.logging, ⟨h.logging, h.level_truthy, h.format_truthy⟩, ?_⟩
    · rw [h.network]
      rfl
    · rw [← h.env]

/-- The section that relay settings are made of. -/
def RelaySettings.toEntries (relay : RelaySettings) : Value.Entries :=
  [("executor_api", tableValue relay.executorApi), ("axelar_api", tableValue relay.axelarApi),
    ("axelar_explorer", tableValue relay.axelarExplorer),
    ("request_timeout", relay.requestTimeout)]

/-- The section that logging settings are made of. -/
def LoggingSettings.toEntries (logging : LoggingSettings) : Value.Entries :=
  [("level", logging.level), ("format", logging.format), ("datefmt", logging.datefmt)]

/-- Settings of the right form are made from a tree that has them in its sections. -/
theorem check_of_sections (hrelay : entries.lookup "relay" = some (.map x.relay.toEntries))
    (hlogging : entries.lookup "logging" = some (.map x.logging.toEntries))
    (hnetwork : entries.lookup "network" = some (.text x.network)) (hmem : x.network ∈ networks)
    (hvalid : ∀ t, (x.relay.table t).Valid)
    (htimeout : atMostZero? x.relay.requestTimeout = some false)
    (hlevel : x.logging.level.truthy = true) (hformat : x.logging.format.truthy = true) :
    check x.env entries = .ok x := by
  refine check_eq_ok_iff.mpr ⟨x.relay.toEntries, x.logging.toEntries, {
    env := rfl
    relay_section := by rw [hrelay]; rfl
    relay_known := by simp [RelaySettings.toEntries, relayDefaults]
    logging_section := by rw [hlogging]; rfl
    logging_known := by simp [LoggingSettings.toEntries, loggingDefaults]
    network := hnetwork
    network_mem := hmem
    relay := ⟨?_, hvalid, rfl, htimeout⟩
    logging := rfl
    level_truthy := hlevel
    format_truthy := hformat }⟩
  intro t
  cases t <;> rfl

namespace Settings.ComeFrom

variable {relay logging : Value.Entries} (h : x.ComeFrom env entries relay logging)

include h

/-- A relay table that the relay section mentions is the table that it mentions. -/
theorem tableValue_eq {t : RelayTable} (hv : relay.lookup t.key = some v) :
    v = tableValue (x.relay.table t) := by
  have hkey : (relayDefaults.lookup t.key).isSome = true := by cases t <;> rfl
  exact Option.some.inj ((lookup_withDefaults_of_some hkey hv).symm.trans (h.relay.table t))

/-- A relay table that the relay section does not mention is the default. -/
theorem table_eq_default {t : RelayTable} (hnone : relay.lookup t.key = none) :
    some (tableValue (x.relay.table t)) = relayDefaults.lookup t.key := by
  rw [← h.relay.table t, lookup_withDefaults, hnone]
  cases relayDefaults.lookup t.key <;> rfl

theorem timeout_eq : some x.relay.requestTimeout =
    (relay.lookup "request_timeout").or (some (seconds 10)) := by
  rw [← h.relay.timeout, lookup_withDefaults]
  cases relay.lookup "request_timeout" <;> rfl

/-- Nothing but maps stands on the way to a setting whose section is no view. -/
theorem passable {y : Setting}
    (hview : ∀ inner, entries.lookup y.sectionKey ≠ some (.view inner)) :
    Value.Passable (.map entries) y.path := by
  have hleaf {inner : Value.Entries} {key : String} : Value.Passable (.map inner) [key] :=
    Value.passable_map_iff.mpr fun _ _ => trivial
  have hsection {key : String} {path : List String} {inner : Value.Entries}
      (hinner : entries.lookup key = some (.map inner))
      (hpath : Value.Passable (.map inner) path) : Value.Passable (.map entries) (key :: path) := by
    rw [Value.passable_map_iff, hinner]
    intro w hw
    cases hw
    exact hpath
  cases y with
  | network => exact hleaf
  | url t network =>
    refine hsection (eq_map_of_entries? h.relay_section hview) ?_
    rw [Value.passable_map_iff]
    intro w hw
    rw [h.tableValue_eq hw]
    exact hleaf
  | timeout => exact hsection (eq_map_of_entries? h.relay_section hview) hleaf
  | level | format | datefmt =>
    exact hsection (eq_map_of_entries? h.logging_section hview) hleaf

/-- **A setting is the value at its path**, if its section is no view and mentions it. -/
theorem get?_eq {y : Setting} (hview : ∀ inner, entries.lookup y.sectionKey ≠ some (.view inner))
    (hmentioned : ∀ key path, y.path = y.sectionKey :: key :: path →
      ((Value.map entries).at? [y.sectionKey, key]).isSome = true) :
    x.get? y = (Value.map entries).at? y.path := by
  have hlogging {key : String} (hsection : y.sectionKey = "logging")
      (hpath : y.path = ["logging", key]) (hkey : (loggingDefaults.lookup key).isSome = true) :
      (Value.map entries).at? y.path =
        some (((withDefaults loggingDefaults logging).lookup key).getD .null) := by
    obtain ⟨v, hv, hat⟩ := Value.exists_at?_of_mentioned []
      (eq_map_of_entries? h.logging_section (hsection ▸ hview))
      (hsection ▸ hmentioned key [] (by rw [hsection, hpath]))
    rw [hpath, hat, lookup_withDefaults_of_some hkey hv]
    rfl
  cases y with
  | network =>
    rw [Setting.path, Value.at?_map_cons, h.network]
    rfl
  | url t network =>
    obtain ⟨v, hv, hat⟩ := Value.exists_at?_of_mentioned [network]
      (eq_map_of_entries? h.relay_section hview) (hmentioned t.key [network] rfl)
    rw [Setting.path, hat, h.tableValue_eq hv, tableValue, Value.at?_map_cons, lookup_tableValue]
    show ((x.relay.table t).lookup network).map Value.text = _
    cases (x.relay.table t).lookup network <;> rfl
  | timeout =>
    obtain ⟨v, hv, hat⟩ := Value.exists_at?_of_mentioned []
      (eq_map_of_entries? h.relay_section hview) (hmentioned "request_timeout" [] rfl)
    rw [Setting.path, hat]
    exact h.timeout_eq.trans (by rw [hv]; rfl)
  | level => rw [hlogging rfl rfl rfl, Settings.get?, ← h.logging]; rfl
  | format => rw [hlogging rfl rfl rfl, Settings.get?, ← h.logging]; rfl
  | datefmt => rw [hlogging rfl rfl rfl, Settings.get?, ← h.logging]; rfl

end Settings.ComeFrom

end TokenBridge.Config
