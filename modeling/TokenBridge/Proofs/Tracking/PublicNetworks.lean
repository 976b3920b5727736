import Mathlib
import TokenBridge.Proofs.Config.Validity
import TokenBridge.Proofs.Tracking.Answers

/-!
# The public networks under loaded settings

Every relay table of the base defaults has the two public networks. Layers are merged table by
table, and a layer that puts anything but a table in the place of one is refused by the check, so
that no merge takes them out of a table again. But nothing is merged into a view: overrides with one
in the place of the relay section give every table that they mention as it is, and `Drops` says when
a network is missing there. **That is the one way for loaded settings to be without a public network**
(`public_networks_kept`), whatever the variables and the overrides are.

The page of a transaction rests on it: where a network has no explorer, the one of `Testnet` stands
in without being asked whether it is there.
-/

namespace TokenBridge.Tracking

section Kept

variable {settings : Config.RelaySettings} {explorers entries : Config.Table}
  {network url : String}
  {env : Option String} {vars : Config.Variables} {overrides : Value} {x : Config.Settings}
  {t : Config.RelayTable}

/-- A network that the base defaults have relays for. -/
def IsPublic (network : String) : Prop := network = "Mainnet" ∨ network = "Testnet"

/-- The overrides take a network out of a relay table: they have a view in the place of the relay
section, and in it the table without the network. -/
def Drops (overrides : Value) (t : Config.RelayTable) (network : String) : Prop :=
  ∃ replacement table, overrides.find? ["relay"] = some (.view replacement) ∧
    replacement.lookup t.key = some (.map table) ∧ table.lookup network = none

theorem isSome_inBase (t : Config.RelayTable) (h : IsPublic network) :
    (Config.Setting.url t network).inBase.isSome = true := by
  rcases h with rfl | rfl
  · cases t <;> rfl
  · cases t <;> rfl

/-- A default table has both public networks. -/
theorem isSome_lookup_of_default (h : IsPublic network)
    (htable : some (Config.tableValue entries) = Config.relayDefaults.lookup t.key) :
    (entries.lookup network).isSome = true := by
  rw [← Option.isSome_map (f := Value.text), ← Config.lookup_tableValue]
  cases t with
  | executorApi | axelarApi | axelarExplorer =>
    rw [Value.map.inj (Option.some.inj htable)]
    rcases h with rfl | rfl <;> rfl

/-- **A loaded table is without a public network exactly where the overrides drop it.** -/
theorem lookup_table_eq_none_iff (hkeys : overrides.HasDistinctKeys)
    (hload : Config.load env vars overrides = .ok x) (h : IsPublic network) :
    (x.relay.table t).lookup network = none ↔ Drops overrides t network := by
  by_cases hreplaced : Config.Replaces overrides "relay"
  · obtain ⟨inner, hinner⟩ := hreplaced
    obtain ⟨entries, hlayered, hcheck⟩ := bind_eq_ok_iff.mp hload
    obtain ⟨relay, logging, hx⟩ := Config.check_eq_ok_iff.mp hcheck
    obtain rfl := Config.relay_section_of_replaced hkeys hlayered hx hinner
    have hdrops : Drops overrides t network ↔
        ∃ table, relay.lookup t.key = some (.map table) ∧ table.lookup network = none := by
      simp [Drops, hinner]
    rw [hdrops]
    cases hown : relay.lookup t.key with
    | none =>
      have hsome := isSome_lookup_of_default h (hx.table_eq_default hown)
      simp [← Option.not_isSome_iff_eq_none, hsome]
    | some v =>
      simp [hx.tableValue_eq hown, Config.tableValue]
  · have hsome := Config.isSome_get?_of_load (y := .url t network) hkeys hreplaced hload
      (isSome_inBase t h)
    rw [← Config.isSome_lookup_table] at hsome
    refine iff_of_false (by simp [← Option.not_isSome_iff_eq_none, hsome]) ?_
    rintro ⟨inner, -, hinner, -⟩
    exact hreplaced ⟨inner, hinner⟩

theorem startsAsUrl_of_lookup (h : explorers.Valid) (hurl : explorers.lookup network = some url) :
    Config.StartsAsUrl url := by
  obtain ⟨before, after, hentries, -⟩ := List.lookup_eq_some_iff.mp hurl
  refine Config.isUrl_iff.mp (h (network, url) ?_).2
  rw [hentries]
  exact List.mem_append_right _ List.mem_cons_self

theorem valid_table (hload : Config.load env vars overrides = .ok x) (t : Config.RelayTable) :
    (x.relay.table t).Valid := by
  obtain ⟨entries, -, hcheck⟩ := bind_eq_ok_iff.mp hload
  obtain ⟨relay, logging, hx⟩ := Config.check_eq_ok_iff.mp hcheck
  exact hx.relay.valid t

theorem ne_empty_of_startsAsUrl (h : Config.StartsAsUrl url) : url ≠ "" := by
  rintro rfl
  rcases h with h | h <;> cases List.prefix_nil.mp h

/-- The relay table of a relay network among all tables. -/
def Relay.table : Relay → Config.RelayTable
  | .executor => .executorApi
  | .axelar => .axelarApi

theorem endpoints_eq_table (relay : Relay) :
    relay.endpoints settings = settings.table relay.table := by
  cases relay <;> rfl

theorem baseUrl_standard {relay : Relay}
    (hurl : (relay.endpoints settings).lookup network = some url) (hne : url ≠ "") :
    (Provider.standard relay).baseUrl settings (.text network) = .ok (trimSlashes url) := by
  have hendpoint : (Provider.standard relay).endpoint? settings (.text network) =
      some (.text url) := congrArg (Option.map Value.text) hurl
  have htruthy : (Value.text url).truthy = true := by simpa [Value.truthy] using hne
  simp only [Provider.baseUrl, hendpoint, Option.filter_some, htruthy, if_true]
  rfl

/-- Among web addresses, the explorer of a network is its own if it has one. -/
theorem explores_of_lookup {base : String} (hvalid : explorers.Valid)
    (hbase : (explorers.lookup network).or (explorers.lookup "Testnet") = some base) :
    Axelar.Explores explorers network base := by
  cases hown : explorers.lookup network with
  | some url =>
    rw [hown, Option.some_or, Option.some.injEq] at hbase
    subst hbase
    exact .own hown (ne_empty_of_startsAsUrl (startsAsUrl_of_lookup hvalid hown))
  | none =>
    rw [hown, Option.none_or] at hbase
    exact .standIn (by simp [hown]) hbase

/-- **No configuration that is accepted loses a public network, unless its overrides drop it.** A
relay table then has a web address for it, and the provider that takes all from the settings finds an
endpoint. Every network has a page for every transaction that can be shown: in its own explorer if it
has one, and else in that of `Testnet`, if this is not dropped. -/
theorem public_networks_kept {env : Option String} {vars : Config.Variables} {overrides : Value}
    {x : Config.Settings} (hkeys : overrides.HasDistinctKeys)
    (h : Config.load env vars overrides = .ok x) :
    (∀ (t : Config.RelayTable) (network : String), IsPublic network →
      ((∃ url, (x.relay.table t).lookup network = some url ∧ Config.StartsAsUrl url) ↔
        ¬ Drops overrides t network)) ∧
    (∀ (network tx : String) (v : Value), v.printed = .ok tx →
      (∃ own, x.relay.axelarExplorer.lookup network = some own) ∨
        ¬ Drops overrides .axelarExplorer "Testnet" →
      ∃ base, (x.relay.axelarExplorer.lookup network).or
          (x.relay.axelarExplorer.lookup "Testnet") = some base ∧
        Axelar.explorerUrl x.relay.axelarExplorer (.text network) v = .ok (Axelar.page base tx)) ∧
    (∀ (relay : Relay) (network : String), IsPublic network →
      ¬ Drops overrides relay.table network →
      ∃ url, (relay.endpoints x.relay).lookup network = some url ∧
        (Provider.standard relay).baseUrl x.relay (.text network) = .ok (trimSlashes url)) := by
  have hurl (t : Config.RelayTable) {network : String} (hnetwork : IsPublic network) :
      (∃ url, (x.relay.table t).lookup network = some url ∧ Config.StartsAsUrl url) ↔
        ¬ Drops overrides t network := by
    rw [← lookup_table_eq_none_iff hkeys h hnetwork, ← ne_eq, Option.ne_none_iff_exists']
    refine exists_congr fun url => and_iff_left_of_imp fun hlookup => ?_
    exact startsAsUrl_of_lookup (valid_table h t) hlookup
  refine ⟨fun t network => hurl t, ?_, ?_⟩
  · intro network tx v hv hbase
    have hexists : ∃ base, (x.relay.axelarExplorer.lookup network).or
        (x.relay.axelarExplorer.lookup "Testnet") = some base := by
      cases hown : x.relay.axelarExplorer.lookup network with
      | some own => exact ⟨own, rfl⟩
      | none =>
        have hkept := hbase.resolve_left (by simp [hown])
        obtain ⟨standIn, hstandIn, -⟩ := (hurl .axelarExplorer (.inr rfl)).mpr hkept
        exact ⟨standIn, hstandIn⟩
    obtain ⟨base, hbase⟩ := hexists
    have hexplores := explores_of_lookup (valid_table h .axelarExplorer) hbase
    exact ⟨base, hbase, Axelar.explorerUrl_eq_ok_iff.mpr ⟨base, tx, hexplores, hv, rfl⟩⟩
  · intro relay network hnetwork hkept
    obtain ⟨url, hlookup, hstart⟩ := (hurl relay.table hnetwork).mpr hkept
    rw [← endpoints_eq_table] at hlookup
    exact ⟨url, hlookup, baseUrl_standard hlookup (ne_empty_of_startsAsUrl hstart)⟩

end Kept

namespace Sample

/-! ## Overrides that leave out what they do not mention -/

/-- An explorer table without entries, and a relay table with a network of its own. -/
def partialOverrides : Value :=
  .map [("relay", .map [("axelar_explorer", .map []),
    ("axelar_api", .map [("Devnet", .text "http://d/")])])]

/-- What the overrides make of the settings of `development`. -/
def partialSettings : Config.Settings :=
  { Config.initialSettings with
    relay :=
      { Config.initialRelay with
        axelarApi := Config.initialRelay.axelarApi ++ [("Devnet", "http://d/")] } }

theorem load_partialOverrides :
    Config.load none [] partialOverrides = .ok partialSettings := by
  have hvalid : ∀ t, (partialSettings.relay.table t).Valid := by
    intro t
    cases t <;>
      simp [Config.Table.Valid, Config.RelaySettings.table, partialSettings, Config.initialRelay,
        Config.networks, Config.isUrl]
  have hmem : partialSettings.network ∈ Config.networks := by decide
  exact Config.load_of_check Config.environmentName_development rfl
    (Config.check_of_sections rfl rfl rfl hmem hvalid rfl rfl rfl)

theorem hasDistinctKeys_partialOverrides : partialOverrides.HasDistinctKeys := by
  let explorer := Value.putAt [] ["relay", "axelar_explorer"] (.map [])
  have hexplorer : (Value.map explorer).HasDistinctKeys :=
    Value.hasDistinctKeys_nil.putAt Value.hasDistinctKeys_nil
  have hboth : (Value.map (Value.putAt explorer ["relay", "axelar_api", "Devnet"]
      (.text "http://d/"))).HasDistinctKeys :=
    hexplorer.putAt (Value.hasDistinctKeys_of_leaf rfl)
  exact hboth

theorem not_drops_partialOverrides {t : Config.RelayTable} {network : String} :
    ¬ Drops partialOverrides t network := by
  rintro ⟨replacement, table, hview, -, -⟩
  cases hview

/-- The new network has an endpoint and no explorer, so that its pages are in the one of `Testnet`;
nothing is lost by the empty table. -/
theorem public_networks_kept_partial :
    partialOverrides.HasDistinctKeys ∧
    Config.load none [] partialOverrides = .ok partialSettings ∧
    (partialSettings.relay.axelarExplorer.lookup "Mainnet").isSome = true ∧
    Axelar.explorerUrl partialSettings.relay.axelarExplorer (.text "Devnet") (.text "0x1") =
      .ok "https://testnet.axelarscan.io/gmp/0x1" := by
  obtain ⟨htables, hpages, -⟩ :=
    public_networks_kept hasDistinctKeys_partialOverrides load_partialOverrides
  obtain ⟨url, hurl, -⟩ :=
    (htables .axelarExplorer "Mainnet" (.inl rfl)).mpr not_drops_partialOverrides
  obtain ⟨base, hbase, hpage⟩ :=
    hpages "Devnet" "0x1" (.text "0x1") rfl (.inr not_drops_partialOverrides)
  obtain rfl := Option.some.inj hbase
  refine ⟨hasDistinctKeys_partialOverrides, load_partialOverrides,
    Option.isSome_iff_exists.mpr ⟨url, hurl⟩, ?_⟩
  rw [hpage]
  exact congrArg Except.ok (by decide +kernel)

/-! ## Overrides that take networks out -/

/-- A view in the place of the relay section, with two tables of its own that have no entries. -/
def replacingOverrides : Value :=
  .map [("relay", .view [("executor_api", .map []), ("axelar_explorer", .map [])])]

/-- What they make of the settings of `development`: the other table is the default. -/
def replacedSettings : Config.Settings :=
  { Config.initialSettings with
    relay := { Config.initialRelay with executorApi := [], axelarExplorer := [] } }

theorem load_replacingOverrides :
    Config.load none [] replacingOverrides = .ok replacedSettings := by
  have hvalid : ∀ t, (replacedSettings.relay.table t).Valid := by
    intro t
    cases t <;>
      simp [Config.Table.Valid, Config.RelaySettings.table, replacedSettings, Config.initialRelay,
        Config.networks, Config.isUrl]
  refine Config.load_of_check Config.environmentName_development rfl (Config.check_eq_ok_iff.mpr
    ⟨[("executor_api", .map []), ("axelar_explorer", .map [])], Config.loggingDefaults, {
      env := rfl
      relay_section := rfl
      relay_known := by simp [Config.relayDefaults]
      logging_section := rfl
      logging_known := fun _ hentry => List.mem_map_of_mem hentry
      network := rfl
      network_mem := by decide
      relay := ⟨fun t => by cases t <;> rfl, hvalid, rfl, rfl⟩
      logging := rfl
      level_truthy := rfl
      format_truthy := rfl }⟩)

/-- An address with nothing after its start. -/
def hostlessOverrides : Value :=
  .map [("relay", .map [("executor_api", .map [("Mainnet", .text "http://")])])]

/-- What it makes of the settings of `development`. -/
def hostlessSettings : Config.Settings :=
  { Config.initialSettings with
    relay :=
      { Config.initialRelay with
        executorApi :=
          [("Mainnet", "http://"), ("Testnet", "https://executor-testnet.labsapis.com")] } }

theorem load_hostlessOverrides :
    Config.load none [] hostlessOverrides = .ok hostlessSettings := by
  have hvalid : ∀ t, (hostlessSettings.relay.table t).Valid := by
    intro t
    cases t <;>
      simp [Config.Table.Valid, Config.RelaySettings.table, hostlessSettings, Config.initialRelay,
        Config.networks, Config.isUrl]
  have hmem : hostlessSettings.network ∈ Config.networks := by decide
  exact Config.load_of_check Config.environmentName_development rfl
    (Config.check_of_sections rfl rfl rfl hmem hvalid rfl rfl rfl)

/-- **Not every accepted configuration keeps the public networks with an address.** A view takes
both out of two tables, and with them every page; and the start of an address is accepted for one,
though nothing can be asked there. -/
theorem public_networks_dropped :
    (Config.load none [] replacingOverrides = .ok replacedSettings ∧
      (∀ network, replacedSettings.relay.executorApi.lookup network = none) ∧
      (Provider.standard .executor).baseUrl replacedSettings.relay (.text "Mainnet") =
        .error (.noEndpoint .executor (.text "Mainnet")) ∧
      ∀ network : String, Axelar.explorerUrl replacedSettings.relay.axelarExplorer (.text network)
        (.text "0x1") = .error (.noExplorer "Testnet")) ∧
    Config.load none [] hostlessOverrides = .ok hostlessSettings ∧
    (Provider.standard .executor).baseUrl hostlessSettings.relay (.text "Mainnet") =
      .ok "http:" :=
  ⟨⟨load_replacingOverrides, fun _ => rfl, rfl, fun _ => rfl⟩, load_hostlessOverrides, by cbv⟩

end Sample

end TokenBridge.Tracking
