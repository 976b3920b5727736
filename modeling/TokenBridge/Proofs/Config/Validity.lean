import TokenBridge.Proofs.Config.Precedence
import TokenBridge.Proofs.Number.NotANumber

/-!
# What loaded settings promise

The check of settings is a list of refusals. What it leaves is said here without the check: the
network is a network, every entry of a relay table is a network with a web address, and there is a
level and a format (`Settings.Sound`).

The timeout is the exception. It is refused if it is zero or less, which a double that is no number
is not, so that **a loaded timeout is more than zero unless `nan` was asked for**
(`load_positive_iff`): by the overrides, or by the variable of the timeout where the overrides
neither mention it nor replace its section. No other text and no default makes such a timeout.
-/

namespace TokenBridge.Config

variable {v : Value} {env : Option String} {vars : Variables} {overrides : Value} {x : Settings}
  {url : String}

/-! ## Texts and tables -/

/-- The start of a web address. -/
def StartsAsUrl (url : String) : Prop :=
  "http://".toList <+: url.toList ∨ "https://".toList <+: url.toList

theorem isUrl_iff : isUrl url = true ↔ StartsAsUrl url := by
  simp only [isUrl, StartsAsUrl, Bool.or_eq_true, String.startsWith_string_iff]

/-- A network, a web address for every entry of a relay table, and something to log by. -/
structure Settings.Sound (x : Settings) : Prop where
  network : x.network = "Mainnet" ∨ x.network = "Testnet" ∨ x.network = "Devnet"
  table (t : RelayTable) (network url : String) : (network, url) ∈ x.relay.table t →
    (network = "Mainnet" ∨ network = "Testnet" ∨ network = "Devnet") ∧ StartsAsUrl url
  level : x.logging.level.truthy = true
  format : x.logging.format.truthy = true

theorem mem_networks_iff {network : String} : network ∈ networks ↔
    network = "Mainnet" ∨ network = "Testnet" ∨ network = "Devnet" := by
  simp [networks]

theorem sound_of_load (h : load env vars overrides = .ok x) : x.Sound := by
  obtain ⟨entries, -, hcheck⟩ := bind_eq_ok_iff.mp h
  obtain ⟨relay, logging, hx⟩ := check_eq_ok_iff.mp hcheck
  refine ⟨mem_networks_iff.mp hx.network_mem, ?_, hx.level_truthy, hx.format_truthy⟩
  intro t network url hentry
  obtain ⟨hnetwork, hurl⟩ := hx.relay.valid t (network, url) hentry
  exact ⟨mem_networks_iff.mp hnetwork, isUrl_iff.mp hurl⟩

/-! ## The timeout -/

/-- What is not zero or less is more than zero or no number. -/
theorem atMostZero?_eq_false_iff : atMostZero? v = some false ↔ v.IsPositive ∨ v.IsNaN := by
  cases v with
  | float y =>
    have hpositive : (Value.float y).IsPositive ↔ y.isNaN = false ∧ y.isAtMostZero = false := by
      rw [← Quantity.zero_less_double_iff]
      simp [Value.IsPositive, Value.quantity?]
    have hnan : (Value.float y).IsNaN ↔ y.isNaN = true := by simp [Value.IsNaN]
    rw [hpositive, hnan]
    simp only [atMostZero?, Option.some.injEq]
    cases hy : y.isNaN with
    | true => simp [Binary64.isAtMostZero, hy]
    | false => simp
  | _ => simp [atMostZero?, Value.IsPositive, Value.IsNaN, Value.quantity?, Value.int?,
      Value.strictInt?, Nat.pos_iff_ne_zero]

/-- The variable of the timeout says `nan`. -/
def VariableSaysNaN (vars : Variables) : Prop :=
  ∃ text, vars.lookup "NTT_RELAY_TIMEOUT" = some text ∧ Number.SaysNaN text.toList

/-- The timeout is asked to be `nan`: by the overrides, or by its variable where they neither mention
the timeout nor replace its section. -/
def AsksForNaN (overrides : Value) (vars : Variables) : Prop :=
  match overrides.find? Setting.timeout.path with
  | some v => v.IsNaN
  | none => ¬ Replaces overrides "relay" ∧ VariableSaysNaN vars

theorem inVariables_timeout_eq_some_iff : Setting.timeout.inVariables vars = some v ↔
    ∃ text y, vars.lookup "NTT_RELAY_TIMEOUT" = some text ∧ Number.float? text.toList = some y ∧
      v = .float y := by
  have hread (text : String) : (readVariable "NTT_RELAY_TIMEOUT" .asNumber text).toOption =
      (Number.float? text.toList).map .float := by
    unfold readVariable
    cases Number.float? text.toList <;> rfl
  show ((vars.lookup "NTT_RELAY_TIMEOUT").bind fun text =>
    (readVariable "NTT_RELAY_TIMEOUT" .asNumber text).toOption) = some v ↔ _
  simp only [hread, Option.bind_eq_some_iff, Option.map_eq_some_iff]
  constructor
  · rintro ⟨text, htext, y, hy, rfl⟩
    exact ⟨text, y, htext, hy, rfl⟩
  · rintro ⟨text, y, htext, hy, rfl⟩
    exact ⟨text, htext, y, hy, rfl⟩

theorem isNaN_inVariables_iff (h : Setting.timeout.inVariables vars = some v) :
    v.IsNaN ↔ VariableSaysNaN vars := by
  obtain ⟨text, y, htext, hy, rfl⟩ := inVariables_timeout_eq_some_iff.mp h
  constructor
  · intro hnan
    obtain ⟨z, hz, hnan⟩ := hnan
    obtain rfl := Value.float.inj hz
    exact ⟨text, htext, Number.saysNaN_of_float? hy hnan⟩
  · intro hsays
    obtain ⟨other, hother, hsays⟩ := hsays
    obtain rfl := Option.some.inj (htext.symm.trans hother)
    have hsame : y = .nan := Option.some.inj (hy.symm.trans (Number.float?_of_saysNaN hsays))
    exact ⟨y, rfl, hsame ▸ Binary64.isNaN_nan⟩

theorem not_variableSaysNaN (h : Setting.timeout.inVariables vars = none) :
    ¬ VariableSaysNaN vars := by
  intro hsays
  obtain ⟨text, htext, hsays⟩ := hsays
  have hsome := inVariables_timeout_eq_some_iff.mpr
    ⟨text, _, htext, Number.float?_of_saysNaN hsays, rfl⟩
  rw [h] at hsome
  cases hsome

theorem not_isNaN_seconds {n : Nat} : ¬ (seconds n).IsNaN := by
  intro h
  obtain ⟨y, hy, hnan⟩ := h
  obtain rfl := Value.float.inj hy
  rw [Binary64.isNaN_ofDecimal] at hnan
  cases hnan

/-- The defaults of every environment give it a number of seconds. -/
theorem exists_seconds_default (name : String) :
    ∃ n, (Setting.timeout.inEnvironment name).or Setting.timeout.inBase = some (seconds n) := by
  unfold Setting.inEnvironment environmentDefaults
  split
  · exact ⟨2, rfl⟩
  · split
    · exact ⟨15, rfl⟩
    · exact ⟨10, rfl⟩

/-- Where the relay section is not replaced, the overrides mention a timeout in maps only. -/
theorem find?_timeout (hkept : ¬ Replaces overrides "relay") :
    overrides.find? Setting.timeout.path =
      (Value.map (overrideEntries overrides)).at? Setting.timeout.path := by
  have hpath : Setting.timeout.path = ["relay"] ++ ["request_timeout"] := rfl
  rw [hpath, Value.find?_append, ← lookup_overrideEntries, Value.at?_append, Value.at?_map_cons]
  cases hrelay : (overrideEntries overrides).lookup "relay" with
  | none => rfl
  | some w =>
    rw [Option.bind_some, Option.bind_some]
    cases w with
    | view inner => exact absurd ⟨inner, lookup_overrideEntries.symm.trans hrelay⟩ hkept
    | _ => rfl

theorem isNaN_settled_iff {name : String} (hkept : ¬ Replaces overrides "relay")
    (h : Setting.timeout.settled (.map (overrideEntries overrides)) vars name = some v) :
    v.IsNaN ↔ AsksForNaN overrides vars := by
  unfold Setting.settled at h
  unfold AsksForNaN
  rw [find?_timeout hkept]
  cases hoverrides : (Value.map (overrideEntries overrides)).at? Setting.timeout.path with
  | some w =>
    rw [hoverrides] at h
    obtain rfl := Option.some.inj h
    rfl
  | none =>
    rw [hoverrides, Option.none_or] at h
    simp only [hkept, not_false_eq_true, true_and]
    cases hvariable : Setting.timeout.inVariables vars with
    | some w =>
      rw [hvariable] at h
      obtain rfl := Option.some.inj h
      exact isNaN_inVariables_iff hvariable
    | none =>
      obtain ⟨n, hdefault⟩ := exists_seconds_default name
      rw [hvariable, Option.none_or, hdefault] at h
      obtain rfl := Option.some.inj h
      exact iff_of_false not_isNaN_seconds (not_variableSaysNaN hvariable)

/-- A relay section in the place of the one that is merged is all that its settings come from. -/
theorem relay_section_of_replaced {inner entries relay logging : Value.Entries} {name : String}
    (hkeys : overrides.HasDistinctKeys) (hlayered : layered name vars overrides = .ok entries)
    (hx : x.ComeFrom name entries relay logging)
    (hinner : overrides.find? ["relay"] = some (.view inner)) : relay = inner := by
  have hsection := hx.relay_section
  rw [(lookup_layered_eq_view_iff hkeys hlayered).mpr hinner] at hsection
  exact (Option.some.inj hsection).symm

theorem isNaN_timeout_iff (hkeys : overrides.HasDistinctKeys)
    (h : load env vars overrides = .ok x) :
    x.relay.requestTimeout.IsNaN ↔ AsksForNaN overrides vars := by
  by_cases hreplaced : Replaces overrides "relay"
  · obtain ⟨inner, hinner⟩ := hreplaced
    obtain ⟨entries, hlayered, hcheck⟩ := bind_eq_ok_iff.mp h
    obtain ⟨relay, logging, hx⟩ := check_eq_ok_iff.mp hcheck
    obtain rfl := relay_section_of_replaced hkeys hlayered hx hinner
    have hfind : overrides.find? Setting.timeout.path = relay.lookup "request_timeout" := by
      have hpath : Setting.timeout.path = ["relay"] ++ ["request_timeout"] := rfl
      rw [hpath, Value.find?_append, hinner]
      exact Option.bind_fun_some _
    have htimeout := hx.timeout_eq
    unfold AsksForNaN
    rw [hfind]
    cases hown : relay.lookup "request_timeout" with
    | some v =>
      rw [hown, Option.some_or] at htimeout
      rw [Option.some.inj htimeout]
    | none =>
      rw [hown, Option.none_or] at htimeout
      rw [Option.some.inj htimeout]
      refine iff_of_false not_isNaN_seconds ?_
      rintro ⟨hkept, -⟩
      exact hkept ⟨relay, hinner⟩
  · have hsettled := get?_of_load (y := .timeout) hkeys hreplaced h
    exact isNaN_settled_iff hreplaced hsettled.symm

/-- **Loaded settings are sound, and their timeout is more than zero exactly if it was not asked to
be `nan`.** -/
theorem load_positive_iff (hkeys : overrides.HasDistinctKeys)
    (h : load env vars overrides = .ok x) :
    x.Sound ∧ (x.relay.requestTimeout.IsPositive ↔ ¬ AsksForNaN overrides vars) := by
  refine ⟨sound_of_load h, ?_⟩
  rw [← isNaN_timeout_iff hkeys h]
  obtain ⟨entries, -, hcheck⟩ := bind_eq_ok_iff.mp h
  obtain ⟨relay, logging, hx⟩ := check_eq_ok_iff.mp hcheck
  constructor
  · intro hpositive hnan
    exact Value.not_isPositive_of_isNaN hnan hpositive
  · intro hnumber
    rcases atMostZero?_eq_false_iff.mp hx.relay.timeout_positive with hpositive | hnan
    · exact hpositive
    · exact absurd hnan hnumber

namespace Sample

/-- The settings of `development` with a timeout of their own. -/
def withTimeout (timeout : Binary64) : Settings :=
  { initialSettings with
    relay := { initialSettings.relay with requestTimeout := .float timeout } }

/-- A timeout that a variable says is loaded, if it is not zero or less. -/
theorem load_timeout {text : String} {timeout : Binary64}
    (hread : Number.float? text.toList = some timeout) (htimeout : timeout.isAtMostZero = false) :
    load none [("NTT_RELAY_TIMEOUT", text)] .null = .ok (withTimeout timeout) := by
  have hname : environmentName none [("NTT_RELAY_TIMEOUT", text)] = "development" := by
    show Text.lowercase "development" = "development"
    decide +kernel
  have hvariables : variableLayer [("NTT_RELAY_TIMEOUT", text)] =
      .ok [("relay", .map [("request_timeout", .float timeout)])] := by
    have hvalue : readVariable "NTT_RELAY_TIMEOUT" .asNumber text = .ok (.float timeout) := by
      rw [readVariable, hread]
    show (readVariable "NTT_RELAY_TIMEOUT" .asNumber text >>= _) = _
    rw [hvalue]
    rfl
  -- the tables are those of the defaults
  have hvalid : ∀ t, ((withTimeout timeout).relay.table t).Valid := by
    intro t
    have htable : (withTimeout timeout).relay.table t = initialRelay.table t := by cases t <;> rfl
    rw [htable]
    exact valid_initialRelay t
  have hmem : (withTimeout timeout).network ∈ networks := by
    show "Testnet" ∈ networks
    decide
  have hpositive : atMostZero? (withTimeout timeout).relay.requestTimeout = some false :=
    congrArg some htimeout
  exact load_of_check hname (bind_eq_ok_iff.mpr ⟨_, hvariables, rfl⟩)
    (check_of_sections rfl rfl rfl hmem hvalid hpositive rfl rfl)

/-- No end to the waiting is more than zero. -/
theorem load_positive_inf :
    load none [("NTT_RELAY_TIMEOUT", " +Infinity ")] .null = .ok (withTimeout (.infinity false)) ∧
    (Value.float (.infinity false)).IsPositive := by
  have hread : Number.float? " +Infinity ".toList = some (.infinity false) := by decide +kernel
  have hload := load_timeout hread (by decide)
  have hasked : ¬ AsksForNaN .null [("NTT_RELAY_TIMEOUT", " +Infinity ")] := by
    intro h
    obtain ⟨-, text, htext, hsays⟩ := h
    obtain rfl := Option.some.inj htext
    have hnan := Option.some.inj (hread.symm.trans (Number.float?_of_saysNaN hsays))
    exact absurd hnan (by decide)
  exact ⟨hload, (load_positive_iff hasDistinctKeys_null hload).2.mpr hasked⟩

/-- A variable that says `nan` gives a timeout that is loaded and not more than zero. -/
theorem load_nan :
    load none [("NTT_RELAY_TIMEOUT", "nan")] .null = .ok (withTimeout .nan) ∧
    ¬ (withTimeout .nan).relay.requestTimeout.IsPositive := by
  have hread : Number.float? "nan".toList = some .nan := by decide +kernel
  refine ⟨load_timeout hread (by decide), Value.not_isPositive_of_isNaN ?_⟩
  exact ⟨.nan, rfl, Binary64.isNaN_nan⟩

end Sample

end TokenBridge.Config
