import TokenBridge.ErrorKind
import TokenBridge.Value.Display
import TokenBridge.Value.Entries

/-!
# Settings

The settings of the library as checked values, and the check that makes them from a tree of entries.
A relay table maps networks to web addresses; the timeout is a number of any kind; how log lines
look may be of any kind as long as it is there.

A section is a map or a view of its settings, and has defaults of its own for those that it does not
mention. A relay table can only be a map.
-/

namespace TokenBridge.Config

/-- The networks that settings can name. -/
def networks : List String := ["Mainnet", "Testnet", "Devnet"]

/-- The web addresses of a relay by network. -/
abbrev Table := List (String × String)

/-- Where relays are found, and how long they may take to answer. -/
structure RelaySettings where
  executorApi : Table
  axelarApi : Table
  axelarExplorer : Table
  requestTimeout : Value

/-- How log lines look and which are written. -/
structure LoggingSettings where
  level : Value
  format : Value
  datefmt : Value

/-- The settings of an environment. -/
structure Settings where
  env : String
  network : String
  relay : RelaySettings
  logging : LoggingSettings

/-- Why settings cannot be used. -/
inductive Fault where
  /-- A variable whose text is not the number that it should be. -/
  | notANumber (name text : String)
  /-- A network that settings cannot name. -/
  | unknownNetwork (network : Value)
  /-- A relay table that is not a map. -/
  | notATable (table : String)
  /-- A relay table with a network that settings cannot name. -/
  | unknownTableNetwork (table network : String)
  /-- A web address that is not one. -/
  | invalidUrl (table network : String) (url : Value)
  /-- A timeout that leaves no time. -/
  | timeoutNotPositive (timeout : Value)
  /-- No level for log lines. -/
  | levelMissing
  /-- No format for log lines. -/
  | formatMissing
  /-- A section that is not a map of its settings, or a timeout that is no number. -/
  | wrongKind
  /-- Overrides that are not a map. -/
  | notOverrides

namespace Fault

/-- What the message of a fault shows of a value. -/
def shown : Fault → Except Number.DigitFault String
  | unknownNetwork network => network.shown
  | invalidUrl _ _ url => url.shown
  | timeoutNotPositive timeout => timeout.printed
  | _ => .ok ""

/-- The family that a fault is meant to belong to. -/
def family : Fault → ErrorKind
  | wrongKind => .wrongKind
  | notOverrides => .missingMember
  | _ => .configuration

/-- The family of a fault. -/
def kind (fault : Fault) : ErrorKind := Number.kindShowing fault.shown fault.family

/-- The networks as a message shows them. -/
def networksText : String := (Value.tuple (networks.map .text)).display

/-- The wording of a fault that shows something. -/
def wording (shown : String) : Fault → String
  | notANumber name text =>
    s!"Failed to coerce environment variable {name}: could not convert string to float: " ++
      Text.quoted text
  | unknownNetwork _ => "Unknown network " ++ shown ++ "; expected one of " ++ networksText ++ "."
  | notATable table => s!"Relay '{table}' must be a mapping of network to URL."
  | unknownTableNetwork table network =>
    s!"Relay '{table}' has unknown network " ++ Text.quoted network ++ "."
  | invalidUrl table network _ => s!"Relay '{table}' URL for {network} is invalid: " ++ shown
  | timeoutNotPositive _ => "Relay request_timeout must be greater than zero (got " ++ shown ++ ")."
  | levelMissing => "Logging level must be provided."
  | formatMissing => "Logging format must be provided."
  | wrongKind => "the section is not a map of its settings"
  | notOverrides => "the overrides are not a map"

/-- The message of a fault. -/
def message (fault : Fault) : String :=
  Number.messageShowing fault.shown fun shown => fault.wording shown

end Fault

/-! ## Checking -/

/-- The start of a text that makes it a web address. -/
def isUrl (url : String) : Bool :=
  url.startsWith "http://" || url.startsWith "https://"

/-- The relay table that entries are. The first bad entry decides. -/
def checkEntries (table : String) : Value.Entries → Except Fault Table
  | [] => .ok []
  | (network, url) :: rest =>
    if !networks.contains network then .error (.unknownTableNetwork table network)
    else
      match url with
      | .text s =>
        if isUrl s then do
          let others ← checkEntries table rest
          .ok ((network, s) :: others)
        else .error (.invalidUrl table network url)
      | _ => .error (.invalidUrl table network url)

/-- The relay table that a value is. -/
def checkTable (table : String) : Value → Except Fault Table
  | .map entries => checkEntries table entries
  | _ => .error (.notATable table)

/-- Whether a number is zero or less; only a number can be. -/
def atMostZero? : Value → Option Bool
  | .float x => some x.isAtMostZero
  | v => v.int?.map fun n => decide (n ≤ 0)

/-- A timeout that leaves time. -/
def checkTimeout (timeout : Value) : Except Fault Value :=
  match atMostZero? timeout with
  | none => .error .wrongKind
  | some true => .error (.timeoutNotPositive timeout)
  | some false => .ok timeout

/-- The network that a value names. -/
def checkNetwork : Value → Except Fault String
  | .text s => if networks.contains s then .ok s else .error (.unknownNetwork (.text s))
  | v => .error (.unknownNetwork v)

/-! ### Sections -/

/-- A whole number of seconds. -/
def seconds (n : Nat) : Value := .float (.ofDecimal false n 0)

/-- A relay table of the two public networks. -/
def publicTable (mainnet testnet : String) : Value :=
  .map [("Mainnet", .text mainnet), ("Testnet", .text testnet)]

/-- The settings of the relay section with their defaults. -/
def relayDefaults : Value.Entries :=
  [("executor_api", publicTable "https://executor.labsapis.com"
      "https://executor-testnet.labsapis.com"),
    ("axelar_api", publicTable "https://api.axelarscan.io" "https://testnet.api.axelarscan.io"),
    ("axelar_explorer", publicTable "https://axelarscan.io" "https://testnet.axelarscan.io"),
    ("request_timeout", seconds 10)]

/-- The settings of the logging section with their defaults. -/
def loggingDefaults : Value.Entries :=
  [("level", .text "INFO"),
    ("format", .text "%(asctime)s %(levelname)s [%(name)s] %(message)s"),
    ("datefmt", .text "%Y-%m-%d %H:%M:%S")]

/-- Every setting of a section, with its default if the section does not mention it. -/
def withDefaults (defaults entries : Value.Entries) : Value.Entries :=
  defaults.map fun setting => (setting.1, (entries.lookup setting.1).getD setting.2)

/-- The settings of a section, which must have no other keys than the known ones. -/
def sectionSettings (defaults : Value.Entries) (found : Option Value) :
    Except Fault Value.Entries :=
  match found.bind Value.entries? with
  | some entries =>
    if entries.all fun entry => (defaults.map (·.1)).contains entry.1 then
      .ok (withDefaults defaults entries)
    else .error .wrongKind
  | none => .error .wrongKind

/-- The relay settings of a section. -/
def checkRelay (entries : Value.Entries) : Except Fault RelaySettings := do
  let entry (key : String) : Value := (entries.lookup key).getD .null
  let executorApi ← checkTable "executor_api" (entry "executor_api")
  let axelarApi ← checkTable "axelar_api" (entry "axelar_api")
  let axelarExplorer ← checkTable "axelar_explorer" (entry "axelar_explorer")
  let requestTimeout ← checkTimeout (entry "request_timeout")
  .ok { executorApi, axelarApi, axelarExplorer, requestTimeout }

/-- The logging settings of a section, not checked. -/
def loggingOf (entries : Value.Entries) : LoggingSettings :=
  let entry (key : String) : Value := (entries.lookup key).getD .null
  { level := entry "level", format := entry "format", datefmt := entry "datefmt" }

/-- Logging settings with a level and a format. -/
def checkLogging (x : LoggingSettings) : Except Fault LoggingSettings :=
  if !x.level.truthy then .error .levelMissing
  else if !x.format.truthy then .error .formatMissing
  else .ok x

/-- The settings that a tree of entries makes in an environment. The sections are judged before what
is in them; then the network, the relay tables, the timeout and the logging settings, in this
order. -/
def check (env : String) (entries : Value.Entries) : Except Fault Settings := do
  let relaySection ← sectionSettings relayDefaults (entries.lookup "relay")
  let loggingSection ← sectionSettings loggingDefaults (entries.lookup "logging")
  let network ← checkNetwork ((entries.lookup "network").getD .null)
  let relay ← checkRelay relaySection
  let logging ← checkLogging (loggingOf loggingSection)
  .ok { env, network, relay, logging }

/-! ## Summaries -/

mutual

/-- A copy of a value as plain data: the domain's own values in it are maps of their parts. There is
no copy of a view. -/
def plain : Value → Except Fault Value
  | .list items => return .list (← plainItems items)
  | .tuple items => return .tuple (← plainItems items)
  | .map entries => return .map (← plainEntries entries)
  | .view _ => .error .wrongKind
  | .variant name value => return .map [("name", .text name), ("value", ← plain value)]
  | .trimmed amount decimals =>
    return .map [("amount", ← plain amount), ("decimals", ← plain decimals)]
  | .signature guardianIndex r s recoveryId =>
    return .map
      [("guardian_index", ← plain guardianIndex), ("r", ← plain r), ("s", ← plain s),
        ("recovery_id", ← plain recoveryId)]
  | .attestation version guardianSet signatures body =>
    return .map
      [("version", ← plain version), ("guardian_set_index", ← plain guardianSet),
        ("signatures", .tuple (← plainItems signatures)), ("body", ← plain body)]
  | .statusRecord status failed message url explorer =>
    return .map
      [("status", ← plain status), ("failed", ← plain failed), ("message", ← plain message),
        ("url", ← plain url), ("explorer", ← plain explorer)]
  | v => return v

/-- Copies of some values as plain data. -/
def plainItems : List Value → Except Fault (List Value)
  | [] => return []
  | v :: rest => return (← plain v) :: (← plainItems rest)

/-- A copy of the entries of a map as plain data. -/
def plainEntries : Value.Entries → Except Fault Value.Entries
  | [] => return []
  | (key, v) :: rest => return (key, ← plain v) :: (← plainEntries rest)

end

/-- A relay table as a value. -/
def tableValue (table : Table) : Value := .map (table.map fun entry => (entry.1, .text entry.2))

/-- The settings as a value. -/
def Settings.summary (x : Settings) : Except Fault Value := do
  let relay :=
    .map
      [("executor_api", tableValue x.relay.executorApi),
        ("axelar_api", tableValue x.relay.axelarApi),
        ("axelar_explorer", tableValue x.relay.axelarExplorer),
        ("request_timeout", x.relay.requestTimeout)]
  let logging :=
    .map
      [("level", ← plain x.logging.level), ("format", ← plain x.logging.format),
        ("datefmt", ← plain x.logging.datefmt)]
  return .map
    [("env", .text x.env), ("network", .text x.network), ("relay", relay), ("logging", logging)]

end TokenBridge.Config
