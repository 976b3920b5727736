import TokenBridge.Config.Settings
import TokenBridge.Number.Reading

/-!
# Layers of settings

Where settings come from. The base defaults are overlaid by the defaults of an environment, these by
the variables of the process, and these by the overrides of the caller; each layer changes only the
leaves that it mentions.
-/

namespace TokenBridge.Config

/-- The variables of the process. -/
abbrev Variables := List (String × String)

/-- The settings of every environment before anything is laid over them. -/
def baseDefaults : Value.Entries :=
  [("network", .text "Testnet"), ("relay", .map relayDefaults), ("logging", .map loggingDefaults)]

/-- What an environment lays over the base defaults; an unknown one lays nothing. -/
def environmentDefaults (env : String) : Value.Entries :=
  let layer (network level : String) (timeout : Nat) : Value.Entries :=
    [("network", .text network), ("logging", .map [("level", .text level)]),
      ("relay", .map [("request_timeout", seconds timeout)])]
  if env = "test" then layer "Devnet" "DEBUG" 2
  else if env = "production" then layer "Mainnet" "WARNING" 15
  else []

/-- How the text of a variable is read. -/
inductive Reading where
  | asText
  | asNumber
deriving DecidableEq, Repr

/-- The variables that carry settings, with the path of the setting and how the text is read. -/
def variablePaths : List (String × List String × Reading) :=
  [("NTT_NETWORK", ["network"], .asText),
    ("NTT_EXECUTOR_MAINNET_URL", ["relay", "executor_api", "Mainnet"], .asText),
    ("NTT_EXECUTOR_TESTNET_URL", ["relay", "executor_api", "Testnet"], .asText),
    ("NTT_AXELAR_MAINNET_URL", ["relay", "axelar_api", "Mainnet"], .asText),
    ("NTT_AXELAR_TESTNET_URL", ["relay", "axelar_api", "Testnet"], .asText),
    ("NTT_RELAY_TIMEOUT", ["relay", "request_timeout"], .asNumber),
    ("NTT_LOG_LEVEL", ["logging", "level"], .asText),
    ("NTT_LOG_FORMAT", ["logging", "format"], .asText),
    ("NTT_LOG_DATEFMT", ["logging", "datefmt"], .asText)]

/-- The value of a variable's text. -/
def readVariable (name : String) (reading : Reading) (text : String) : Except Fault Value :=
  match reading with
  | .asText => .ok (.text text)
  | .asNumber =>
    match Number.float? text.toList with
    | some x => .ok (.float x)
    | none => .error (.notANumber name text)

/-- What some variables lay over the defaults, put over what is already there. -/
def layVariables (vars : Variables) :
    List (String × List String × Reading) → Value.Entries → Except Fault Value.Entries
  | [], layer => .ok layer
  | (name, path, reading) :: rest, layer =>
    match vars.lookup name with
    | none => layVariables vars rest layer
    | some text => do
      let v ← readVariable name reading text
      layVariables vars rest (Value.putAt layer path v)

/-- What the variables of the process lay over the defaults. -/
def variableLayer (vars : Variables) : Except Fault Value.Entries :=
  layVariables vars variablePaths []

/-- What the overrides of a caller lay over all else; an override that counts as false is none. -/
def overrideLayer (overrides : Value) : Except Fault Value.Entries :=
  if !overrides.truthy then .ok []
  else match overrides.entries? with
    | some entries => .ok entries
    | none => .error .notOverrides

/-- All layers in one tree. -/
def layered (env : String) (vars : Variables) (overrides : Value) :
    Except Fault Value.Entries := do
  let fromVariables ← variableLayer vars
  let fromCaller ← overrideLayer overrides
  .ok (Value.merge (Value.merge (Value.merge baseDefaults (environmentDefaults env)) fromVariables)
    fromCaller)

end TokenBridge.Config
