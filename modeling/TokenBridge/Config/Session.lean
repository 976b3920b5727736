import TokenBridge.Config.Layers
import TokenBridge.Text.Lowercase

/-!
# Loading settings

Loading the settings of an environment, and the session that holds the settings in use. A session
also hands out the network, the timeout and the logging settings on their own; reloading replaces
all of them together, and a reload that fails replaces nothing.
-/

namespace TokenBridge.Config

/-- The name of the environment to load: the one asked for, or else the one that the variables name,
or else `development`; in lower case. The empty name asks for none. -/
def environmentName (env : Option String) (vars : Variables) : String :=
  Text.lowercase <|
    match env with
    | some name => if name.isEmpty then (vars.lookup "NTT_ENV").getD "development" else name
    | none => (vars.lookup "NTT_ENV").getD "development"

/-- The name of the environment that a reload asks for, where the one in use is kept if there is
none. -/
def nameOrKept (env : Option String) (kept : String) : String :=
  match env with
  | some name => if name.isEmpty then kept else name
  | none => kept

/-- The settings of an environment under the variables of the process and the overrides of the
caller. -/
def load (env : Option String) (vars : Variables) (overrides : Value) :
    Except Fault Settings := do
  let name := environmentName env vars
  let entries ← layered name vars overrides
  check name entries

/-- The settings in use, with those that are also handed out on their own. -/
structure Session where
  settings : Settings
  network : String
  relayTimeout : Value
  logging : LoggingSettings

namespace Session

/-- The session that uses the given settings. -/
def ofSettings (settings : Settings) : Session where
  settings
  network := settings.network
  relayTimeout := settings.relay.requestTimeout
  logging := settings.logging

/-! ### Reloading -/

/-- The settings in use are handed out on their own. -/
def handOut (current : Settings) : EStateM Fault Session Unit := do
  modify fun session => { session with network := current.network }
  modify fun session => { session with relayTimeout := current.relay.requestTimeout }
  modify fun session => { session with logging := current.logging }

/-- A reload, step by step; it answers the new settings. A step that fails would leave what was
replaced before it. -/
def reloading (env : Option String) (vars : Variables) (overrides : Value) :
    EStateM Fault Session Settings := do
  let kept := (← get).settings.env
  let settings ← MonadExcept.ofExcept (load (some (nameOrKept env kept)) vars overrides)
  modify fun session => { session with settings }
  handOut settings
  return settings

/-- The session after a reload that succeeds. -/
def reload (session : Session) (env : Option String) (vars : Variables) (overrides : Value) :
    Except Fault Session :=
  match (reloading env vars overrides).run session with
  | .ok _ next => .ok next
  | .error fault _ => .error fault

/-- The settings handed out: the environment, the network, the timeout, and the logging settings. -/
def exports (session : Session) : Value :=
  .list
    [.text session.settings.env, .text session.network, session.relayTimeout,
      .list [session.logging.level, session.logging.format, session.logging.datefmt]]

end Session

/-- The public tables of relays. -/
def initialRelay : RelaySettings where
  executorApi :=
    [("Mainnet", "https://executor.labsapis.com"),
      ("Testnet", "https://executor-testnet.labsapis.com")]
  axelarApi :=
    [("Mainnet", "https://api.axelarscan.io"), ("Testnet", "https://testnet.api.axelarscan.io")]
  axelarExplorer :=
    [("Mainnet", "https://axelarscan.io"), ("Testnet", "https://testnet.axelarscan.io")]
  requestTimeout := seconds 10

/-- The settings of the environment `development` without variables and overrides. -/
def initialSettings : Settings where
  env := "development"
  network := "Testnet"
  relay := initialRelay
  logging :=
    { level := .text "INFO"
      format := .text "%(asctime)s %(levelname)s [%(name)s] %(message)s"
      datefmt := .text "%Y-%m-%d %H:%M:%S" }

/-- The session before anything was loaded. -/
def Session.initial : Session := .ofSettings initialSettings

end TokenBridge.Config
