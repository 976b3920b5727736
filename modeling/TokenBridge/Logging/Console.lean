import TokenBridge.Log
import TokenBridge.Logging.Clock
import TokenBridge.Logging.Level
import TokenBridge.Logging.Template

/-!
# The console

Where log lines go. Configuring the console installs one handler in place of all others, sets the
loggers of the library to the level asked for, and holds everyone else at warnings; at last it
reports the level. One that is not forced does nothing to a console that is already configured.
-/

namespace TokenBridge.Logging

/-- The loggers of the library. -/
def projectLoggers : List String := ["layout", "ntt", "vaa", "tracking", "config"]

/-- The loggers of the libraries underneath. -/
def thirdPartyLoggers : List String := ["httpx", "httpcore", "hpack", "trio", "asyncio"]

/-- A handler: the template of its lines and their date format. -/
structure Handler where
  format : String
  datefmt : Value

/-- The state of logging: whether it was configured, the handlers of the root logger, the root
logger's level, and the level that each other logger has of its own, where zero stands for none. -/
structure Console where
  configured : Bool
  handlers : List Handler
  rootLevel : Level
  ownLevel : String → Level

/-- The console before it was configured. -/
def Console.initial : Console := ⟨false, [], warning, fun _ => .number 0⟩

/-- Why the console cannot be configured. -/
inductive Fault where
  /-- A template without a place. -/
  | invalidFormat (format : String)
  /-- A template that is no text. -/
  | formatNotText
  /-- A setting that logging does not have. -/
  | unknownSetting
  /-- A level of too many digits to be shown. -/
  | digits (fault : Number.DigitFault)
deriving DecidableEq, Repr

/-- The family of a fault. -/
def Fault.kind : Fault → ErrorKind
  | .invalidFormat _ => .invalidValue
  | .formatNotText | .unknownSetting => .wrongKind
  | .digits fault => fault.kind

/-- The wording of a fault. -/
def Fault.message : Fault → String
  | .invalidFormat format => s!"Invalid format '{format}' for '%' style"
  | .formatNotText => "the format is no text"
  | .unknownSetting => "logging has no such setting"
  | .digits fault => fault.message

/-- A record: who logs, at which level and what, and the pattern and the texts that the message is
made of. -/
structure Record where
  logger : String
  level : Int
  message : String
  pattern : String := message
  args : List String := []

/-! ## Settings -/

/-- What a caller asks of the console. -/
structure Request where
  level : Value
  format : Value
  datefmt : Value

/-- The template of a handler without a format. -/
def bareFormat : String := "%(message)s"

/-- The format of log lines when nothing else is said. -/
def defaultFormat : String := "%(asctime)s %(levelname)s [%(name)s] %(message)s"

/-- The date format of log lines when nothing else is said. -/
def defaultDatefmt : String := "%Y-%m-%d %H:%M:%S"

/-- What settings of any kind ask for: a map by its entries; a text has a format of its own, which
is not one that can be used; anything else asks for nothing. -/
def Request.ofValue : Value → Request
  | .map entries =>
    let entry (key : String) : Value := (entries.lookup key).getD .null
    ⟨entry "level", entry "format", entry "datefmt"⟩
  | .text _ => ⟨.null, .bool true, .null⟩
  | _ => ⟨.null, .null, .null⟩

/-- What the logging settings of a configuration ask for. -/
def Request.ofSettings (x : Config.LoggingSettings) : Request := ⟨x.level, x.format, x.datefmt⟩

/-- Logging settings with some of the defaults replaced. -/
def settingsOf (entries : Value.Entries) : Except Fault Config.LoggingSettings :=
  ((Config.sectionSettings Config.loggingDefaults (some (.map entries))).map
    Config.loggingOf).mapError fun _ => .unknownSetting

/-- A setting, or else the variable of the process, or else the default. -/
def orVariable (v : Value) (vars : Config.Variables) (name default : String) : Value :=
  if v.truthy then v else .text ((vars.lookup name).getD default)

/-- The template that a value is; the empty text is the bare template. -/
def templateOf : Value → Except Fault String
  | .text s =>
    let template := if s.isEmpty then bareFormat else s
    if isTemplate template.toList then .ok template else .error (.invalidFormat template)
  | _ => .error .formatNotText

/-- The handler that is asked for. -/
def handlerOf (request : Request) (vars : Config.Variables) : Except Fault Handler := do
  let format ← templateOf (orVariable request.format vars "NTT_LOG_FORMAT" defaultFormat)
  .ok ⟨format, orVariable request.datefmt vars "NTT_LOG_DATEFMT" defaultDatefmt⟩

namespace Console

/-! ## Levels -/

/-- Whether a name stands for the root logger. -/
def isRoot (logger : String) : Bool := logger.isEmpty || logger == "root"

/-- The names above a name, nearest first, from its characters in reverse. A name less its last part
is the name above it, and of two dots in a row only the last one ends a name. -/
def namesAbove (reversed : List Char) : List String :=
  match _h : reversed.dropWhile (· != '.') with
  | _ :: c :: rest => String.ofList (c :: rest).reverse :: namesAbove rest
  | _ => []
termination_by reversed.length
decreasing_by
  have := (List.dropWhile_suffix (l := reversed) (· != '.')).length_le
  grind

/-- The logger itself and those above it but the root, nearest first. -/
def lineage (logger : String) : List String := logger :: namesAbove logger.toList.reverse

/-- The level that applies to a logger: its own, or that of the nearest logger above that has one.
-/
def effectiveLevel (console : Console) (logger : String) : Level :=
  if isRoot logger then console.rootLevel
  else
    match ((lineage logger).map console.ownLevel).find? (·.rank != 0) with
    | some level => level
    | none => console.rootLevel

/-- Whether a logger lets a record of a level through. -/
def isEnabled (console : Console) (logger : String) (level : Int) : Bool :=
  0 < level && (console.effectiveLevel logger).rank ≤ level

/-! ## Lines -/

/-- The fields of a record of a level's name for a handler; without a date format that is a text
there is no date. -/
def recordFields (handler : Handler) (levelName : String) (record : Record) :
    List (String × Field) :=
  let name := if isRoot record.logger then "root" else record.logger
  let date := match handler.datefmt with
    | .text format => [("asctime", Field.text (epochText format))]
    | _ => []
  date ++
    [("name", .text name), ("levelname", .text levelName),
      ("levelno", .number record.level), ("message", .text record.message),
      ("msg", .text record.pattern), ("args", .shown (Value.tuple (record.args.map .text)).display),
      ("exc_info", .shown Value.null.display), ("exc_text", .shown Value.null.display),
      ("stack_info", .shown Value.null.display), ("threadName", .text "MainThread"),
      ("processName", .text "MainProcess")]

/-- The line of a record under a handler; a record that does not suit the template has none. -/
def line (handler : Handler) (levelName : String) (record : Record) : String :=
  match fill (recordFields handler levelName record) handler.format with
  | some text => text ++ "\n"
  | none => ""

/-- What is written for a record, if its level can be shown. Without a handler, warnings and worse
are written as they are. -/
def write (console : Console) (record : Record) : Except Number.DigitFault String := do
  if !console.isEnabled record.logger record.level then return ""
  let levelName ← (Level.number record.level).name
  if console.handlers.isEmpty then
    return if 30 ≤ record.level then record.message ++ "\n" else ""
  return String.join (console.handlers.map fun handler => line handler levelName record)

/-! ## Configuring -/

/-- The console without the first of its handlers. -/
def dropHandler (console : Console) : Console := { console with handlers := console.handlers.tail }

/-- The console with one more handler. -/
def addHandler (console : Console) (handler : Handler) : Console :=
  { console with handlers := console.handlers ++ [handler] }

/-- The console with a logger's own level set. -/
def setLevel (console : Console) (logger : String) (level : Level) : Console :=
  { console with
    ownLevel := fun other => if other = logger then level else console.ownLevel other }

/-- What a configured console writes about its level. -/
def report (console : Console) (level : Level) : Except Number.DigitFault String := do
  let name ← level.name
  console.write
    { logger := "config", level := 10, message := "Logging configured at " ++ name
      pattern := "Logging configured at %s", args := [name] }

/-- A configuration, step by step; it answers what it writes. The handlers that are there go one
after another before the new one comes, then the levels are set; a step that fails leaves what was
changed before it. -/
def configuring (request : Request) (vars : Config.Variables) (force : Bool) :
    EStateM Fault Console String := do
  let console ← get
  if console.configured && !force then return ""
  let level := coerce vars request.level
  let handler ← MonadExcept.ofExcept (handlerOf request vars)
  console.handlers.forM fun _ => modify dropHandler
  modify fun console => console.addHandler handler
  modify fun console => { console with rootLevel := warning.max level }
  projectLoggers.forM fun logger => modify fun console => console.setLevel logger level
  let quiet := warning.max level
  thirdPartyLoggers.forM fun logger => modify fun console => console.setLevel logger quiet
  modify fun console => { console with configured := true }
  MonadExcept.ofExcept (((← get).report level).mapError .digits)

/-- The own levels of the root logger and of all loggers that configuring sets. -/
def levelTable (console : Console) : List (String × Level) :=
  ("root", console.rootLevel) ::
    (projectLoggers ++ thirdPartyLoggers).map fun logger => (logger, console.ownLevel logger)

end Console

end TokenBridge.Logging
