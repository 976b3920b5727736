import TokenBridge.Config.Layers
import TokenBridge.Text.Blank

/-!
# Levels of log lines

The levels by which log lines are let through. A level is a number, some numbers have names, and a
truth value counts as the number it stands for but keeps its own spelling.
-/

namespace TokenBridge.Logging

/-- A level. -/
inductive Level where
  | number (n : Int)
  | truth (b : Bool)
deriving DecidableEq, Repr

/-- The number that a level counts as. -/
def Level.rank : Level → Int
  | .number n => n
  | .truth b => if b then 1 else 0

/-- A level as a value. -/
def Level.value : Level → Value
  | .number n => .int n
  | .truth b => .bool b

/-- The level below which nothing of others is let through. -/
def warning : Level := .number 30

/-- The greater of two levels, the first of two equal ones. -/
def Level.max (a b : Level) : Level := if a.rank < b.rank then b else a

/-- The names of levels. The first name of a number is the one that it is shown by. -/
def levelNames : List (String × Int) :=
  [("CRITICAL", 50), ("FATAL", 50), ("ERROR", 40), ("WARNING", 30), ("WARN", 30), ("INFO", 20),
    ("DEBUG", 10), ("NOTSET", 0)]

/-- The name by which a level is shown. A number without a name is shown by its digits, if it has not
too many. -/
def Level.name (level : Level) : Except Number.DigitFault String :=
  match levelNames.find? (·.2 == level.rank) with
  | some (name, _) => .ok name
  | none => level.value.printed.map ("Level " ++ ·)

/-- The capitals of a character, where they are letters of ASCII; any other character is itself,
which is as good since it is in no level's name. -/
def capitals (c : Char) : List Char :=
  if c = 'ß' then ['S', 'S']
  else if c = 'ı' then ['I']
  else if c = 'ſ' then ['S']
  else if c = 'ﬀ' then ['F', 'F']
  else if c = 'ﬁ' then ['F', 'I']
  else if c = 'ﬂ' then ['F', 'L']
  else if c = 'ﬃ' then ['F', 'F', 'I']
  else if c = 'ﬄ' then ['F', 'F', 'L']
  else if c = 'ﬅ' ∨ c = 'ﬆ' then ['S', 'T']
  else [c.toUpper]

/-- The level that a text names, white space around it and letter case aside. -/
def named? (text : String) : Option Level :=
  (levelNames.lookup (String.ofList ((Text.trimBlanks text.toList).flatMap capitals))).map .number

/-- The level that the variables of the process name, or else `INFO`. -/
def fallbackLevel (vars : Config.Variables) : Level :=
  (named? ((vars.lookup "NTT_LOG_LEVEL").getD "INFO")).getD (.number 20)

/-- The level that a value stands for: a number is itself, a text is the level it names, and
anything else is the level of the variables. -/
def coerce (vars : Config.Variables) : Value → Level
  | .bool b => .truth b
  | .int n => .number n
  | .mode m => .number m.code
  | .text s => (named? s).getD (fallbackLevel vars)
  | _ => fallbackLevel vars

end TokenBridge.Logging
