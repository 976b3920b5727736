import TokenBridge.Number.Decimal

/-!
# Log records

What the library reports while it works. A record names the logger that it belongs to; functions
answer their records beside their results.
-/

namespace TokenBridge

/-- How severe a report is. -/
inductive Severity where
  | debug
  | info
  | warning
  | error
  | critical
deriving DecidableEq, Repr

/-- The name of a severity. -/
def Severity.name : Severity → String
  | .debug => "DEBUG"
  | .info => "INFO"
  | .warning => "WARNING"
  | .error => "ERROR"
  | .critical => "CRITICAL"

/-- A report. -/
structure LogRecord where
  logger : String
  severity : Severity
  message : String
deriving DecidableEq, Repr

/-- A report that shows something; if that cannot be written there is none. -/
def logShowing (logger : String) (severity : Severity)
    (shown : Except Number.DigitFault String) (wording : String → String) : List LogRecord :=
  match shown with
  | .ok text => [⟨logger, severity, wording text⟩]
  | .error _ => []

end TokenBridge
