import TokenBridge.Log
import TokenBridge.Tracking.Fault

/-!
# Exchanges

The request that carries a query, the ways in which it ends, and what comes of it. What becomes of a
request is up to the client that carries it: whether it takes the web address, what it sends, and
what it is answered. Everything that is decided about a reply can be reasoned about for every client.
-/

namespace TokenBridge.Tracking

/-- A request: a value that is posted as JSON to a web address, and how long the answer may take. -/
structure Request where
  url : String
  body : Value
  timeout : Value

/-- How a request ends. -/
inductive Reply where
  /-- With an answer. -/
  | answered (status : Int) (body : Bytes)
  /-- Without one: the connection failed or took too long. -/
  | failed (reason : String)
  /-- Without having been sent: the client refused the web address. -/
  | refused (reason : String)

/-- What becomes of a request: what is sent for it, and how it ends. -/
structure Delivery where
  sent : List Request
  reply : Reply

/-- What carries requests and reads their answers. -/
structure Client where
  /-- What becomes of a request. -/
  post : Request → Delivery
  /-- How many lists and maps of an answer may stand inside each other. -/
  depth : Nat

/-- A web address without the slashes at its end. -/
def trimSlashes (url : String) : String :=
  String.ofList (url.toList.reverse.dropWhile (· == '/')).reverse

/-- Whether a status says that a request succeeded. -/
def isSuccess (status : Int) : Bool := 200 ≤ status && status < 300

/-- What a computation came to, and what it reported. -/
structure Report (α : Type) where
  result : Except Fault α
  log : List LogRecord

/-- The logger of queries. -/
def queryLogger : String := "tracking.providers"

/-- A fault without a report. -/
def Report.fault {α : Type} (fault : Fault) : Report α := ⟨.error fault, []⟩

/-- The report that goes on with a result. -/
def Report.andThen {α β : Type} (r : Report α) (next : α → Report β) : Report β :=
  match r.result with
  | .ok a => ⟨(next a).result, r.log ++ (next a).log⟩
  | .error fault => ⟨.error fault, r.log⟩

/-- The report of a request that came to nothing. -/
def unreadable (url : String) (tx : Value) (reason : String) : Report Value where
  result := .error (.fetchFailed tx)
  log := logShowing queryLogger .warning tx.printed fun shown =>
    s!"Status request to {url} failed for " ++ shown ++ ": " ++ reason

/-- The value that a reply brings. Only the body of a success is read. -/
def Reply.read (depth : Nat) (url : String) (tx : Value) : Reply → Report Value
  | .refused reason => .fault (.addressRefused reason)
  | .failed reason => unreadable url tx reason
  | .answered status body =>
    if isSuccess status then
      match Json.read depth body with
      | .ok v => ⟨.ok v, []⟩
      | .error (.tooDeep isMap) => .fault (.answerTooDeep isMap)
      | .error fault => unreadable url tx fault.message
    else unreadable url tx s!"the answer has status {status}"

end TokenBridge.Tracking
