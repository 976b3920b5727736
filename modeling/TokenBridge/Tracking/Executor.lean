import TokenBridge.Tracking.Exchange
import TokenBridge.Value.Key

/-!
# The executor network

What the executor network answers: a list of reports, each with a status. Four of its statuses say
that the relay failed.
-/

namespace TokenBridge.Tracking

/-- The statuses that the executor network reports. -/
inductive RelayStatus where
  | pending
  | failed
  | unsupported
  | submitted
  | underpaid
  | aborted
deriving DecidableEq, Repr

namespace RelayStatus

/-- Every status. -/
def all : List RelayStatus := [.pending, .failed, .unsupported, .submitted, .underpaid, .aborted]

/-- The text of a status in an answer. -/
def text : RelayStatus → String
  | .pending => "pending"
  | .failed => "failed"
  | .unsupported => "unsupported"
  | .submitted => "submitted"
  | .underpaid => "underpaid"
  | .aborted => "aborted"

/-- The name of a status. -/
def name : RelayStatus → String
  | .pending => "PENDING"
  | .failed => "FAILED"
  | .unsupported => "UNSUPPORTED"
  | .submitted => "SUBMITTED"
  | .underpaid => "UNDERPAID"
  | .aborted => "ABORTED"

/-- The relay failed: in simulation, for want of a fee, of a capability, or because it was given
up. -/
def isFailure : RelayStatus → Bool
  | .failed | .underpaid | .unsupported | .aborted => true
  | .pending | .submitted => false

end RelayStatus

/-- Whether a status text says that the relay failed. An unknown one does not. -/
def isFailedStatus (status : String) : Bool :=
  RelayStatus.all.any fun s => s.isFailure && s.text == status

/-- Whether a value is a status text that says that the relay failed. -/
def isFailedStatusOf (status : Value) : Except Fault Bool :=
  if !status.isKey then .error .notAKey
  else
    match status with
    | .text s => .ok (isFailedStatus s)
    | _ => .ok false

namespace Executor

/-- The message about a relay that failed with a status. -/
def failureMessage (status : String) : String := s!"Relay failed with status: {status}"

/-- The record of a status. -/
def recordOf (status : String) : StatusRecord where
  status := .text status
  failed := .bool (isFailedStatus status)
  message := if isFailedStatus status then .text (failureMessage status) else .null
  url := .null
  explorer := .null

/-- The status of an item of an answer, which must be a map with a text for it. -/
def statusOf? : Value → Option String
  | .map entries =>
    match entries.lookup "status" with
    | some (.text s) => some s
    | _ => none
  | _ => none

/-- The statuses of the items of an answer. The first item without one decides. -/
def statusesOf (tx : Value) : List Value → Except Fault (List String)
  | [] => .ok []
  | item :: rest =>
    match statusOf? item with
    | some status => do
      let others ← statusesOf tx rest
      .ok (status :: others)
    | none => .error (.missingStatus tx item)

/-- The records in an answer of the executor network. -/
def recordsOf (tx : Value) : Value → Report (List StatusRecord)
  | .list items =>
    match statusesOf tx items with
    | .error fault => .fault fault
    | .ok statuses =>
      { result := .ok (statuses.map recordOf)
        log := logShowing queryLogger .debug tx.printed fun shown =>
          "Executor status for " ++ shown ++ ": " ++ (Value.list (statuses.map .text)).display }
  | v =>
    { result := .error (.unexpectedExecutorAnswer tx)
      log := logShowing queryLogger .warning tx.printed fun shown =>
        s!"Executor returned {v.kind} instead of a status list for " ++ shown }

end Executor

end TokenBridge.Tracking
