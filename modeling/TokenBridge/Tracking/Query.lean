import TokenBridge.Value

/-!
# Queries

What is asked of a relay network, and what it reports: the status of a transaction, whether the
relay failed, and what there is to say about it. Callers and sources put their own values into
queries and reports, and what they put there is passed on as it is.
-/

namespace TokenBridge.Tracking

/-- What is asked: the status of a transaction that started on a chain. -/
structure Query where
  network : Value
  tx : Value
  chain : Value

/-- One report of a relay network on a transaction. The relay failed if `failed` counts as true. -/
structure StatusRecord where
  status : Value
  failed : Value
  message : Value
  url : Value
  explorer : Value

namespace StatusRecord

/-- A record of a status alone. -/
def ofStatus (status : String) : StatusRecord := ⟨.text status, .bool false, .null, .null, .null⟩

/-- A record as a value. -/
def toValue (record : StatusRecord) : Value :=
  .statusRecord record.status record.failed record.message record.url record.explorer

/-- The record that a value is. -/
def ofValue? : Value → Option StatusRecord
  | .statusRecord status failed message url explorer =>
    some { status, failed, message, url, explorer }
  | _ => none

end StatusRecord

/-- The relay networks. -/
inductive Relay where
  | executor
  | axelar
deriving DecidableEq, Repr

/-- The name of a relay network, as messages about its settings spell it. -/
def Relay.providerName : Relay → String
  | .executor => "ExecutorStatusProvider"
  | .axelar => "AxelarStatusProvider"

end TokenBridge.Tracking
