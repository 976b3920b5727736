import TokenBridge.Tracking.Provider
import TokenBridge.Tracking.Receipt

/-!
# Reconciliation

Bringing a receipt in line with what a relay network says about its latest transaction. Only a
receipt that waits for its relay, or whose relay failed, is looked at; the first record decides, and
a transfer goes back and forth between the two states as the relay fails and recovers. The chains
and the transactions of a receipt never change.
-/

namespace TokenBridge.Tracking

/-- What a reconciliation came to: the receipt and whether it says something new, the queries that
were asked and the requests that were sent for them, and what was reported. -/
structure Reconciliation where
  result : Except Fault Receipt
  hasChanged : Bool
  queries : List Query
  requests : List Request
  log : List LogRecord

/-- The logger of reconciliations. -/
def reconciliationLogger : String := "tracking.reconciler"

/-- The failure that a record reports; without a message of its own it names the status. -/
def StatusRecord.relayError (record : StatusRecord) : RelayError where
  message :=
    if record.message.truthy then record.message
    else .text (Executor.failureMessage record.status.plainText)
  status := record.status
  url := record.url
  explorer := record.explorer

namespace Receipt

/-- The receipt after a record about its latest transaction. -/
def apply (receipt : Receipt) (record : StatusRecord) : Receipt :=
  if record.failed.truthy then
    { receipt with state := .failed, error := record.relayError.toValue }
  else if receipt.state = .failed then { receipt with state := .attested, error := .null }
  else receipt

/-- Whether a record says something new: that the relay failed, or failed in another way than is
known, or that it fails no longer. -/
def isNews (receipt : Receipt) (record : StatusRecord) : Bool :=
  if record.failed.truthy then
    receipt.state != .failed || !receipt.error.equal record.relayError.toValue
  else receipt.state == .failed

/-- What is reported about a record: that the relay failed, or that it fails no longer. -/
def applyLog (receipt : Receipt) (record : StatusRecord) : List LogRecord :=
  let relay := "Relay for " ++ receipt.latest.txid.plainText
  if record.failed.truthy then
    [⟨reconciliationLogger, .info, relay ++ " failed: " ++ record.relayError.message.plainText⟩]
  else if receipt.state = .failed then
    [⟨reconciliationLogger, .info,
      relay ++ " no longer failing (status=" ++ record.status.plainText ++ "); back to attested"⟩]
  else []

/-- The query about a receipt's latest transaction. -/
def query (receipt : Receipt) (network : Value) : Query :=
  ⟨network, receipt.latest.txid, receipt.fromChain⟩

/-- The receipt in line with what a source answers about its latest transaction. -/
def reconcile (receipt : Receipt) (network : Value) (source : Source) : Reconciliation :=
  if receipt.state.isReconcilable then
    let query := receipt.query network
    let outcome := source query
    match outcome.result with
    | .error fault => ⟨.error fault, false, [query], outcome.requests, outcome.log⟩
    | .ok [] => ⟨.error (.nothingFound query.tx), false, [query], outcome.requests, outcome.log⟩
    | .ok (record :: _) =>
      ⟨.ok (receipt.apply record), receipt.isNews record, [query], outcome.requests,
        outcome.log ++ receipt.applyLog record⟩
  else ⟨.ok receipt, false, [], [], []⟩

/-- The receipt in line with a source, or else with the standard provider of a relay network. -/
def track (receipt : Receipt) (relay : Relay) (settings : Config.RelaySettings)
    (client : Client) (network : Value) (source : Option Source) : Reconciliation :=
  receipt.reconcile network (source.getD ((Provider.standard relay).ask settings client))

end Receipt

end TokenBridge.Tracking
