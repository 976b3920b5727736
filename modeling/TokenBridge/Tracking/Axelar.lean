import TokenBridge.Config.Settings
import TokenBridge.Tracking.Exchange
import TokenBridge.Value.Entries
import TokenBridge.Value.Key

/-!
# The Axelar network

What the Axelar network answers: a map with the details of the calls that it found. The details of
the first call give its status and, if there is an error or the fee was too low, what went wrong.
Details come from outside and may hold values of any kind anywhere, so all of them are looked at
before they are used. But they were read as JSON, and no integer is read that could not be written
again: whatever details hold has a text.
-/

namespace TokenBridge.Tracking.Axelar

/-- The chains that the Axelar network serves, with its own names for them. -/
def chains : List (String × String) :=
  [("Ethereum", "ethereum"), ("Monad", "monad"), ("Sepolia", "ethereum-sepolia")]

/-- The name that the Axelar network has for a chain. -/
def chainName (chain : String) : Except Fault String :=
  (chains.lookup chain).elim (.error (.unsupportedChain (.text chain))) .ok

/-- The name that the Axelar network has for the chain that a value names. -/
def chainNameOf (chain : Value) : Except Fault String :=
  if !chain.isKey then .error .notAKey
  else
    match chain with
    | .text s => chainName s
    | _ => .error (.unsupportedChain chain)

/-! ## Statuses -/

/-- The statuses of a call. -/
inductive CallStatus where
  | sourceGatewayCalled
  | destinationGatewayApproved
  | destinationExecuted
  | expressExecuted
  | destinationExecuteError
  | destinationExecuting
  | approving
  | forecalled
  | forecalledWithoutGasPaid
  | notExecuted
  | notExecutedWithoutGasPaid
  | insufficientFee
  | unknownError
  | cannotFetchStatus
  | sourceGatewayConfirmed
deriving DecidableEq, Repr

namespace CallStatus

/-- Every status with its name and its text. -/
def table : List (CallStatus × String × String) :=
  [(.sourceGatewayCalled, "SRC_GATEWAY_CALLED", "source_gateway_called"),
    (.destinationGatewayApproved, "DEST_GATEWAY_APPROVED", "destination_gateway_approved"),
    (.destinationExecuted, "DEST_EXECUTED", "destination_executed"),
    (.expressExecuted, "EXPRESS_EXECUTED", "express_executed"),
    (.destinationExecuteError, "DEST_EXECUTE_ERROR", "error"),
    (.destinationExecuting, "DEST_EXECUTING", "executing"),
    (.approving, "APPROVING", "approving"),
    (.forecalled, "FORECALLED", "forecalled"),
    (.forecalledWithoutGasPaid, "FORECALLED_WITHOUT_GAS_PAID", "forecalled_without_gas_paid"),
    (.notExecuted, "NOT_EXECUTED", "not_executed"),
    (.notExecutedWithoutGasPaid, "NOT_EXECUTED_WITHOUT_GAS_PAID", "not_executed_without_gas_paid"),
    (.insufficientFee, "INSUFFICIENT_FEE", "insufficient_fee"),
    (.unknownError, "UNKNOWN_ERROR", "unknown_error"),
    (.cannotFetchStatus, "CANNOT_FETCH_STATUS", "cannot_fetch_status"),
    (.sourceGatewayConfirmed, "SRC_GATEWAY_CONFIRMED", "confirmed")]

/-- The text of a status. -/
def text (status : CallStatus) : String := ((table.lookup status).map (·.2)).getD ""

end CallStatus

/-- The details of a call. -/
abbrev Details := Value.Entries

/-- A member of a map; what is not there is nothing. -/
def member (entries : Value.Entries) (key : String) : Value := (entries.lookup key).getD .null

/-- The status that a text of the network stands for, if the network and the library word it
differently. An error counts only if the details say which. -/
def reworded? (details : Details) (status : String) : Option CallStatus :=
  if status = "error" ∧ (member details "error").truthy then some .destinationExecuteError
  else if status = "executed" then some .destinationExecuted
  else if status = "approved" then some .destinationGatewayApproved
  else if status = "called" then some .sourceGatewayCalled
  else if status = "executing" then some .destinationExecuting
  else none

/-- The status in the details of a call; without one it is the empty text. -/
def statusOf (details : Details) : String :=
  match member details "status" with
  | .text s => ((reworded? details s).map CallStatus.text).getD s
  | v => if v.truthy then v.plainText else ""

/-! ## Errors -/

/-- What went wrong with a call. -/
structure CallError where
  message : String
  txHash : Value
  chain : Value

/-- The message of an error that says none. -/
def unknownMessage : String := "unknown error"

/-- The message of a map under a key, as text, if it counts as true. -/
def messageIn (entries : Value.Entries) : Option String :=
  if (member entries "message").truthy then some (member entries "message").plainText else none

/-- The message inside an error, where errors may be texts or hold messages of their own. -/
def innerMessage? : Value → Option String
  | .text s => if s.isEmpty then none else some s
  | .map entries => messageIn entries
  | _ => none

/-- The message of an error: a text is its own; a map has one in the error inside it or beside it.
-/
def errorMessage : Value → String
  | .text s => s
  | .map entries =>
    ((innerMessage? (member entries "error")).orElse fun _ => messageIn entries).getD unknownMessage
  | _ => unknownMessage

/-- What the details of a call say went wrong: an error first, and else a fee that was too low. -/
def errorOf? (details : Details) : Option CallError :=
  let error := member details "error"
  if error.truthy then
    let context := Value.entriesOf error
    some ⟨errorMessage error, member context "sourceTransactionHash", member context "chain"⟩
  else if (member details "is_insufficient_fee").truthy then
    let call := Value.entriesOf (member details "call")
    let transaction := Value.entriesOf (member call "transaction")
    some ⟨"Insufficient gas", member transaction "hash", member call "chain"⟩
  else none

/-- The details that a value is. -/
def detailsOf : Value → Except Fault Details
  | .map entries => .ok entries
  | _ => .error .notAMap

/-! ## Explorers -/

/-- The name of the network's explorer. -/
def explorerName : String := "Axelarscan"

/-- The network whose explorer stands in for those that have none. -/
def fallbackNetwork : String := "Testnet"

/-- The explorer that stands in. -/
def fallbackExplorer (explorers : Config.Table) : Except Fault String :=
  (explorers.lookup fallbackNetwork).elim (.error (.noExplorer fallbackNetwork)) .ok

/-- The explorer of a network, or else the one that stands in; an empty address is none. -/
def explorerBase (explorers : Config.Table) (network : String) : Except Fault String :=
  match explorers.lookup network with
  | some url => if url.isEmpty then fallbackExplorer explorers else .ok url
  | none => fallbackExplorer explorers

/-- The page of a transaction in an explorer. -/
def page (base tx : String) : String := trimSlashes base ++ "/gmp/" ++ tx

/-- The page of a transaction in the explorer of a network. -/
def explorerUrl (explorers : Config.Table) (network tx : Value) : Except Fault String :=
  if !network.isKey then .error .notAKey
  else do
    let base ← match network with
      | .text s => explorerBase explorers s
      | _ => fallbackExplorer explorers
    let shown ← tx.printed.mapError .noPage
    .ok (page base shown)

/-! ## Answers -/

/-- The record of the details of a call. -/
def recordOf (explorers : Config.Table) (query : Query) (details : Details) :
    Except Fault StatusRecord :=
  match errorOf? details with
  | none => .ok (.ofStatus (statusOf details))
  | some error => do
    let url ← explorerUrl explorers query.network query.tx
    .ok {
      status := .text (statusOf details)
      failed := .bool true
      message := .text ("Axelar error: " ++ error.message)
      url := .text url
      explorer := .text explorerName }

/-- The records in the data of an answer. Data that counts as false is no call found. -/
def recordsOfData (explorers : Config.Table) (query : Query) (data : Value) :
    Report (List StatusRecord) :=
  if !data.truthy then
    { result := .ok []
      log := logShowing queryLogger .debug query.tx.printed
        ("Axelar has no transaction details for " ++ ·) }
  else
    match data with
    | .list (.map details :: _) => ⟨(recordOf explorers query details).map ([·]), []⟩
    | _ =>
      { result := .error (.unexpectedAxelarAnswer query.tx)
        log := logShowing queryLogger .warning query.tx.printed fun shown =>
          "Axelar returned malformed transaction details for " ++ shown ++ ": " ++ data.display }

/-- The records in an answer of the Axelar network. -/
def recordsOf (explorers : Config.Table) (query : Query) : Value → Report (List StatusRecord)
  | .map entries => recordsOfData explorers query (member entries "data")
  | _ => .fault (.unexpectedAxelarAnswer query.tx)

end TokenBridge.Tracking.Axelar
