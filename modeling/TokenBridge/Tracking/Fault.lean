import TokenBridge.ErrorKind
import TokenBridge.Json.Reader
import TokenBridge.Tracking.Query
import TokenBridge.Value.Display

/-!
# Faults of queries

Why a query has no answer. The settings may not serve it, the relay network may have nothing to say
or say it in a form that cannot be read, or a value may be of the wrong kind. Most faults show the
transaction, the network or the chain, and are of another family if that cannot be written.
-/

namespace TokenBridge.Tracking

/-- Why a query has no answer. -/
inductive Fault where
  /-- No web address is known for the network. -/
  | noEndpoint (relay : Relay) (network : Value)
  /-- No chain has this name. -/
  | unknownChain (chain : Value)
  /-- The Axelar network does not serve the chain. -/
  | unsupportedChain (chain : Value)
  /-- The request came to nothing that can be read. -/
  | fetchFailed (tx : Value)
  /-- Lists and maps stand too deep inside each other in the answer. -/
  | answerTooDeep (isMap : Bool)
  /-- The executor network answered something other than a list. -/
  | unexpectedExecutorAnswer (tx : Value)
  /-- The executor network answered a list with an item that has no status. -/
  | missingStatus (tx item : Value)
  /-- The Axelar network answered something of another form. -/
  | unexpectedAxelarAnswer (tx : Value)
  /-- The relay network does not know the transaction. -/
  | nothingFound (tx : Value)
  /-- The client refused the web address of a request. -/
  | addressRefused (reason : String)
  /-- No explorer is known for the network that stands in for all others. -/
  | noExplorer (network : String)
  /-- The transaction cannot be written in the web address of its page. -/
  | noPage (fault : Number.DigitFault)
  /-- A value that no table can be asked for. -/
  | notAKey
  /-- A value that is not the map it should be. -/
  | notAMap
  /-- A value that is not the web address that it should be. -/
  | notAnAddress
  /-- A value that is not the report that it should be. -/
  | notARecord
  /-- No source to ask. -/
  | noSource

namespace Fault

/-- The texts of two things that a message shows, one after the other. -/
def shownBoth (first second : Except Number.DigitFault String) (between : String) :
    Except Number.DigitFault String := do
  let first ← first
  let second ← second
  .ok (first ++ between ++ second)

/-- What the message of a fault shows. That an unknown chain cannot be shown is itself reported as an
unknown chain. -/
def shown : Fault → Except Number.DigitFault String
  | noEndpoint _ network => network.printed
  | unsupportedChain chain => chain.printed
  | fetchFailed tx | unexpectedExecutorAnswer tx | unexpectedAxelarAnswer tx | nothingFound tx =>
    tx.printed
  | missingStatus tx item => shownBoth tx.printed item.shown " has no status: "
  | noPage fault => .error fault
  | _ => .ok ""

/-- The family that a fault is meant to belong to. -/
def family : Fault → ErrorKind
  | noEndpoint .. | unknownChain _ | unsupportedChain _ => .configuration
  | fetchFailed _ | unexpectedExecutorAnswer _ | missingStatus .. | unexpectedAxelarAnswer _
  | nothingFound _ => .statusUnavailable
  | answerTooDeep _ => .tooDeep
  | addressRefused _ => .invalidAddress
  | noExplorer _ => .missingKey
  | noPage _ => .invalidValue
  | notAKey => .wrongKind
  | notAMap | notAnAddress | notARecord | noSource => .missingMember

/-- The family of a fault. -/
def kind (fault : Fault) : ErrorKind := Number.kindShowing fault.shown fault.family

/-- The wording of a fault that shows something. -/
def wording (shown : String) : Fault → String
  | noEndpoint relay _ => s!"No {relay.providerName} endpoint configured for network " ++ shown
  | unknownChain chain => Number.messageShowing chain.shown ("Unknown chain name: " ++ ·)
  | unsupportedChain _ => "Unsupported axelar chain: " ++ shown
  | fetchFailed _ => "Failed to fetch status for txHash: " ++ shown ++ "."
  | answerTooDeep isMap => (Json.ReadFault.tooDeep isMap).message
  | unexpectedExecutorAnswer _ => "Unexpected executor response for txHash: " ++ shown ++ "."
  | missingStatus _ _ => "Executor response for txHash " ++ shown
  | unexpectedAxelarAnswer _ => "Unexpected Axelar response for txHash: " ++ shown ++ "."
  | nothingFound _ => "No transaction status found for " ++ shown
  | addressRefused reason => reason
  | noExplorer network => Text.quoted network
  | noPage fault => fault.message
  | notAKey => "the value is no key"
  | notAMap => "the value is no map"
  | notAnAddress => "the value is no web address"
  | notARecord => "the value is no status record"
  | noSource => "there is no source to ask"

/-- The message of a fault. -/
def message (fault : Fault) : String :=
  Number.messageShowing fault.shown fun shown => fault.wording shown

end Fault

end TokenBridge.Tracking
