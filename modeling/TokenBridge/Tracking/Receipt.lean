import TokenBridge.ErrorKind
import TokenBridge.Value.Display
import TokenBridge.Value.Equality

/-!
# Receipts

What is known of a transfer under way: its state, the two chains, the transactions that started it,
and the failure that the relay network reported, if it did. A receipt has at least one transaction,
so it always has a latest one. What callers and sources name chains, transactions and failures with
is kept as it is.
-/

namespace TokenBridge.Tracking

/-- How far a transfer has come. -/
inductive TransferState where
  | failed
  | created
  | submitted
  | sourceFinalized
  | attested
  | destinationInitiated
  | destinationQueued
  | completed
deriving DecidableEq, Repr

namespace TransferState

/-- Every state, from the least number on. -/
def all : List TransferState :=
  [.failed, .created, .submitted, .sourceFinalized, .attested, .destinationInitiated,
    .destinationQueued, .completed]

/-- The number of a state; it grows as the transfer goes on, and a failure is below all else. -/
def code : TransferState → Int
  | .failed => -1
  | .created => 0
  | .submitted => 1
  | .sourceFinalized => 2
  | .attested => 3
  | .destinationInitiated => 4
  | .destinationQueued => 5
  | .completed => 6

/-- The name of a state. -/
def name : TransferState → String
  | .failed => "FAILED"
  | .created => "CREATED"
  | .submitted => "SUBMITTED"
  | .sourceFinalized => "SOURCE_FINALIZED"
  | .attested => "ATTESTED"
  | .destinationInitiated => "DESTINATION_INITIATED"
  | .destinationQueued => "DESTINATION_QUEUED"
  | .completed => "COMPLETED"

/-- The state of a number. -/
def ofCode? (n : Int) : Option TransferState := all.find? fun state => state.code == n

/-- The states in which the relay network has a say. -/
def isReconcilable : TransferState → Bool
  | .attested | .failed => true
  | _ => false

end TransferState

/-! ## Failures -/

/-- A failure that the relay network reported. It is kept with the receipt and not raised. -/
structure RelayError where
  message : Value
  status : Value
  url : Value
  explorer : Value

/-- A failure as a value. -/
def RelayError.toValue (e : RelayError) : Value := .relayError e.message e.status e.url e.explorer

/-! ## Receipts -/

/-- A transaction on a chain. -/
structure TransactionId where
  chain : Value
  txid : Value

/-- What is known of a transfer. The error is nothing, or a failure that the relay network reported,
unless a caller puts something else there. -/
structure Receipt where
  state : TransferState
  fromChain : Value
  toChain : Value
  originTransactions : List TransactionId
  originTransactions_ne_nil : originTransactions ≠ []
  error : Value

/-- Why there is no such receipt. -/
inductive ReceiptFault where
  /-- A value that is no state's number. -/
  | unknownState (v : Value)
  /-- No transaction. -/
  | noTransaction

/-- The family of a fault; to be unable to show the value is of the same family. -/
def ReceiptFault.kind : ReceiptFault → ErrorKind
  | .unknownState _ | .noTransaction => .invalidValue

/-- The wording of a fault. -/
def ReceiptFault.message : ReceiptFault → String
  | .unknownState v => Number.messageShowing v.shown (· ++ " is not a valid TransferState")
  | .noTransaction => "A transfer receipt needs at least one origin transaction"

/-- The state whose number a value equals. -/
def TransferState.ofValue (v : Value) : Except ReceiptFault TransferState :=
  match v.equalInt?.bind TransferState.ofCode? with
  | some state => .ok state
  | none => .error (.unknownState v)

namespace Receipt

/-- The receipt with the given content, which must have a transaction. -/
def make (state : TransferState) (fromChain toChain : Value)
    (originTransactions : List TransactionId) (error : Value) :
    Except ReceiptFault Receipt :=
  if h : originTransactions ≠ [] then
    .ok ⟨state, fromChain, toChain, originTransactions, h, error⟩
  else .error .noTransaction

/-- The last transaction that started the transfer. -/
def latest (receipt : Receipt) : TransactionId :=
  receipt.originTransactions.getLast receipt.originTransactions_ne_nil

/-- The transfer waits for its relay. -/
def isAttested (receipt : Receipt) : Bool := receipt.state == .attested

/-- The relay of the transfer failed. -/
def isFailed (receipt : Receipt) : Bool := receipt.state == .failed

/-- The transfer is done. -/
def isCompleted (receipt : Receipt) : Bool := receipt.state == .completed

end Receipt

end TokenBridge.Tracking
