import TokenBridge.Bytes
import TokenBridge.Number.Binary64

/-!
# Values

What a schema encodes and decodes. Callers hand over values of any kind, so a value carries its
kind: plain data, the sequences and maps built from it, and the domain's own values (a variant of a
tagged union, a trimmed amount, a transfer mode, a signature, an attestation, a report of a relay
network and the failure that it reports). The parts of such a value may be of any kind themselves.

Two kinds of empty bytes are kept apart: `bytes []` was never written, `prefixedEmpty` was read from
an explicit zero length.
-/

namespace TokenBridge

/-- How a token leaves its home chain: held in custody there, or destroyed. -/
inductive Mode where
  | locking
  | burning
deriving DecidableEq, Repr

/-- The number a mode is written as. -/
def Mode.code : Mode → Nat
  | .locking => 0
  | .burning => 1

/-- The mode that a number stands for. -/
def Mode.ofCode? : Int → Option Mode
  | 0 => some .locking
  | 1 => some .burning
  | _ => none

/-- The name of a mode. -/
def Mode.name : Mode → String
  | .locking => "LOCKING"
  | .burning => "BURNING"

/-- A value of any kind. -/
inductive Value where
  | null
  | bool (b : Bool)
  | int (n : Int)
  | float (x : Binary64)
  | text (s : String)
  | bytes (data : Bytes)
  /-- Bytes in a buffer that its owner may change. -/
  | buffer (data : Bytes)
  /-- Empty bytes that were read from an explicit zero length. -/
  | prefixedEmpty
  | list (items : List Value)
  | tuple (items : List Value)
  /-- A map from texts, in the order in which its keys were first put. -/
  | map (entries : List (String × Value))
  /-- A map that is looked into through its owner, who alone may change it. -/
  | view (entries : List (String × Value))
  | variant (name : String) (value : Value)
  | trimmed (amount decimals : Value)
  | mode (m : Mode)
  /-- The signature of a guardian. -/
  | signature (guardianIndex r s recoveryId : Value)
  /-- A body with the signatures of guardians. -/
  | attestation (version guardianSet : Value) (signatures : List Value) (body : Value)
  /-- A report of a relay network on a transaction. -/
  | statusRecord (status failed message url explorer : Value)
  /-- A failure that a relay network reported. -/
  | relayError (message status url explorer : Value)

namespace Value

/-- The name of a value's kind, as messages spell it. -/
def kind : Value → String
  | .null => "NoneType"
  | .bool _ => "bool"
  | .int _ => "int"
  | .float _ => "float"
  | .text _ => "str"
  | .bytes _ => "bytes"
  | .buffer _ => "bytearray"
  | .prefixedEmpty => "PrefixedEmpty"
  | .list _ => "list"
  | .tuple _ => "tuple"
  | .map _ => "dict"
  | .view _ => "mappingproxy"
  | .variant .. => "Variant"
  | .trimmed .. => "TrimmedAmount"
  | .mode _ => "Mode"
  | .signature .. => "GuardianSignature"
  | .attestation .. => "Vaa"
  | .statusRecord .. => "StatusRecord"
  | .relayError .. => "RelayFailedError"

/-- The content of a value that is a byte string of some kind. -/
def byteString? : Value → Option Bytes
  | .bytes data => some data
  | .buffer data => some data
  | .prefixedEmpty => some []
  | _ => none

/-- The items of a value that is a sequence. -/
def items? : Value → Option (List Value)
  | .list items => some items
  | .tuple items => some items
  | _ => none

/-- The entries of a value that is looked into by its keys. -/
def entries? : Value → Option (List (String × Value))
  | .map entries => some entries
  | .view entries => some entries
  | _ => none

/-- The integer that a value is, where a truth value is not taken for one. -/
def strictInt? : Value → Option Int
  | .int n => some n
  | .mode m => some m.code
  | _ => none

/-- The integer that a value is, where a truth value counts as zero or one. -/
def int? : Value → Option Int
  | .bool b => some (if b then 1 else 0)
  | v => v.strictInt?

/-- The integer that a value equals as a number. -/
def equalInt? : Value → Option Int
  | .float x => x.toInt?
  | v => v.int?

/-- Empty bytes that no length was read for. -/
def isPlainEmpty : Value → Bool
  | .bytes [] => true
  | .buffer [] => true
  | _ => false

/-- Whether a value counts as true: everything does but nothing, falsehood, zero and what is
empty. -/
def truthy : Value → Bool
  | .null => false
  | .bool b => b
  | .int n => n != 0
  | .float x => !x.isZero
  | .text s => !s.isEmpty
  | .bytes data => !data.isEmpty
  | .buffer data => !data.isEmpty
  | .prefixedEmpty => false
  | .list items => !items.isEmpty
  | .tuple items => !items.isEmpty
  | .map entries => !entries.isEmpty
  | .view entries => !entries.isEmpty
  | .mode m => m.code != 0
  | .variant .. | .trimmed .. | .signature .. | .attestation .. | .statusRecord ..
  | .relayError .. => true

end Value

end TokenBridge
