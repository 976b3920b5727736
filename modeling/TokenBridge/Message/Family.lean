import TokenBridge.Log
import TokenBridge.Message.Layouts
import TokenBridge.Value.ByteString

/-!
# Families of messages

Which family a message belongs to, by its first four bytes.
-/

namespace TokenBridge.Message

/-- The families that magic bytes tell apart. -/
inductive Family where
  | wormholeTransfer
  | transceiverInfo
  | transceiverRegistration
deriving DecidableEq, Repr

/-- The magic bytes of a family. -/
def Family.magic : Family → Bytes
  | .wormholeTransfer => transceiverMagic
  | .transceiverInfo => infoMagic
  | .transceiverRegistration => registrationMagic

/-- The name of a family. -/
def Family.name : Family → String
  | .wormholeTransfer => "WormholeTransfer"
  | .transceiverInfo => "TransceiverInfo"
  | .transceiverRegistration => "TransceiverRegistration"

/-- All families. -/
def Family.all : List Family := [.wormholeTransfer, .transceiverInfo, .transceiverRegistration]

/-- The family of a message. -/
def classify (payload : Bytes) : Option Family :=
  Family.all.find? fun family => family.magic == payload.take 4

/-- The report on a message of no known family. -/
def classifyLog (payload : Bytes) : List LogRecord :=
  match classify payload with
  | some _ => []
  | none =>
    [⟨"ntt.layouts", .debug, "Unrecognised NTT payload prefix " ++ Bytes.hex (payload.take 4)⟩]

/-- The first four bytes of a value that can be cut. -/
def headOf : Value → Except Value.ByteFault Bytes
  | .list items => (Value.list (items.take 4)).toByteString
  | .tuple items => (Value.tuple (items.take 4)).toByteString
  | v => v.byteString?.elim (.error .wrongKind) fun data => .ok (data.take 4)

end TokenBridge.Message
