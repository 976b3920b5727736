import TokenBridge.Message.Item

/-!
# Message layouts

The layouts of token-transfer messages. A transfer is embedded in the message of a manager, and that
in the message of a transceiver; the wrappers take the layout of what they embed, so another payload
fits without a change to them.
-/

namespace TokenBridge.Message

open Layout (Schema LengthField)

/-- The magic bytes of a transfer payload. -/
def transferMagic : Bytes := [0x99, 0x4e, 0x54, 0x54]

/-- The magic bytes of a generic message. -/
def genericMagic : Bytes := [0x99, 0x47, 0x4d, 0x50]

/-- The magic bytes of a message of the Wormhole transceiver. -/
def transceiverMagic : Bytes := [0x99, 0x45, 0xff, 0x10]

/-- The magic bytes of a transceiver's announcement of itself. -/
def infoMagic : Bytes := [0x9c, 0x23, 0xbd, 0x3b]

/-- The magic bytes of the registration of a transceiver. -/
def registrationMagic : Bytes := [0x18, 0xfc, 0x67, 0xc2]

/-- An address on any chain. -/
def address : Schema := .fixed 32

/-- A window with a length of two bytes. -/
def window (layout : Option Schema) (omitIfEmpty : Bool) : Schema :=
  .bytes (some ⟨2, .big⟩) layout omitIfEmpty

/-- A transfer of a token from its home chain. The length of the additional payload is left out with
the payload. -/
def nativeTransfer : Schema :=
  .struct
    [("prefix", .magic transferMagic), ("trimmed_amount", trimmedItem), ("source_token", address),
      ("recipient_address", address), ("recipient_chain", chainItem),
      ("additional_payload", window none true)]

/-- The description of a token. -/
def tokenMeta : Schema :=
  .struct [("name", address), ("symbol", address), ("decimals", byte)]

/-- A token on its chain. -/
def tokenId : Schema :=
  .struct [("chain_id", chainItem), ("token_address", address)]

/-- A token with its description. -/
def tokenInfo : Schema :=
  .struct [("meta", tokenMeta), ("token", tokenId)]

/-- A transfer that says which token it carries. -/
def multiTransfer : Schema :=
  .struct
    [("prefix", .magic transferMagic), ("trimmed_amount", trimmedItem), ("token", tokenInfo),
      ("sender", address), ("to", address)]

/-- A transceiver's announcement of itself. -/
def transceiverInfo : Schema :=
  .struct
    [("prefix", .magic infoMagic), ("manager_address", address), ("mode", modeItem),
      ("token", address), ("decimals", byte)]

/-- The registration of a transceiver on another chain. -/
def transceiverRegistration : Schema :=
  .struct
    [("prefix", .magic registrationMagic), ("chain", chainItem), ("transceiver", address)]

/-- The message of a manager around a payload, raw if it has no layout. -/
def managerMessage (payload : Option Schema) : Schema :=
  .struct [("id", address), ("sender", address), ("payload", window payload false)]

/-- The message of a transceiver around the message of a manager and a payload of its own. -/
def transceiverMessage (magic : Bytes) (managerPayload transceiverPayload : Option Schema) :
    Schema :=
  .struct
    [("prefix", .magic magic), ("source_ntt_manager", address),
      ("recipient_ntt_manager", address),
      ("ntt_manager_payload", window managerPayload false),
      ("transceiver_payload", window transceiverPayload false)]

/-- The message of the Wormhole transceiver. -/
def wormholeMessage (managerPayload : Option Schema) : Schema :=
  transceiverMessage transceiverMagic managerPayload none

/-- A message to any callee on another chain. -/
def genericMessage (data : Option Schema) : Schema :=
  .struct
    [("prefix", .magic genericMagic), ("to_chain", chainItem), ("callee", address),
      ("sender", address), ("data", window data false)]

/-- A transfer of a token from its home chain in both wrappers. -/
def wormholeTransfer : Schema :=
  wormholeMessage (some (managerMessage (some nativeTransfer)))

end TokenBridge.Message
