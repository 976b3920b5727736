import TokenBridge.Amount
import TokenBridge.Chain
import TokenBridge.Layout.Reader

/-!
# Items of messages

The transforms that messages are built from: a chain's number read as its name, a mode's number as
the mode, the two parts of a trimmed amount as one value; and two transforms for schemas outside the
messages, a number read as a truth value and one that refuses everything.
-/

namespace TokenBridge.Message

open Layout (Transform TransformFault Schema Word)

/-- A big-endian word of a size that is known to be one. -/
def bigWord (size : Nat) (size_pos : 0 < size := by decide) : Word := ⟨size, .big, size_pos⟩

/-- A big-endian unsigned integer. -/
def uint (size : Nat) (size_pos : 0 < size := by decide) : Schema :=
  .uint (bigWord size size_pos)

/-- A number in one byte. -/
def byte : Schema := uint 1

/-! ## Chains -/

/-- The name of the chain of a number. -/
def chainFromRaw : Value → Except TransformFault Value
  | .int id =>
    match Chain.name? id with
    | some name => .ok (.text name)
    | none => .error (.unknownChainId id)
  | _ => .error .wrongKind

/-- The number of the chain of a name. -/
def chainToRaw : Value → Except TransformFault Value
  | .text name =>
    match Chain.id? name with
    | some id => .ok (.int id)
    | none => .error (.unknownChainName name)
  | v => .error (.notAChainName v.kind)

/-- A chain, written as its number in two bytes. -/
def chainItem : Schema := .custom ⟨chainFromRaw, chainToRaw⟩ (uint 2)

/-! ## Modes -/

/-- The mode of a number. -/
def modeFromRaw : Value → Except TransformFault Value
  | .int code =>
    match Mode.ofCode? code with
    | some m => .ok (.mode m)
    | none => .error (.unmappedMode code)
  | _ => .error .wrongKind

/-- The number of a mode, which may be given as any number equal to it. -/
def modeToRaw (v : Value) : Except TransformFault Value :=
  match v.equalInt?.bind Mode.ofCode? with
  | some m => .ok (.int m.code)
  | none => .error (.notAMode v)

/-- A mode, written as its number in one byte. -/
def modeItem : Schema := .custom ⟨modeFromRaw, modeToRaw⟩ (uint 1)

/-! ## Trimmed amounts -/

/-- The trimmed amount of its two parts. -/
def trimmedFromRaw : Value → Except TransformFault Value
  | .map entries =>
    match entries.lookup "amount", entries.lookup "decimals" with
    | some amount, some decimals => .ok (.trimmed amount decimals)
    | _, _ => .error .wrongKind
  | _ => .error .wrongKind

/-- The two parts of a trimmed amount. -/
def trimmedToRaw : Value → Except TransformFault Value
  | .trimmed amount decimals => .ok (.map [("decimals", decimals), ("amount", amount)])
  | v => .error (.notATrimmedAmount v.kind)

/-- A trimmed amount, written as one byte of decimals and eight bytes of amount. -/
def trimmedItem : Schema :=
  .custom ⟨trimmedFromRaw, trimmedToRaw⟩ (.struct [("decimals", uint 1), ("amount", uint 8)])

/-! ## Transforms of other schemas -/

/-- The integer that characters write; `shown` is what a message says about them. -/
def integerOfText (cs : List Char) (shown : String) : Except TransformFault Int :=
  match Number.integer? cs with
  | .ok (some n) => .ok n
  | .ok none => .error (.notAnIntegerText (String.ofList (shown.toList.take 200)))
  | .error fault => .error (.unreadable fault)

/-- The integer of a value: of a number without its fraction, or of the text that writes it. -/
def integerOf (v : Value) : Except TransformFault Int :=
  match v with
  | .float x =>
    if x.isNaN then .error .noNumber
    else if x.isInfinite then .error .infiniteNumber
    else .ok x.truncate
  | .text s => integerOfText s.toList (Text.quoted s)
  | v =>
    match v.byteString? with
    | some data =>
      let latin := data.map fun b => if b < 0x80 then Char.ofNat b.toNat else '?'
      integerOfText latin (Text.quotedBytes data)
    | none => v.int?.elim (.error .wrongKind) .ok

/-- A number read as the truth value that it is one, and written as the integer of any value. -/
def flag : Transform where
  decode raw := .ok (.bool (raw.equalInt? == some 1))
  encode v := (integerOf v).map .int

/-- The transform that refuses every value. -/
def refusal : Transform where
  decode _ := .error .refused
  encode _ := .error .refused

end TokenBridge.Message
