import TokenBridge.Value.ByteString
import TokenBridge.Value.Display

/-!
# Faults of the layout codec

Why a value could not be written or bytes could not be read. A fault carries its cause and the path
through the schema at which it arose, outermost step first; the wording is in one place, `message`.

A message that shows an integer fails to be written if the integer has too many digits. The fault is
then of the family of that failure, wherever it was meant to belong.
-/

namespace TokenBridge.Layout

/-- Why a transform refused a value. -/
inductive TransformFault where
  /-- A number that is no chain's. -/
  | unknownChainId (id : Int)
  /-- A value of another kind where a chain's name belongs. -/
  | notAChainName (kind : String)
  /-- A name that is no chain's. -/
  | unknownChainName (name : String)
  /-- A number read for a mode that is no mode's. -/
  | unmappedMode (code : Int)
  /-- A value that is not a mode. -/
  | notAMode (value : Value)
  /-- A value of another kind where a trimmed amount belongs. -/
  | notATrimmedAmount (kind : String)
  /-- A text or byte string that is not the digits of an integer, as it is shown. -/
  | notAnIntegerText (shown : String)
  /-- A text or byte string of too many digits. -/
  | unreadable (fault : Number.DigitFault)
  /-- A number that is no number where an integer belongs. -/
  | noNumber
  /-- An infinite number where an integer belongs. -/
  | infiniteNumber
  /-- A value that has no integer. -/
  | wrongKind
  /-- The transform refuses everything. -/
  | refused

namespace TransformFault

/-- What the message of a refusal shows of the value. The number of a chain is not among it: that
it cannot be written is itself refused as an unknown chain. -/
def shown : TransformFault → Except Number.DigitFault String
  | unmappedMode code => Number.decimal code
  | notAMode value => value.shown
  | unreadable fault => .error fault
  | _ => .ok ""

/-- The family that a transform's refusal is meant to belong to. -/
def family : TransformFault → ErrorKind
  | unknownChainId _ | notAChainName _ | unmappedMode _ | notATrimmedAmount _ => .schemaViolation
  | unknownChainName _ | notAMode _ => .valueOutOfRange
  | notAnIntegerText _ | unreadable _ | noNumber | refused => .invalidValue
  | infiniteNumber => .overflow
  | wrongKind => .wrongKind

/-- The family of a transform's refusal. -/
def kind (fault : TransformFault) : ErrorKind := Number.kindShowing fault.shown fault.family

/-- The wording of a transform's refusal that shows something. -/
def wording (shown : String) : TransformFault → String
  | unknownChainId id => Number.messageShowing (Number.decimal id) ("Unknown chain id: " ++ ·)
  | notAChainName kind => s!"chain must be a chain name, got {kind}"
  | unknownChainName name => "Unknown chain name: " ++ Text.quoted name
  | unmappedMode _ | notAMode _ => "unknown transfer mode " ++ shown
  | notATrimmedAmount kind => s!"expected TrimmedAmount, got {kind}"
  | notAnIntegerText text => "invalid literal for int() with base 10: " ++ text
  | unreadable fault => fault.message
  | noNumber => "cannot convert float NaN to integer"
  | infiniteNumber => "cannot convert float infinity to integer"
  | wrongKind => "the value has no integer"
  | refused => "custom transform failed"

end TransformFault

/-- Which way a value crosses a schema. -/
inductive Phase where
  | building
  | parsing
deriving DecidableEq, Repr

/-- One step into a schema. -/
inductive Step where
  /-- Into a field of a struct; the empty name is that of a field without one. -/
  | field (name : String)
  /-- Into the tag of a tagged union. -/
  | tag
  /-- Into the payload of a tagged union, or the layout inside a window. -/
  | value
  /-- Into the length of a counted sequence. -/
  | count
  /-- Into an element of a counted sequence. -/
  | items
deriving DecidableEq, Repr

/-- What went wrong at a node. -/
inductive Cause where
  /-- A value of the wrong kind; `expected` names the right one. -/
  | wrongKind (expected kind : String)
  /-- An integer outside an unsigned field of so many bits. -/
  | outOfRange (n : Int) (bits : Nat)
  /-- A length or a count beyond a length field of so many bits. -/
  | tooLong (length bits : Nat)
  /-- A byte string of the wrong length. -/
  | wrongSize (expected : Int) (actual : Nat)
  /-- A map without a field of its struct. -/
  | missingField (name : String)
  /-- A field without a name: there is no key to take its value from, or to put it under. -/
  | namelessField
  /-- A variant whose name the union does not have. -/
  | unknownVariant (name : String)
  /-- A tag read that the union does not have. -/
  | unmappedTag (tag : Value)
  /-- A tag read that no table can be asked for. -/
  | tagNotAKey
  /-- A length field of no bytes, or of fewer. -/
  | emptyLengthField (width : Int)
  /-- A length that is written in fewer than no bytes. -/
  | negativeLengthField
  /-- Magic bytes other than the schema's. -/
  | prefixMismatch
  /-- Bytes left over at the end of a window. -/
  | unconsumed
  /-- Fewer bytes than the schema needs. -/
  | truncated
  /-- Bytes left over at the end of the input. -/
  | trailing (count : Nat)
  /-- Something in a schema that is not a schema, as it is shown. -/
  | notASchema (shown : String)
  /-- Magic bytes that are not bytes, as they are shown. -/
  | prefixNotBytes (shown : String)
  /-- An element that consumes no bytes, in a sequence that only the end of its window ends. -/
  | emptyElement
  /-- The refusal of a transform. -/
  | transform (fault : TransformFault)
  /-- An input that is no byte string. -/
  | input (fault : Value.ByteFault)

namespace Cause

/-- What the message of a cause shows of a number or a value. -/
def shown : Cause → Except Number.DigitFault String
  | .outOfRange n _ | .wrongSize n _ | .emptyLengthField n => Number.decimal n
  | .unmappedTag tag => tag.printed
  | .transform fault => fault.shown
  | _ => .ok ""

/-- The family that a cause is meant to belong to. -/
def family : Cause → ErrorKind
  | .outOfRange .. | .tooLong .. => .valueOutOfRange
  | .negativeLengthField => .invalidValue
  | .namelessField => .missingKey
  | .tagNotAKey => .wrongKind
  | .transform fault => fault.family
  | .input fault => fault.kind
  | _ => .schemaViolation

/-- The family of a cause. -/
def kind (cause : Cause) : ErrorKind := Number.kindShowing cause.shown cause.family

end Cause

/-- A failure to write or read: the direction, the path to the node, outermost step first, and the
cause. -/
structure Fault where
  phase : Phase
  path : List Step
  cause : Cause

namespace Fault

/-- The family of a fault is that of its cause. -/
def kind (fault : Fault) : ErrorKind := fault.cause.kind

/-- The name of a direction at the head of a path. -/
def phaseText : Phase → String
  | .building => "(building)"
  | .parsing => "(parsing)"

/-- The name of a step in a path. A field without a name is shown as nothing. -/
def stepText : Step → String
  | .field name => if name.isEmpty then Value.null.display else name
  | .tag => "tag"
  | .value => "value"
  | .count => "count"
  | .items => "items"

/-- A path, its steps joined by arrows. -/
def pathText (fault : Fault) : String :=
  " -> ".intercalate (phaseText fault.phase :: fault.path.map stepText)

/-- What is looked up for a field without a name: no key at all in the value to write, and the empty
name in the value that was read. -/
def namelessKey : Phase → Value
  | .building => .null
  | .parsing => .text ""

/-- The wording of a fault whose cause shows something. A cause that does not depend on where it
arose shows no path. -/
def wording (fault : Fault) (shown : String) : String :=
  let path := fault.pathText
  match fault.cause with
  | .wrongKind expected kind => s!"{path}: expected {expected}, got {kind}"
  | .outOfRange _ bits => s!"{path}: {shown} does not fit in an unsigned {bits}-bit field"
  | .tooLong length bits => s!"{path}: {length} does not fit in an unsigned {bits}-bit field"
  | .wrongSize _ actual => s!"{path}: expected {shown} bytes, got {actual}"
  | .missingField name => s!"{path}: missing field '{name}'"
  | .unknownVariant name => s!"{path}: unknown variant '{name}'"
  | .unmappedTag _ => s!"{path}: unmapped tag {shown}"
  | .tagNotAKey => "the tag is no key"
  | .namelessField => (namelessKey fault.phase).display
  | .emptyLengthField _ => s!"Error in path {path}\nlength {shown} must be positive"
  | .negativeLengthField => "negative shift count"
  | .prefixMismatch => "prefix mismatch"
  | .unconsumed => "unconsumed bytes inside length window"
  | .truncated => "truncated input"
  | .trailing count => s!"value: {count} trailing bytes after decoding"
  | .notASchema text => "unsupported layout node " ++ text
  | .prefixNotBytes text => "given non-bytes value " ++ text ++ ", perhaps unicode?"
  | .emptyElement => "an implicit sequence element must consume bytes"
  | .transform fault => fault.wording shown
  | .input fault => fault.message

/-- The message of a fault. -/
def message (fault : Fault) : String := Number.messageShowing fault.cause.shown fault.wording

end Fault

/-- The outcome of a part of a schema that is entered by a step: a fault inside it lies one step
further along the path. -/
def within {α : Type} (step : Step) : Except Fault α → Except Fault α
  | .ok a => .ok a
  | .error fault => .error { fault with path := step :: fault.path }

/-- A fault at the node itself. -/
def fail {α : Type} (phase : Phase) (cause : Cause) : Except Fault α :=
  .error { phase, path := [], cause }

end TokenBridge.Layout
