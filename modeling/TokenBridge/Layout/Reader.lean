import TokenBridge.Layout.Writer
import TokenBridge.Value.Key

/-!
# Reading values

The reader is a recursion on the schema over the window around a node: it answers the value and what
is left of the window. A length field cuts its own window out of the bytes that follow, and the
content of that window must use it up. Hence nothing inside a window sees past its end, and the end
of the window is the same as nothing being left.

A sequence without a length field takes elements until one cannot be read, for whatever reason; the
bytes that the failing element had taken are given back.
-/

namespace TokenBridge.Layout

namespace Schema

/-- Elements one after another until one cannot be read, at most `fuel` of them, put before those
already read; and what is left. -/
def readRun (element : Bytes → Except Fault (Value × Bytes)) :
    Nat → List Value → Bytes → List Value × Bytes
  | 0, done, window => (done.reverse, window)
  | fuel + 1, done, window =>
    match element window with
    | .ok (v, rest) => readRun element fuel (v :: done) rest
    | .error _ => (done.reverse, window)

/-- Exactly `count` elements one after another, put before those already read; and what is left. -/
def readCount (element : Bytes → Except Fault (Value × Bytes)) :
    Nat → List Value → Bytes → Except Fault (List Value × Bytes)
  | 0, done, window => .ok (done.reverse, window)
  | count + 1, done, window =>
    match element window with
    | .ok (v, rest) => readCount element count (v :: done) rest
    | .error fault => .error fault

/-- A sequence. Without a length field the window's length bounds the number of elements, since each
takes at least a byte. -/
def readSequence (length : Option LengthField) (element : Bytes → Except Fault (Value × Bytes))
    (window : Bytes) : Except Fault (Value × Bytes) :=
  match length with
  | none =>
    let (items, rest) := readRun element window.length [] window
    .ok (.list items, rest)
  | some length => do
    let (count, rest) ← within .count (length.read window)
    let (items, rest) ← within .items (readCount element count [] rest)
    .ok (.list items, rest)

/-- Bytes without a layout; an explicit length of zero is remembered. -/
def rawContent (prefixed : Bool) (content : Bytes) : Value :=
  if prefixed && content.isEmpty then .prefixedEmpty else .bytes content

/-- The value of a content that must be used up. -/
def readWhole (layout : Bytes → Except Fault (Value × Bytes)) (content : Bytes) :
    Except Fault Value :=
  match within .value (layout content) with
  | .ok (v, []) => .ok v
  | .ok (_, _ :: _) => fail .parsing .unconsumed
  | .error fault => .error fault

/-- A window and its content: all that is left without a length field, and otherwise as many bytes
as the field says. An absent window is plain empty bytes where that is allowed. -/
def readWindow (length : Option LengthField) (omitIfEmpty : Bool)
    (content : Bytes → Except Fault Value) (window : Bytes) : Except Fault (Value × Bytes) :=
  match length with
  | none => do
    let v ← content window
    .ok (v, [])
  | some length =>
    if omitIfEmpty && window.isEmpty then .ok (.bytes [], [])
    else do
      let (size, rest) ← length.read window
      match Bytes.split? size rest with
      | none => fail .parsing .truncated
      | some (inner, rest) =>
        let v ← content inner
        .ok (v, rest)

/-- The next bytes, as many as a byte string of known length has. -/
def readFixed (size : Int) (window : Bytes) : Except Fault (Value × Bytes) :=
  if size < 0 then fail .parsing .truncated
  else match Bytes.split? size.toNat window with
    | some (head, rest) => .ok (.bytes head, rest)
    | none => fail .parsing .truncated

/-- The magic bytes, which have no value. -/
def readMagic (data window : Bytes) : Except Fault (Value × Bytes) :=
  match Bytes.split? data.length window with
  | none => fail .parsing .truncated
  | some (head, rest) => if head = data then .ok (.null, rest) else fail .parsing .prefixMismatch

mutual

/-- The value at the start of a window, and what is left of the window. -/
def read : Schema → Bytes → Except Fault (Value × Bytes)
  | .uint word, window => do
    let (n, rest) ← word.read window
    .ok (.int n, rest)
  | .fixed size, window => readFixed size window
  | .magic data, window => readMagic data window
  | .nothing, window => .ok (.null, window)
  | .struct fields, window => do
    let (entries, rest) ← readFields fields window
    if entries.any (·.1.isEmpty) then fail .parsing .namelessField
    else .ok (.map entries, rest)
  | .union tag arms, window => do
    let (t, rest) ← within .tag (read tag window)
    if t.isKey then readArm arms t rest
    else fail .parsing .tagNotAKey
  | .sequence length element, window => readSequence length (fun w => read element w) window
  | .bytes length none omitIfEmpty, window =>
    readWindow length omitIfEmpty (fun content => .ok (rawContent length.isSome content)) window
  | .bytes length (some layout) omitIfEmpty, window =>
    readWindow length omitIfEmpty (readWhole fun w => read layout w) window
  | .custom transform base, window => do
    let (raw, rest) ← read base window
    let v ← lift .parsing (transform.decode raw)
    .ok (v, rest)
  | .malformedMagic shown, _ => fail .parsing (.prefixNotBytes shown)
  | .malformed shown, _ => fail .parsing (.notASchema shown)

/-- The values of the fields of a struct, magic bytes left out. -/
def readFields : List (String × Schema) → Bytes → Except Fault (List (String × Value) × Bytes)
  | [], window => .ok ([], window)
  | (name, s) :: fields, window =>
    if s.isMagic then do
      let (_, rest) ← read s window
      readFields fields rest
    else do
      let (v, rest) ← within (.field name) (read s window)
      let (entries, rest) ← readFields fields rest
      .ok ((name, v) :: entries, rest)

/-- The variant that a tag stands for, with its payload. -/
def readArm : List (Int × String × Schema) → Value → Bytes → Except Fault (Value × Bytes)
  | [], tag, _ => within .value (fail .parsing (.unmappedTag tag))
  | (t, name, s) :: arms, tag, window =>
    if tag.equalInt? = some t then do
      let (payload, rest) ← within .value (read s window)
      .ok (.variant name payload, rest)
    else readArm arms tag window

end

end Schema

/-- The value at the start of the input, and the number of bytes it takes. -/
def decode (s : Schema) (data : Bytes) : Except Fault (Value × Nat) :=
  match s.defect? with
  | some cause => fail .parsing cause
  | none => do
    let (v, rest) ← s.read data
    .ok (v, data.length - rest.length)

/-- The value that takes up the whole input. -/
def deserialize (s : Schema) (data : Bytes) : Except Fault Value := do
  let (v, consumed) ← decode s data
  if consumed = data.length then .ok v
  else fail .parsing (.trailing (data.length - consumed))

/-- The byte string that an input is taken for. -/
def inputOf (input : Value) : Except Fault Bytes :=
  match input.toByteString with
  | .ok data => .ok data
  | .error fault => fail .parsing (.input fault)

/-- The value at the start of an input of any kind, and the number of bytes it takes. -/
def decodeOf (s : Schema) (input : Value) : Except Fault (Value × Nat) := do
  decode s (← inputOf input)

/-- The value that takes up a whole input of any kind. The length of the input is asked for after
its start was read, so a number, which stands for bytes but has no length, fails only then. -/
def deserializeOf (s : Schema) (input : Value) : Except Fault Value := do
  let data ← inputOf input
  let _ ← decode s data
  match input.length? with
  | some _ => deserialize s data
  | none => fail .parsing (.input .wrongKind)

end TokenBridge.Layout
