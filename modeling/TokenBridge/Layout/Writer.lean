import TokenBridge.Layout.Word

/-!
# Writing values

The writer is a recursion on the schema. A value is checked before anything inside it is written,
parts are written in the order of the schema, and a length field is written after what it counts,
except that the count of a sequence comes before its elements; the first fault ends the writing.
-/

namespace TokenBridge.Layout

/-- The outcome of a transform at its node. -/
def lift {α : Type} (phase : Phase) : Except TransformFault α → Except Fault α
  | .ok a => .ok a
  | .error fault => fail phase (.transform fault)

/-- The content of a value that must be a byte string. -/
def requireBytes (v : Value) : Except Fault Bytes :=
  match v.byteString? with
  | some data => .ok data
  | none => fail .building (.wrongKind "bytes" v.kind)

/-- The items of a value that must be a sequence. -/
def requireItems (v : Value) : Except Fault (List Value) :=
  match v.items? with
  | some items => .ok items
  | none => fail .building (.wrongKind "a sequence" v.kind)

/-- The entries of a value that must be a map with all the given names. -/
def requireFields (names : List String) (v : Value) : Except Fault (List (String × Value)) :=
  match v.entries? with
  | some entries =>
    match names.find? fun name => !entries.any (·.1 == name) with
    | some name => fail .building (.missingField name)
    | none => .ok entries
  | none => fail .building (.wrongKind "a mapping" v.kind)

/-- The name and the payload of a value that must be a variant. -/
def requireVariant : Value → Except Fault (String × Value)
  | .variant name payload => .ok (name, payload)
  | v => fail .building (.wrongKind "a Variant" v.kind)

namespace Schema

/-- The bytes of an integer; a truth value is not one. -/
def writeWord (word : Word) (v : Value) : Except Fault Bytes :=
  match v.strictInt? with
  | some n => word.write n
  | none => fail .building (.wrongKind "an integer" v.kind)

/-- The bytes of a byte string that must have the given length. -/
def writeFixed (size : Int) (v : Value) : Except Fault Bytes := do
  let data ← requireBytes v
  if data.length = size then .ok data
  else fail .building (.wrongSize size data.length)

/-- The bytes of elements one after another. -/
def writeItems (element : Value → Except Fault Bytes) (items : List Value) :
    Except Fault Bytes := do
  let parts ← items.mapM element
  .ok parts.flatten

/-- The bytes of a sequence: its count if it has a length field, then its elements. -/
def writeSequence (length : Option LengthField) (element : Value → Except Fault Bytes) (v : Value) :
    Except Fault Bytes := do
  let items ← requireItems v
  match length with
  | none => writeItems element items
  | some length =>
    let head ← within .count (length.write items.length)
    let body ← within .items (writeItems element items)
    .ok (head ++ body)

/-- The bytes of a window: its content, preceded by its length if it has a length field. Plain empty
bytes stand for an absent window where that is allowed. -/
def writeWindow (length : Option LengthField) (omitIfEmpty : Bool)
    (content : Value → Except Fault Bytes) (v : Value) : Except Fault Bytes :=
  match length with
  | none => content v
  | some length =>
    if omitIfEmpty && v.isPlainEmpty then .ok []
    else do
      let data ← content v
      let head ← length.write data.length
      .ok (head ++ data)

mutual

/-- The bytes of a value under a schema. -/
def write : Schema → Value → Except Fault Bytes
  | .uint word, v => writeWord word v
  | .fixed size, v => writeFixed size v
  | .magic data, _ => .ok data
  | .nothing, _ => .ok []
  | .struct fields, v => do
    let entries ← requireFields (valueNames fields) v
    writeFields fields entries
  | .union tag arms, v => do
    let (name, payload) ← requireVariant v
    match tagFor? name arms with
    | none => fail .building (.unknownVariant name)
    | some n => do
      let head ← within .tag (write tag (.int n))
      let body ← within .value (writeArm arms n payload)
      .ok (head ++ body)
  | .sequence length element, v => writeSequence length (fun item => write element item) v
  | .bytes length none omitIfEmpty, v => writeWindow length omitIfEmpty requireBytes v
  | .bytes length (some layout) omitIfEmpty, v =>
    writeWindow length omitIfEmpty (fun content => within .value (write layout content)) v
  | .custom transform base, v => do
    let raw ← lift .building (transform.encode v)
    write base raw
  | .malformedMagic shown, _ => fail .building (.prefixNotBytes shown)
  | .malformed shown, _ => fail .building (.notASchema shown)

/-- The bytes of the fields of a struct, each taken from the entries by its name. A field without a
name is given nothing, and fails where that is not enough. -/
def writeFields : List (String × Schema) → List (String × Value) → Except Fault Bytes
  | [], _ => .ok []
  | (name, s) :: rest, entries => do
    let head ← if s.isMagic then write s .null
      else if name.isEmpty && !s.isGivenNothing then fail .building .namelessField
      else if name.isEmpty then within (.field name) (write s .null)
      else within (.field name) (write s ((entries.lookup name).getD .null))
    let tail ← writeFields rest entries
    .ok (head ++ tail)

/-- The bytes of a payload under the arm with the given tag. -/
def writeArm : List (Int × String × Schema) → Int → Value → Except Fault Bytes
  | [], _, _ => .ok []
  | (t, _, s) :: rest, n, payload => if t = n then write s payload else writeArm rest n payload

end

end Schema

/-- The bytes of a value under a schema that can be used. -/
def encode (s : Schema) (v : Value) : Except Fault Bytes :=
  match s.defect? with
  | some cause => fail .building cause
  | none => s.write v

end TokenBridge.Layout
