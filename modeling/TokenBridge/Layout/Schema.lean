import TokenBridge.Layout.Fault

/-!
# Schemas

The schema language of the layout codec. A schema is a plain value built from nodes, so message
layouts can be composed and parameterised; the writer and the reader are recursions on it.

Two nodes are greedy: a byte string without a length field and a sequence without one take what is
left of the window around them. A window is the input as a whole, or what a length field delimits.
-/

namespace TokenBridge.Layout

/-- An unsigned integer field of a fixed number of bytes. -/
structure Word where
  size : Nat
  order : Endian
  size_pos : 0 < size

/-- The largest integer that a word holds. -/
def Word.maxValue (word : Word) : Nat := 256 ^ word.size - 1

/-- The field that holds the length of what follows it. Any width is possible to write down; where
it is not that of a word, the field fails when it is used. -/
structure LengthField where
  width : Int
  order : Endian
deriving DecidableEq, Repr

/-- The word of a length field, when there is one of its width. -/
def LengthField.word? (length : LengthField) : Option Word :=
  if h : 0 < length.width.toNat then some ⟨length.width.toNat, length.order, h⟩ else none

/-- A pair of functions between the raw value of a schema and a richer value. -/
structure Transform where
  decode : Value → Except TransformFault Value
  encode : Value → Except TransformFault Value

/-- A binary layout. -/
inductive Schema where
  /-- An unsigned integer. -/
  | uint (word : Word)
  /-- A byte string of a known length. -/
  | fixed (size : Int)
  /-- Magic bytes: checked when read, and never part of a value. -/
  | magic (data : Bytes)
  /-- No bytes and no value. -/
  | nothing
  /-- Named fields in order. A field with the empty name has none, so its value can be neither given
  nor answered. -/
  | struct (fields : List (String × Schema))
  /-- A tag, and the payload that belongs to it. An arm is a tag, its name and its payload; a tag
  that is read belongs to the arm whose number it equals. -/
  | union (tag : Schema) (arms : List (Int × String × Schema))
  /-- A repeated element: as many as the length field says, or as many as the window holds. -/
  | sequence (length : Option LengthField) (element : Schema)
  /-- A byte string, as long as the length field says or up to the end of the window, with the
  layout of its content if it has one. When `omitIfEmpty` is set and there is a length field,
  absence at the end of the window means empty. -/
  | bytes (length : Option LengthField) (layout : Option Schema) (omitIfEmpty : Bool)
  /-- A schema with its values transformed. -/
  | custom (transform : Transform) (base : Schema)
  /-- Magic bytes given as a value that is not bytes, by the text that shows it. -/
  | malformedMagic (shown : String)
  /-- A value given where a schema belongs, by the text that shows it. -/
  | malformed (shown : String)

/-- Why a node cannot be built. -/
inductive SchemaFault where
  /-- A size that is not positive. -/
  | sizeNotPositive (size : Int)
  /-- A byte order of another name than `big` and `little`. -/
  | unknownOrder (name : String)
  /-- A struct with two fields of one name. -/
  | duplicateFields (names : List String)

/-- A node that cannot be built is the caller's error. -/
def SchemaFault.kind (_ : SchemaFault) : ErrorKind := .invalidValue

/-- The wording of a node that cannot be built. -/
def SchemaFault.message : SchemaFault → String
  | .sizeNotPositive size =>
    Number.messageShowing (Number.decimal size) ("UInt size must be positive, got " ++ ·)
  | .unknownOrder name => "Unknown endianness " ++ Text.quoted name
  | .duplicateFields names =>
    "Duplicate field names in struct: " ++ (Value.list (names.map .text)).display

namespace Schema

/-- A node of magic bytes, whose name and value are no part of a struct's value. -/
def isMagic : Schema → Bool
  | .magic _ | .malformedMagic _ => true
  | _ => false

/-- The names of the fields that have a value. -/
def valueNames (fields : List (String × Schema)) : List String :=
  (fields.filter fun field => !field.2.isMagic).map (·.1)

/-! ## Building nodes -/

/-- An unsigned integer whose byte order is given by name. The size is checked first. -/
def uint? (size : Int) (order : String) : Except SchemaFault Schema :=
  if h : 0 < size.toNat then
    if order = "big" then .ok (.uint ⟨size.toNat, .big, h⟩)
    else if order = "little" then .ok (.uint ⟨size.toNat, .little, h⟩)
    else .error (.unknownOrder order)
  else .error (.sizeNotPositive size)

/-- A length field whose byte order is given by name; every name but `little` means big-endian. -/
def lengthField (width : Int) (order : String) : LengthField :=
  ⟨width, if order = "little" then .little else .big⟩

/-- Magic bytes given as a value of any kind, if that can be shown. -/
def magicOf : Value → Except Number.DigitFault Schema
  | .bytes data => .ok (.magic data)
  | .prefixedEmpty => .ok (.magic [])
  | v => v.shown.map .malformedMagic

/-- A value given where a schema belongs, if it can be shown. -/
def malformedOf (v : Value) : Except Number.DigitFault Schema := v.shown.map .malformed

/-- A struct whose fields have distinct names. -/
def struct? (fields : List (String × Schema)) : Except SchemaFault Schema :=
  let names := valueNames fields
  if names.Nodup then .ok (.struct fields) else .error (.duplicateFields names)

/-- The arms of a union in the order in which their tags were first given; a tag given again takes
the later name and payload. -/
def putArm (arms : List (Int × String × Schema)) (arm : Int × String × Schema) :
    List (Int × String × Schema) :=
  if arms.any (·.1 == arm.1) then arms.map fun old => if old.1 == arm.1 then arm else old
  else arms ++ [arm]

/-- A tagged union; an arm without a payload holds nothing. -/
def unionOf (tag : Schema) (arms : List (Int × String × Option Schema)) : Schema :=
  .union tag ((arms.map fun (t, name, payload) => (t, name, payload.getD .nothing)).foldl putArm [])

/-- The first tag of an arm of the given name. -/
def tagFor? (name : String) (arms : List (Int × String × Schema)) : Option Int :=
  (arms.find? (·.2.1 == name)).map (·.1)

/-! ## Schemas without a value of their own -/

mutual

/-- Nothing has to be given to write a value of the schema: magic bytes, what consists of them, and
an empty struct. Such a field is written even where there is nothing to take its value from. -/
def isGivenNothing : Schema → Bool
  | .magic _ | .malformedMagic _ | .nothing => true
  | .struct fields => areGivenNothing fields
  | .sequence none element => isGivenNothing element
  | .custom _ base => isGivenNothing base
  | .uint _ | .fixed _ | .union .. | .sequence (some _) _ | .bytes .. | .malformed _ => false

/-- Nothing has to be given to write any of the fields. -/
def areGivenNothing : List (String × Schema) → Bool
  | [] => true
  | (_, s) :: rest => isGivenNothing s && areGivenNothing rest

end

/-! ## Static size -/

mutual

/-- The number of bytes of every encoding, where the schema alone determines it: a union, a byte
string of variable length and a sequence have none. -/
def staticSize? : Schema → Option Int
  | .uint word => some word.size
  | .fixed size => some size
  | .magic data => some data.length
  | .nothing => some 0
  | .struct fields => staticSizes? fields
  | .custom _ base => staticSize? base
  | .union .. | .sequence .. | .bytes .. | .malformedMagic _ | .malformed _ => none

/-- The sum of the static sizes of the fields. -/
def staticSizes? : List (String × Schema) → Option Int
  | [] => some 0
  | (_, s) :: rest =>
    match staticSize? s, staticSizes? rest with
    | some a, some b => some (a + b)
    | _, _ => none

end

/-! ## Admissible schemas -/

mutual

/-- The first reason why a schema cannot be used, in the order of its nodes. -/
def defect? : Schema → Option Cause
  | .uint _ | .fixed _ | .magic _ | .nothing => none
  | .struct fields => defectOfFields? fields
  | .union tag arms =>
    match defectOfArms? arms with
    | some cause => some cause
    | none => defect? tag
  | .sequence length element =>
    match defect? element with
    | some cause => some cause
    | none => if length = none ∧ staticSize? element = some 0 then some .emptyElement else none
  | .bytes _ none _ => none
  | .bytes _ (some layout) _ => defect? layout
  | .custom _ base => defect? base
  | .malformedMagic shown => some (.prefixNotBytes shown)
  | .malformed shown => some (.notASchema shown)

/-- The first reason among the fields of a struct. -/
def defectOfFields? : List (String × Schema) → Option Cause
  | [] => none
  | (_, s) :: rest =>
    match defect? s with
    | some cause => some cause
    | none => defectOfFields? rest

/-- The first reason among the arms of a union. -/
def defectOfArms? : List (Int × String × Schema) → Option Cause
  | [] => none
  | (_, _, s) :: rest =>
    match defect? s with
    | some cause => some cause
    | none => defectOfArms? rest

end

/-- A schema that can be used. -/
def Admissible (s : Schema) : Prop := s.defect? = none

end Schema

end TokenBridge.Layout
