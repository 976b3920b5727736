import TokenBridge.Json.Encoding
import TokenBridge.Json.Token
import TokenBridge.Value.Entries

/-!
# Reading JSON

Values from tokens, one token at a time. What is open stands on a stack, the innermost first, so
reading is a fold over the tokens and needs no recursion of its own. A key that comes again keeps
its place and takes the later value. How deep lists and maps may stand inside each other is up to the
reader.
-/

namespace TokenBridge.Json

/-- Why a text cannot be read as JSON. -/
inductive ReadFault where
  /-- It is none. -/
  | malformed
  /-- An integer has too many digits. -/
  | digits (fault : Number.DigitFault)
  /-- A list or a map stands inside more others than are followed. -/
  | tooDeep (isMap : Bool)
deriving DecidableEq, Repr

/-- The wording of a fault. -/
def ReadFault.message : ReadFault → String
  | .malformed => "the answer is not JSON"
  | .digits fault => fault.message
  | .tooDeep isMap =>
    "maximum recursion depth exceeded while decoding a JSON " ++
      (if isMap then "object" else "array") ++ " from a unicode string"

/-- A list or a map that is still open: its items so far, the last one first, or its entries. -/
inductive Frame where
  | list (done : List Value)
  | map (done : Value.Entries)
  /-- A map whose last key has no value yet. -/
  | entry (done : Value.Entries) (key : String)

/-- What may come next. -/
inductive Expected where
  /-- A value. -/
  | value
  /-- A value, or the end of a list without items. -/
  | firstItem
  /-- A key. -/
  | key
  /-- A key, or the end of a map without entries. -/
  | firstKey
  /-- The colon after a key. -/
  | colon (key : String)
  /-- A comma, or the end of what is open. -/
  | more
  /-- Nothing: the value is complete. -/
  | nothing (v : Value)

/-- How far the reading has come. -/
structure State where
  frames : List Frame
  expected : Expected

/-- Nothing was read yet. -/
def State.initial : State := ⟨[], .value⟩

/-- The state after a value was completed. -/
def State.complete (v : Value) : List Frame → Except ReadFault State
  | [] => .ok ⟨[], .nothing v⟩
  | .list done :: rest => .ok ⟨.list (v :: done) :: rest, .more⟩
  | .entry done key :: rest => .ok ⟨.map (Value.put done key v) :: rest, .more⟩
  | .map _ :: _ => .error .malformed

/-- The state after the end of the innermost list. -/
def State.endList : List Frame → Except ReadFault State
  | .list done :: rest => State.complete (.list done.reverse) rest
  | _ => .error .malformed

/-- The state after the end of the innermost map. -/
def State.endMap : List Frame → Except ReadFault State
  | .map done :: rest => State.complete (.map done) rest
  | _ => .error .malformed

section Depth

variable (depth : Nat)

/-- The state after the start of a list or a map, unless as many as may be are open. -/
def State.descend (frame : Frame) (expected : Expected) (frames : List Frame) :
    Except ReadFault State :=
  if frames.length < depth then .ok ⟨frame :: frames, expected⟩
  else .error (.tooDeep (match frame with | .list _ => false | _ => true))

/-- The state after a token that starts a value. -/
def State.startValue (frames : List Frame) : Token → Except ReadFault State
  | .openList => State.descend depth (.list []) .firstItem frames
  | .openMap => State.descend depth (.map []) .firstKey frames
  | .text s => State.complete (.text s) frames
  | .scalar v => State.complete v frames
  | .unreadable fault => .error (.digits fault)
  | _ => .error .malformed

end Depth

/-- The state after a comma. -/
def State.separate : List Frame → Except ReadFault State
  | .list done :: rest => .ok ⟨.list done :: rest, .value⟩
  | .map done :: rest => .ok ⟨.map done :: rest, .key⟩
  | _ => .error .malformed

/-- The state after the colon that follows a key. -/
def State.bindKey (key : String) : List Frame → Except ReadFault State
  | .map done :: rest => .ok ⟨.entry done key :: rest, .value⟩
  | _ => .error .malformed

section Depth

variable (depth : Nat)

/-- The state after a token, if the token can come here. -/
def State.step (state : State) (token : Token) : Except ReadFault State :=
  match state.expected, token with
  | .value, token => State.startValue depth state.frames token
  | .firstItem, .closeList => State.endList state.frames
  | .firstItem, token => State.startValue depth state.frames token
  | .key, .text s => .ok ⟨state.frames, .colon s⟩
  | .firstKey, .text s => .ok ⟨state.frames, .colon s⟩
  | .firstKey, .closeMap => State.endMap state.frames
  | .colon key, .colon => State.bindKey key state.frames
  | .more, .comma => State.separate state.frames
  | .more, .closeList => State.endList state.frames
  | .more, .closeMap => State.endMap state.frames
  | _, _ => .error .malformed

/-- The value that tokens write. The first token that cannot come where it stands decides. -/
def ofTokens (tokens : List Token) : Except ReadFault Value :=
  match tokens.foldlM (State.step depth) State.initial with
  | .ok ⟨_, .nothing v⟩ => .ok v
  | .ok _ => .error .malformed
  | .error fault => .error fault

/-- The value that a text writes. -/
def ofText (cs : List Char) : Except ReadFault Value := ofTokens depth (tokens cs)

/-- The value that bytes write, in whatever encoding they are. -/
def read (data : Bytes) : Except ReadFault Value :=
  match characters? data with
  | some cs => ofText depth cs
  | none => .error .malformed

end Depth

end TokenBridge.Json
