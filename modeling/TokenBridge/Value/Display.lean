import TokenBridge.Number.Decimal
import TokenBridge.Number.Shortest
import TokenBridge.Text.Quoted
import TokenBridge.Value

/-!
# The text of a value

How a value appears inside a message. Texts and bytes are quoted, floating-point numbers have their
shortest digits, and the domain's own values are written as calls of their constructors.

An integer of too many digits is not written, and no value that contains one is. `display` and
`plainText` are the texts of values without such an integer; `shown` and `printed` ask for the
integers first.
-/

namespace TokenBridge.Value

/-- A call of a constructor with named arguments. -/
def callText (name : String) (arguments : List (String × String)) : String :=
  name ++ "(" ++ ", ".intercalate (arguments.map fun arg => arg.1 ++ "=" ++ arg.2) ++ ")"

/-- The brackets and commas of a tuple; one item alone keeps its comma. -/
def tupleText : List String → String
  | [only] => "(" ++ only ++ ",)"
  | items => "(" ++ ", ".intercalate items ++ ")"

mutual

/-- The text of a value inside a message. -/
def display : Value → String
  | .null => "None"
  | .bool b => if b then "True" else "False"
  | .int n => toString n
  | .float x => Number.text x
  | .text s => Text.quoted s
  | .bytes data => Text.quotedBytes data
  | .buffer data => "bytearray(" ++ Text.quotedBytes data ++ ")"
  | .prefixedEmpty => "PrefixedEmpty()"
  | .list items => "[" ++ ", ".intercalate (displayItems items) ++ "]"
  | .tuple items => tupleText (displayItems items)
  | .map entries => "\x7b" ++ ", ".intercalate (displayEntries entries) ++ "\x7d"
  | .view entries => "mappingproxy(\x7b" ++ ", ".intercalate (displayEntries entries) ++ "\x7d)"
  | .variant name value =>
    callText "Variant" [("name", Text.quoted name), ("value", display value)]
  | .trimmed amount decimals =>
    callText "TrimmedAmount" [("amount", display amount), ("decimals", display decimals)]
  | .mode m => "<Mode." ++ m.name ++ ": " ++ toString m.code ++ ">"
  | .signature guardianIndex r s recoveryId =>
    callText "GuardianSignature"
      [("guardian_index", display guardianIndex), ("r", display r), ("s", display s),
        ("recovery_id", display recoveryId)]
  | .attestation version guardianSet signatures body =>
    callText "Vaa"
      [("version", display version), ("guardian_set_index", display guardianSet),
        ("signatures", tupleText (displayItems signatures)), ("body", display body)]
  | .statusRecord status failed message url explorer =>
    callText "StatusRecord"
      [("status", display status), ("failed", display failed), ("message", display message),
        ("url", display url), ("explorer", display explorer)]
  | .relayError message status url _ =>
    "RelayFailedError(" ++ display message ++ ", status=" ++ display status ++ ", url=" ++
      display url ++ ")"

/-- The texts of the items of a sequence. -/
def displayItems : List Value → List String
  | [] => []
  | v :: rest => display v :: displayItems rest

/-- The texts of the entries of a map. -/
def displayEntries : List (String × Value) → List String
  | [] => []
  | (key, v) :: rest => (Text.quoted key ++ ": " ++ display v) :: displayEntries rest

end

/-- The text of a value that stands alone: a text is itself, a mode is the digits of its number,
empty bytes are written as bytes however they were read, a failure is its message, and all else is
as inside a message. -/
def plainText : Value → String
  | .text s => s
  | .mode m => toString m.code
  | .prefixedEmpty => Text.quotedBytes []
  | .relayError message _ _ _ => message.plainText
  | v => v.display

/-! ## Texts that may be missing -/

mutual

/-- The integers that the text of a value inside a message contains. -/
def integers : Value → List Int
  | .int n => [n]
  | .list items => integersOfItems items
  | .tuple items => integersOfItems items
  | .map entries => integersOfEntries entries
  | .view entries => integersOfEntries entries
  | .variant _ value => integers value
  | .trimmed amount decimals => integers amount ++ integers decimals
  | .signature guardianIndex r s recoveryId =>
    integers guardianIndex ++ integers r ++ integers s ++ integers recoveryId
  | .attestation version guardianSet signatures body =>
    integers version ++ integers guardianSet ++ integersOfItems signatures ++ integers body
  | .statusRecord status failed message url explorer =>
    integers status ++ integers failed ++ integers message ++ integers url ++ integers explorer
  | .relayError message status url _ => integers message ++ integers status ++ integers url
  | _ => []

/-- The integers of the items of a sequence. -/
def integersOfItems : List Value → List Int
  | [] => []
  | v :: rest => integers v ++ integersOfItems rest

/-- The integers of the entries of a map. -/
def integersOfEntries : List (String × Value) → List Int
  | [] => []
  | (_, v) :: rest => integers v ++ integersOfEntries rest

end

/-- The text of a value inside a message, if every integer in it can be written. -/
def shown (v : Value) : Except Number.DigitFault String :=
  if v.integers.all fun n => decide (Number.IsWritable n) then .ok v.display else .error .writing

/-- The text of a value that stands alone, if every integer in it can be written. -/
def printed : Value → Except Number.DigitFault String
  | .relayError message _ _ _ => message.printed
  | v => if v.integers.all fun n => decide (Number.IsWritable n) then .ok v.plainText
    else .error .writing

/-! ## Laws -/

@[simp] theorem integers_int (n : Int) : integers (.int n) = [n] := rfl

theorem shown_int (n : Int) : shown (.int n) = Number.decimal n := by
  unfold shown Number.decimal
  rw [integers_int, List.all_cons, List.all_nil, Bool.and_true]
  simp only [decide_eq_true_eq]
  rfl

theorem printed_int (n : Int) : printed (.int n) = Number.decimal n := by
  rw [← shown_int]
  rfl

theorem exists_long_of_shown {v : Value} {fault : Number.DigitFault}
    (h : v.shown = .error fault) : ∃ n ∈ v.integers, ¬ Number.IsWritable n := by
  unfold shown at h
  split at h
  · cases h
  · rename_i hall
    simpa using hall

theorem exists_long_of_printed {v : Value} {fault : Number.DigitFault}
    (h : v.printed = .error fault) : ∃ n ∈ v.integers, ¬ Number.IsWritable n := by
  fun_induction printed v with
  | case1 message status url explorer ih =>
    obtain ⟨n, hn, hlong⟩ := ih h
    exact ⟨n, List.mem_append_left _ (List.mem_append_left _ hn), hlong⟩
  | case2 v _ _ => cases h
  | case3 v _ hall => simpa using hall

end TokenBridge.Value
