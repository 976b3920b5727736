import TokenBridge.Logging.Place
import TokenBridge.Text.DecimalDigit
import TokenBridge.Text.Word

/-!
# Templates of log lines

A template is a text in which `%(name)s` stands for a field of a record. Between the name and the
conversion there may be flags, a width and a precision. A template is valid when at least one such
place is in it; filling it needs every place to name a field and to suit the field's kind.
-/

namespace TokenBridge.Logging

/-! ## Validity -/

/-- A flag of a place. -/
def isFlag (c : Char) : Bool := ['#', '0', '+', ' ', '-'].contains c

/-- The characters that end a place, in either case; three of other scripts count as the Latin
letters they are case variants of. -/
def isConversion (c : Char) : Bool :=
  "diouxefgcrsa%".toList.contains c.toLower || ['İ', 'ı', 'ſ'].contains c

/-- What follows a width: a star, or digits of any script, or nothing. -/
def afterWidth : List Char → List Char
  | '*' :: rest => rest
  | cs => cs.dropWhile fun c => (Text.decimalDigit? c).isSome

/-- What follows a precision: a point with a width, or nothing. -/
def afterPrecision : List Char → List Char
  | '.' :: rest => if (afterWidth rest).length < rest.length then afterWidth rest else '.' :: rest
  | cs => cs

/-- Whether a place starts here. -/
def startsPlace : List Char → Bool
  | '%' :: '(' :: rest =>
    match rest.takeWhile Text.isWord, rest.dropWhile Text.isWord with
    | _ :: _, ')' :: more =>
      match afterPrecision (afterWidth (more.dropWhile isFlag)) with
      | c :: _ => isConversion c
      | [] => false
    | _, _ => false
  | _ => false

/-- Whether a place is in the template. -/
def isTemplate : List Char → Bool
  | [] => false
  | c :: rest => startsPlace (c :: rest) || isTemplate rest

/-! ## Filling -/

/-- The number that digits write, and none for no digits. -/
def decimal? (ds : List Char) : Option Nat :=
  if ds.isEmpty then none else some (ds.foldl (fun n d => 10 * n + (d.toNat - 0x30)) 0)

/-- The place that starts after the closing parenthesis of a name, and what follows it. -/
def readPlace (cs : List Char) : Option (Place × List Char) :=
  let flags := cs.takeWhile isFlag
  let cs := cs.dropWhile isFlag
  let width := cs.takeWhile Char.isDigit
  let cs := cs.dropWhile Char.isDigit
  let (precision, cs) := match cs with
    | '.' :: rest => (some ((decimal? (rest.takeWhile Char.isDigit)).getD 0),
        rest.dropWhile Char.isDigit)
    | _ => (none, cs)
  let cs := match cs with
    | c :: rest => if ['h', 'l', 'L'].contains c then rest else c :: rest
    | [] => []
  match cs with
  | conversion :: rest => some (⟨flags, (decimal? width).getD 0, precision, conversion⟩, rest)
  | [] => none

/-- A template filled with the fields of a record; none when a place cannot be filled. The
template's length bounds the steps. -/
def fillFrom (fields : List (String × Field)) : Nat → List Char → List Char → Option (List Char)
  | 0, _, done => some done.reverse
  | _ + 1, [], done => some done.reverse
  | fuel + 1, '%' :: '%' :: rest, done => fillFrom fields fuel rest ('%' :: done)
  | fuel + 1, '%' :: '(' :: rest, done =>
    let name := rest.takeWhile (· != ')')
    match rest.dropWhile (· != ')') with
    | [] => none
    | _ :: rest =>
      match fields.lookup (String.ofList name), readPlace rest with
      | some field, some (place, rest) =>
        match fillPlace place field with
        | some cs => fillFrom fields fuel rest (cs.reverse ++ done)
        | none => none
      | _, _ => none
  | fuel + 1, c :: rest, done => if c = '%' then none else fillFrom fields fuel rest (c :: done)

/-- A template filled with the fields of a record. -/
def fill (fields : List (String × Field)) (template : String) : Option String :=
  let cs := template.toList
  (fillFrom fields cs.length cs []).map String.ofList

end TokenBridge.Logging
