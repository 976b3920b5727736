import TokenBridge.Bytes
import TokenBridge.Number.Binary64
import TokenBridge.Text.Blank
import TokenBridge.Text.DecimalDigit

/-!
# Numbers read from text

Integers and floating-point numbers as people write them: white space around, a sign, digits of any
script, single underscores between digits, and for floating-point numbers a point, an exponent, and
the words for infinity and for no number, in any case.
-/

namespace TokenBridge.Number

/-- White space around a number; the information separators are not among it. -/
def isNumberBlank (c : Char) : Bool :=
  Text.isBlank c && !(0x1c ≤ c.toNat && c.toNat ≤ 0x1f)

/-- A text without the white space around it. -/
def trimNumber (cs : List Char) : List Char :=
  ((cs.dropWhile isNumberBlank).reverse.dropWhile isNumberBlank).reverse

/-- A digit of any script as the same digit of the first one; other characters are themselves. -/
def plainDigit (c : Char) : Char :=
  match Text.decimalDigit? c with
  | some d => Char.ofNat (0x30 + d)
  | none => c

/-- A text without its underscores, each of which must stand between two digits. -/
def dropUnderscores : Char → List Char → Option (List Char)
  | last, [] => if last = '_' then none else some []
  | last, c :: rest =>
    if c = '_' then
      if last.isDigit then dropUnderscores c rest else none
    else if last = '_' ∧ !c.isDigit then none
    else (dropUnderscores c rest).map (c :: ·)

/-- The number that digits write. -/
def digitsValue (ds : List Char) : Nat :=
  ds.foldl (fun n d => 10 * n + (d.toNat - 0x30)) 0

/-- A sign, if there is one, and what follows it. -/
def splitSign : List Char → Bool × List Char
  | '+' :: rest => (false, rest)
  | '-' :: rest => (true, rest)
  | cs => (false, cs)

/-- The text of a number, trimmed, with plain digits and without underscores. -/
def normalise (cs : List Char) : Option (List Char) :=
  dropUnderscores ' ' ((trimNumber cs).map plainDigit)

/-- The sign and the digits of an integer. -/
def integerDigits? (cs : List Char) : Option (Bool × List Char) :=
  match normalise cs with
  | none => none
  | some plain =>
    let (negative, digits) := splitSign plain
    if digits ≠ [] ∧ digits.all Char.isDigit then some (negative, digits) else none

/-- The integer that digits write under a sign. -/
def signed (negative : Bool) (digits : List Char) : Int :=
  if negative then -(digitsValue digits : Int) else digitsValue digits

/-- The exponent at the end of a number: nothing, or an `e` with a sign and digits. -/
def exponent? : List Char → Option Int
  | [] => some 0
  | c :: rest =>
    if c = 'e' ∨ c = 'E' then
      let (negative, digits) := splitSign rest
      if digits ≠ [] ∧ digits.all Char.isDigit then some (signed negative digits) else none
    else none

/-- An unsigned decimal: digits with a point among them or not, at least one digit, and an
exponent. -/
def unsigned? (negative : Bool) (cs : List Char) : Option Binary64 :=
  let whole := cs.takeWhile Char.isDigit
  let rest := cs.dropWhile Char.isDigit
  let (fraction, rest) := match rest with
    | '.' :: more => (more.takeWhile Char.isDigit, more.dropWhile Char.isDigit)
    | _ => ([], rest)
  if whole.isEmpty && fraction.isEmpty then none
  else (exponent? rest).map fun e =>
    Binary64.ofDecimal negative (digitsValue (whole ++ fraction)) (e - fraction.length)

/-- The floating-point number that a text writes. -/
def float? (cs : List Char) : Option Binary64 :=
  match normalise cs with
  | none => none
  | some plain =>
    let (negative, body) := splitSign plain
    let word := String.ofList (body.map Char.toLower)
    if word = "inf" ∨ word = "infinity" then some (.infinity negative)
    else if word = "nan" then some .nan
    else unsigned? negative body

end TokenBridge.Number
