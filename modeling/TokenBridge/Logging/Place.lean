import TokenBridge.Number.Arithmetic
import TokenBridge.Text.Quoted

/-!
# Places of templates

What a field of a record looks like at a place of a template: cut, filled up and signed as the
flags, the width and the precision of the place say, and written as its conversion asks for.
-/

namespace TokenBridge.Logging

/-- A field of a record. What is neither a text nor a number is only ever shown. -/
inductive Field where
  | text (s : String)
  | number (n : Int)
  | shown (s : String)

/-- How a place is filled. -/
structure Place where
  flags : List Char
  width : Nat
  precision : Option Nat
  conversion : Char

/-- Characters filled up to a width with spaces. -/
def spread (place : Place) (cs : List Char) : List Char :=
  let fill := List.replicate (place.width - cs.length) ' '
  if place.flags.contains '-' then cs ++ fill else fill ++ cs

/-- Digits after a sign, filled up to a width with zeros where the flags say so. -/
def spreadNumber (place : Place) (negative : Bool) (marker digits : List Char) : List Char :=
  let sign := if negative then ['-'] else if place.flags.contains '+' then ['+']
    else if place.flags.contains ' ' then [' '] else []
  let head := sign ++ marker
  if place.flags.contains '0' && !place.flags.contains '-' then
    head ++ List.replicate (place.width - head.length - digits.length) '0' ++ digits
  else spread place (head ++ digits)

/-- A text at a place. -/
def fillText (place : Place) (s : String) : List Char :=
  spread place (match place.precision with
    | some n => s.toList.take n
    | none => s.toList)

/-- An integer at a place, in a base and with the marker of the base where the flags ask for it. -/
def fillInteger (place : Place) (base : Nat) (marker : List Char) (n : Int) : List Char :=
  let digits := Nat.toDigits base n.natAbs
  let digits := List.replicate (place.precision.getD 0 - digits.length) '0' ++ digits
  spreadNumber place (n < 0) (if place.flags.contains '#' then marker else []) digits

/-! ### Numbers as doubles -/

/-- The integer that a double has in place of one; none where no double is near. -/
def asDouble? (n : Int) : Option Int := (Binary64.ofInt? n).bind Binary64.toInt?

/-- The point before decimals; before none it stands only where the flags ask for it. -/
def pointed (place : Place) (decimals : List Char) : List Char :=
  if decimals.isEmpty && !place.flags.contains '#' then [] else '.' :: decimals

/-- An integer at a place with decimals. -/
def fillDecimal (place : Place) (n : Int) : List Char :=
  let decimals := List.replicate (place.precision.getD 6) '0'
  spreadNumber place (n < 0) [] (Nat.toDigits 10 n.natAbs ++ pointed place decimals)

/-- So many leading digits of an integer, rounded with a half to the even neighbour, and the power
of ten that the first of them counts. -/
def leadingDigits (count n : Nat) : List Char × Nat :=
  let ds := Nat.toDigits 10 n
  if ds.length ≤ count then (ds ++ List.replicate (count - ds.length) '0', ds.length - 1)
  else
    let rounded := Nat.toDigits 10 (Binary64.roundQuotient n (10 ^ (ds.length - count)))
    (rounded.take count, ds.length - 1 + (rounded.length - count))

/-- One digit, decimals and the power of ten. -/
def scientific (place : Place) (first : List Char) (decimals : List Char) (power : Nat) :
    List Char :=
  let exponent := Nat.toDigits 10 power
  first ++ pointed place decimals ++ ['e', '+'] ++
    List.replicate (2 - exponent.length) '0' ++ exponent

/-- An integer at a place as one digit with decimals, and its power of ten. -/
def fillScientific (place : Place) (n : Int) : List Char :=
  let (ds, power) := leadingDigits (place.precision.getD 6 + 1) n.natAbs
  spreadNumber place (n < 0) [] (scientific place (ds.take 1) (ds.drop 1) power)

/-- Decimals without the zeros at their end, which stay where the flags ask for them. -/
def shortened (place : Place) (decimals : List Char) : List Char :=
  if place.flags.contains '#' then decimals
  else (decimals.reverse.dropWhile (· == '0')).reverse

/-- An integer at a place, with a power of ten if it has more digits than are asked for. -/
def fillGeneral (place : Place) (n : Int) : List Char :=
  let count := max 1 (place.precision.getD 6)
  let (ds, power) := leadingDigits count n.natAbs
  spreadNumber place (n < 0) [] <|
    if power < count then
      ds.take (power + 1) ++ pointed place (shortened place (ds.drop (power + 1)))
    else scientific place (ds.take 1) (shortened place (ds.drop 1)) power

/-- An integer at a place that shows it as a double. -/
def fillDouble (place : Place) (n : Int) : Option (List Char) :=
  (asDouble? n).bind fun n =>
    let upper (cs : List Char) : List Char := cs.map Char.toUpper
    match place.conversion with
    | 'f' | 'F' => some (fillDecimal place n)
    | 'e' => some (fillScientific place n)
    | 'E' => some (upper (fillScientific place n))
    | 'g' => some (fillGeneral place n)
    | 'G' => some (upper (fillGeneral place n))
    | _ => none

/-! ### Fields -/

/-- A quoted text with everything beyond ASCII escaped. -/
def asciiQuoted (s : String) : String :=
  String.ofList ((Text.quoted s).toList.flatMap fun c =>
    if c.toNat < 0x80 then [c]
    else if c.toNat < 0x100 then '\\' :: 'x' :: Text.hexPadded 2 c.toNat
    else if c.toNat < 0x10000 then '\\' :: 'u' :: Text.hexPadded 4 c.toNat
    else '\\' :: 'U' :: Text.hexPadded 8 c.toNat)

/-- The character of a number, if there is one. -/
def character? (n : Int) : Option Char :=
  if 0 ≤ n ∧ n < 0x110000 then some (Char.ofNat n.toNat) else none

/-- A field at a place; none when the conversion does not suit the field. -/
def fillPlace (place : Place) (field : Field) : Option (List Char) :=
  match place.conversion, field with
  | 's', .text s => some (fillText place s)
  | 'r', .text s => some (fillText place (Text.quoted s))
  | 'a', .text s => some (fillText place (asciiQuoted s))
  | 'c', .text s => if s.length = 1 then some (spread place s.toList) else none
  | _, .text _ => none
  | 's', .number n | 'r', .number n | 'a', .number n => some (fillText place (toString n))
  | 'c', .number n => (character? n).map fun c => spread place [c]
  | 'd', .number n | 'i', .number n | 'u', .number n => some (fillInteger place 10 [] n)
  | 'o', .number n => some (fillInteger place 8 ['0', 'o'] n)
  | 'x', .number n => some (fillInteger place 16 ['0', 'x'] n)
  | 'X', .number n => some ((fillInteger place 16 ['0', 'x'] n).map Char.toUpper)
  | _, .number n => fillDouble place n
  | 's', .shown s | 'r', .shown s | 'a', .shown s => some (fillText place s)
  | _, .shown _ => none

end TokenBridge.Logging
