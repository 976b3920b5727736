import TokenBridge.Text.CodePoint
import TokenBridge.Text.Printable

/-!
# Quoted text

How texts and byte strings appear inside messages: between apostrophes, or between double quotes
when the content holds an apostrophe and no double quote. The delimiter, the backslash and
everything unprintable are escaped.
-/

namespace TokenBridge.Text

/-- The lower-case hexadecimal digits of a number, padded to a width. -/
def hexPadded (width n : Nat) : List Char :=
  let digits := Nat.toDigits 16 n
  List.replicate (width - digits.length) '0' ++ digits

/-- The delimiter that needs the fewest escapes, an apostrophe if there is a choice. -/
def delimiter (hasApostrophe hasDoubleQuote : Bool) : Char :=
  if hasApostrophe && !hasDoubleQuote then '"' else '\''

/-- One character of a quoted text. -/
def escapeChar (quote c : Char) : List Char :=
  if c = quote ∨ c = '\\' then ['\\', c]
  else if c = '\n' then ['\\', 'n']
  else if c = '\r' then ['\\', 'r']
  else if c = '\t' then ['\\', 't']
  else if isPrintable c then [c]
  else
    -- a half of a surrogate pair is shown by its own number
    let n := (half? c).getD c.toNat
    if n < 0x100 then '\\' :: 'x' :: hexPadded 2 n
    else if n < 0x10000 then '\\' :: 'u' :: hexPadded 4 n
    else '\\' :: 'U' :: hexPadded 8 n

/-- A text between quotes. -/
def quoted (text : String) : String :=
  let cs := text.toList
  let quote := delimiter (cs.contains '\'') (cs.contains '"')
  String.ofList (quote :: cs.flatMap (escapeChar quote) ++ [quote])

/-- One byte of a quoted byte string. -/
def escapeByte (quote : Char) (byte : UInt8) : List Char :=
  if 0x80 ≤ byte.toNat then '\\' :: 'x' :: hexPadded 2 byte.toNat
  else escapeChar quote (Char.ofNat byte.toNat)

/-- A byte string between quotes, marked by a leading `b`. -/
def quotedBytes (data : Bytes) : String :=
  let quote := delimiter (data.contains 0x27) (data.contains 0x22)
  String.ofList ('b' :: quote :: data.flatMap (escapeByte quote) ++ [quote])

end TokenBridge.Text
