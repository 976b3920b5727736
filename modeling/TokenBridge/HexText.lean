import TokenBridge.Bytes
import TokenBridge.ErrorKind
import TokenBridge.Text.Blank
import TokenBridge.Value

/-!
# Hexadecimal text

Byte strings written in hexadecimal, as test messages are kept in files: digits of either case, an
optional leading `0x`, and white space anywhere.
-/

namespace TokenBridge.HexText

/-- Why a text is no hexadecimal text. -/
inductive Fault where
  /-- Something other than a hexadecimal digit, at a position of the text without white space and
  without the leading `0x`. -/
  | notADigit (position : Nat)
  /-- The content of a file is not UTF-8. -/
  | undecodable
  /-- A value that is no text. -/
  | notText
  /-- A byte string where a text belongs. -/
  | bytesForText
deriving DecidableEq, Repr

/-- The family of a fault. -/
def Fault.kind : Fault → ErrorKind
  | .notADigit _ => .schemaViolation
  | .undecodable => .undecodableText
  | .notText => .missingMember
  | .bytesForText => .wrongKind

/-- The wording of a fault. -/
def Fault.message : Fault → String
  | .notADigit position =>
    s!"Invalid hex fixture: non-hexadecimal number found in fromhex() arg at position {position}"
  | .undecodable => "the file is not UTF-8"
  | .notText => "the value is no text"
  | .bytesForText => "the value is bytes"

/-- The value of a hexadecimal digit of either case. -/
def digit? (c : Char) : Option Nat :=
  if '0' ≤ c ∧ c ≤ '9' then some (c.toNat - 0x30)
  else if 'a' ≤ c ∧ c ≤ 'f' then some (c.toNat - 0x57)
  else if 'A' ≤ c ∧ c ≤ 'F' then some (c.toNat - 0x37)
  else none

/-- A text without its white space. -/
def clean (cs : List Char) : List Char :=
  cs.filter fun c => !Text.isBlank c

/-- A text without one leading `0x` or `0X`. -/
def dropMarker : List Char → List Char
  | '0' :: 'x' :: rest => rest
  | '0' :: 'X' :: rest => rest
  | cs => cs

/-- The bytes that pairs of digits write, where `position` counts the characters before; a digit
alone is missing its partner at the end of the text. -/
def readPairs (position : Nat) : List Char → Except Fault Bytes
  | [] => .ok []
  | [a] => .error (.notADigit (if (digit? a).isNone then position else position + 1))
  | a :: b :: rest =>
    match digit? a, digit? b with
    | none, _ => .error (.notADigit position)
    | _, none => .error (.notADigit (position + 1))
    | some high, some low => do
      let bytes ← readPairs (position + 2) rest
      .ok (UInt8.ofNat (16 * high + low) :: bytes)

/-- The bytes that digits write. A character beyond ASCII is reported before any other. -/
def readDigits (cs : List Char) : Except Fault Bytes :=
  match cs.findIdx? fun c => 0x80 ≤ c.toNat with
  | some position => .error (.notADigit position)
  | none => readPairs 0 cs

/-- The bytes that a hexadecimal text writes. -/
def parse (text : String) : Except Fault Bytes :=
  readDigits (dropMarker (clean text.toList))

/-- The bytes that the content of a file writes. -/
def parseFile (content : Bytes) : Except Fault Bytes :=
  match String.fromUTF8? ⟨content.toArray⟩ with
  | some text => parse text
  | none => .error .undecodable

/-- The bytes that a value writes, which must be a text. -/
def parseOf : Value → Except Fault Bytes
  | .text s => parse s
  | v =>
    match v.byteString? with
    | none => .error .notText
    | some data =>
      if data.all fun b => (9 ≤ b && b ≤ 13) || b == 32 then .ok [] else .error .bytesForText

end TokenBridge.HexText
