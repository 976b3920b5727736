import TokenBridge.Text.CodePoint

/-!
# The encoding of JSON

JSON may come in any of the three Unicode transfer formats and either byte order. A byte order mark
says which; without one, the zero bytes among the first four do, since JSON starts with a character
of ASCII.
-/

namespace TokenBridge.Json

/-- A Unicode transfer format with its byte order. -/
inductive Encoding where
  | utf8
  | utf16 (order : Endian)
  | utf32 (order : Endian)
deriving DecidableEq, Repr

/-- The byte order marks; of two that start alike the longer comes first. -/
def byteOrderMarks : List (Bytes × Encoding) :=
  [([0x00, 0x00, 0xfe, 0xff], .utf32 .big), ([0xff, 0xfe, 0x00, 0x00], .utf32 .little),
    ([0xfe, 0xff], .utf16 .big), ([0xff, 0xfe], .utf16 .little), ([0xef, 0xbb, 0xbf], .utf8)]

/-- The encoding that zero bytes at the start show. -/
def encodingByZeros : Bytes → Encoding
  | a :: b :: c :: d :: _ =>
    if a = 0 then (if b = 0 then .utf32 .big else .utf16 .big)
    else if b = 0 then (if c = 0 ∧ d = 0 then .utf32 .little else .utf16 .little)
    else .utf8
  | [a, b] => if a = 0 then .utf16 .big else if b = 0 then .utf16 .little else .utf8
  | _ => .utf8

/-- The encoding of bytes, and the bytes without their byte order mark. -/
def detect (data : Bytes) : Encoding × Bytes :=
  match byteOrderMarks.find? fun entry => entry.1.isPrefixOf data with
  | some (mark, encoding) => (encoding, data.drop mark.length)
  | none => (encodingByZeros data, data)

/-- The characters that bytes write in an encoding. -/
def Encoding.read? : Encoding → Bytes → Option (List Char)
  | .utf8, data => (Text.codes8? data).map (·.map Text.scalar)
  | .utf16 order, data => (Text.units16? order data).map Text.joinSurrogates
  | .utf32 order, data => (Text.codes32? order data).map (·.map Text.scalar)

/-- The characters that bytes write, in whatever encoding they are. -/
def characters? (data : Bytes) : Option (List Char) :=
  (detect data).1.read? (detect data).2

end TokenBridge.Json
