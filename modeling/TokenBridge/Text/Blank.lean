/-!
# Blanks

The characters that count as white space: those with the Unicode property `White_Space`, and the
four information separators `U+001C` to `U+001F`. The zero-width space, the zero-width no-break
space and the Mongolian vowel separator are not among them.
-/

namespace TokenBridge.Text

/-- The code points that are white space, as closed ranges in increasing order. -/
def blankRanges : List (Nat × Nat) :=
  [(0x9, 0xd), (0x1c, 0x20), (0x85, 0x85), (0xa0, 0xa0), (0x1680, 0x1680), (0x2000, 0x200a),
    (0x2028, 0x2029), (0x202f, 0x202f), (0x205f, 0x205f), (0x3000, 0x3000)]

/-- A white-space character. -/
def isBlank (c : Char) : Bool :=
  blankRanges.any fun range => range.1 ≤ c.toNat && c.toNat ≤ range.2

/-- A text without its leading and trailing white space. -/
def trimBlanks (cs : List Char) : List Char :=
  ((cs.dropWhile isBlank).reverse.dropWhile isBlank).reverse

end TokenBridge.Text
