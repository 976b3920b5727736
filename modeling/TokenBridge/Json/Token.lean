import TokenBridge.HexText
import TokenBridge.Number.Decimal
import TokenBridge.Text.CodePoint
import TokenBridge.Value

/-!
# Tokens of JSON

The smallest parts that JSON is made of: brackets, commas and colons, texts, numbers, and words.
Three words beyond the standard are known, for what no decimal can write. Each scanner takes a token
off the front of the text and leaves less than there was, so cutting a text into tokens ends.
-/

namespace TokenBridge.Json

/-- A token. A number or a word is already the value that it stands for, unless it is an integer of
too many digits. Where the text goes on with no token, junk ends it. -/
inductive Token where
  | openList
  | closeList
  | openMap
  | closeMap
  | comma
  | colon
  | text (s : String)
  | scalar (v : Value)
  | unreadable (fault : Number.DigitFault)
  | junk

/-- White space between tokens. -/
def isBlank (c : Char) : Bool := c = ' ' || c = '\t' || c = '\n' || c = '\r'

/-- The token of a character that is one by itself. -/
def punctuation? (c : Char) : Option Token :=
  if c = '[' then some .openList
  else if c = ']' then some .closeList
  else if c = '\x7b' then some .openMap
  else if c = '\x7d' then some .closeMap
  else if c = ',' then some .comma
  else if c = ':' then some .colon
  else none

/-- The words and what they stand for. -/
def wordValues : List (List Char × Value) :=
  [("null".toList, .null), ("true".toList, .bool true), ("false".toList, .bool false),
    ("NaN".toList, .float .nan), ("Infinity".toList, .float (.infinity false)),
    ("-Infinity".toList, .float (.infinity true))]

/-- The word at the front of a text, and what follows it. -/
def scanWord (cs : List Char) : Option (Value × List Char) :=
  (wordValues.find? fun entry => entry.1.isPrefixOf cs).map fun entry =>
    (entry.2, cs.drop entry.1.length)

/-! ## Numbers -/

/-- The digits before the point: zero alone, or digits that do not start with zero. -/
def scanWhole : List Char → Option (List Char × List Char)
  | [] => none
  | c :: rest =>
    if c = '0' then some ([c], rest)
    else if c.isDigit then some (c :: rest.takeWhile Char.isDigit, rest.dropWhile Char.isDigit)
    else none

/-- The digits after a point, if a point with digits comes first. -/
def scanFraction : List Char → List Char × List Char
  | '.' :: rest =>
    if (rest.takeWhile Char.isDigit).isEmpty then ([], '.' :: rest)
    else (rest.takeWhile Char.isDigit, rest.dropWhile Char.isDigit)
  | cs => ([], cs)

/-- The exponent, if an `e` with digits comes first. -/
def scanExponent : List Char → Option Int × List Char
  | [] => (none, [])
  | c :: rest =>
    let (negative, body) := Number.splitSign rest
    if (c = 'e' ∨ c = 'E') ∧ !(body.takeWhile Char.isDigit).isEmpty then
      (some (Number.signed negative (body.takeWhile Char.isDigit)), body.dropWhile Char.isDigit)
    else (none, c :: rest)

/-- The token of a number: without fraction and exponent it is an integer. -/
def numberToken (negative : Bool) (whole fraction : List Char) (exponent : Option Int) : Token :=
  if fraction.isEmpty && exponent.isNone then
    match Number.ofDigits negative whole with
    | .ok n => .scalar (.int n)
    | .error fault => .unreadable fault
  else
    .scalar <| .float <| .ofDecimal negative (Number.digitsValue (whole ++ fraction))
      (exponent.getD 0 - fraction.length)

/-- An unsigned number at the front of a text, under a sign. -/
def scanUnsigned (negative : Bool) (cs : List Char) : Option (Token × List Char) :=
  (scanWhole cs).map fun (whole, afterWhole) =>
    let (fraction, afterFraction) := scanFraction afterWhole
    let (exponent, rest) := scanExponent afterFraction
    (numberToken negative whole fraction exponent, rest)

/-- The number at the front of a text, and what follows it. -/
def scanNumber : List Char → Option (Token × List Char)
  | '-' :: rest => scanUnsigned true rest
  | cs => scanUnsigned false cs

/-! ## Texts -/

/-- The characters that a backslash and a letter stand for. -/
def escapes : List (Char × Char) :=
  [('"', '"'), ('\\', '\\'), ('/', '/'), ('b', '\x08'), ('f', '\x0c'), ('n', '\n'), ('r', '\r'),
    ('t', '\t')]

/-- The number that four hexadecimal digits write. -/
def hexCode? (a b c d : Char) : Option Nat :=
  match HexText.digit? a, HexText.digit? b, HexText.digit? c, HexText.digit? d with
  | some a, some b, some c, some d => some (0x1000 * a + 0x100 * b + 0x10 * c + d)
  | _, _, _, _ => none

/-- The numbers of the characters up to the closing quotation mark, and what follows it. Control
characters must be escaped. -/
def scanText : List Char → Option (List Nat × List Char)
  | [] => none
  | '"' :: rest => some ([], rest)
  | '\\' :: 'u' :: a :: b :: c :: d :: rest =>
    match hexCode? a b c d with
    | some n => (scanText rest).map fun (codes, after) => (n :: codes, after)
    | none => none
  | '\\' :: letter :: rest =>
    match escapes.lookup letter with
    | some c => (scanText rest).map fun (codes, after) => (c.toNat :: codes, after)
    | none => none
  | c :: rest =>
    if c.toNat < 0x20 then none
    else (scanText rest).map fun (codes, after) => (c.toNat :: codes, after)

/-! ## Tokens -/

/-- The token at the front of a text that starts with a character, and what follows it. -/
def scanToken (c : Char) (rest : List Char) : Option (Token × List Char) :=
  match punctuation? c with
  | some token => some (token, rest)
  | none =>
    if c = '"' then
      (scanText rest).map fun (codes, after) =>
        (.text (String.ofList (Text.joinSurrogates codes)), after)
    else
      match scanWord (c :: rest) with
      | some (v, after) => some (.scalar v, after)
      | none => scanNumber (c :: rest)

/-! ### A token takes something off the text -/

theorem length_dropWhile_le (p : Char → Bool) (cs : List Char) :
    (cs.dropWhile p).length ≤ cs.length := (List.dropWhile_sublist p).length_le

theorem scanWord_length {cs after : List Char} {v : Value} (h : scanWord cs = some (v, after)) :
    after.length < cs.length := by
  obtain ⟨entry, found, same⟩ := Option.map_eq_some_iff.1 h
  simp only [Prod.mk.injEq] at same
  have known := List.mem_of_find?_eq_some found
  have front : entry.1.isPrefixOf cs = true :=
    List.find?_some (p := fun entry : List Char × Value => entry.1.isPrefixOf cs) found
  have front := (List.isPrefixOf_iff_prefix.1 front).length_le
  have some_letters : 0 < entry.1.length := by
    simp only [wordValues, List.mem_cons, List.not_mem_nil, or_false] at known
    rcases known with rfl | rfl | rfl | rfl | rfl | rfl <;> decide
  rw [← same.2, List.length_drop]
  omega

theorem scanWhole_length {cs whole after : List Char} (h : scanWhole cs = some (whole, after)) :
    after.length < cs.length := by
  cases cs with
  | nil => simp [scanWhole] at h
  | cons c rest =>
    have shorter := length_dropWhile_le Char.isDigit rest
    simp only [scanWhole] at h
    split at h
    · simp only [Option.some.injEq, Prod.mk.injEq] at h
      simp [← h.2]
    · split at h
      · simp only [Option.some.injEq, Prod.mk.injEq] at h
        simp only [← h.2, List.length_cons]
        omega
      · simp at h

theorem scanFraction_length (cs : List Char) : (scanFraction cs).2.length ≤ cs.length := by
  unfold scanFraction
  split
  · rename_i rest
    have shorter := length_dropWhile_le Char.isDigit rest
    split
    · simp
    · simp only [List.length_cons]
      omega
  · simp

theorem splitSign_length (cs : List Char) : (Number.splitSign cs).2.length ≤ cs.length := by
  unfold Number.splitSign
  split <;> simp

theorem scanExponent_length (cs : List Char) : (scanExponent cs).2.length ≤ cs.length := by
  cases cs with
  | nil => simp [scanExponent]
  | cons c rest =>
    have signless := splitSign_length rest
    have shorter := length_dropWhile_le Char.isDigit (Number.splitSign rest).2
    simp only [scanExponent]
    split
    · simp only [List.length_cons]
      omega
    · simp

theorem scanUnsigned_length {negative : Bool} {cs after : List Char} {token : Token}
    (h : scanUnsigned negative cs = some (token, after)) : after.length < cs.length := by
  obtain ⟨⟨whole, afterWhole⟩, found, same⟩ := Option.map_eq_some_iff.1 h
  simp only [Prod.mk.injEq] at same
  have first := scanWhole_length found
  have second := scanFraction_length afterWhole
  have third := scanExponent_length (scanFraction afterWhole).2
  rw [← same.2]
  omega

theorem scanNumber_length {cs after : List Char} {token : Token}
    (h : scanNumber cs = some (token, after)) : after.length < cs.length := by
  unfold scanNumber at h
  split at h
  · have := scanUnsigned_length h
    simp only [List.length_cons]
    omega
  · exact scanUnsigned_length h

theorem scanText_length {cs after : List Char} {codes : List Nat}
    (h : scanText cs = some (codes, after)) : after.length < cs.length := by
  fun_induction scanText cs generalizing codes with
  | case1 => simp at h
  | case2 rest =>
    simp only [Option.some.injEq, Prod.mk.injEq] at h
    simp [← h.2]
  | case3 a b c d rest n found ih =>
    obtain ⟨⟨others, rest'⟩, inner, same⟩ := Option.map_eq_some_iff.1 h
    simp only [Prod.mk.injEq] at same
    have := ih (same.2 ▸ inner)
    simp only [List.length_cons]
    omega
  | case4 => simp at h
  | case5 letter rest _ c found ih =>
    obtain ⟨⟨others, rest'⟩, inner, same⟩ := Option.map_eq_some_iff.1 h
    simp only [Prod.mk.injEq] at same
    have := ih (same.2 ▸ inner)
    simp only [List.length_cons]
    omega
  | case6 => simp at h
  | case7 => simp at h
  | case8 c rest _ _ _ _ ih =>
    obtain ⟨⟨others, rest'⟩, inner, same⟩ := Option.map_eq_some_iff.1 h
    simp only [Prod.mk.injEq] at same
    have := ih (same.2 ▸ inner)
    simp only [List.length_cons]
    omega

theorem scanToken_length {c : Char} {rest after : List Char} {token : Token}
    (h : scanToken c rest = some (token, after)) : after.length ≤ rest.length := by
  unfold scanToken at h
  split at h
  · simp only [Option.some.injEq, Prod.mk.injEq] at h
    simp [← h.2]
  · split at h
    · obtain ⟨⟨codes, rest'⟩, inner, same⟩ := Option.map_eq_some_iff.1 h
      simp only [Prod.mk.injEq] at same
      have := scanText_length (same.2 ▸ inner)
      omega
    · split at h
      · rename_i found
        simp only [Option.some.injEq, Prod.mk.injEq] at h
        have := scanWord_length (h.2 ▸ found)
        simp only [List.length_cons] at this
        omega
      · have := scanNumber_length h
        simp only [List.length_cons] at this
        omega

/-- The tokens of a text. -/
def tokens : List Char → List Token
  | [] => []
  | c :: rest =>
    if isBlank c then tokens rest
    else
      match _ : scanToken c rest with
      | some (token, after) => token :: tokens after
      | none => [.junk]
termination_by cs => cs.length
decreasing_by
  · simp
  · rename_i found
    have := scanToken_length found
    simp only [List.length_cons]
    omega

end TokenBridge.Json
