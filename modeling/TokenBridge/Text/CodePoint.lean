import TokenBridge.Bytes

/-!
# Code points

Texts from the numbers of their characters. Half of a surrogate pair is no character: two halves
that belong together are one character beyond the first plane. A half on its own may stand in a text
all the same; for each of them there is a private character at the end of the last plane, which
nothing else is written with. Bytes become numbers by the three transfer formats; the ones that are
cut short, overlong or out of range are no text.
-/

namespace TokenBridge.Text

/-- The number of the private character that stands for the first of all halves. -/
def firstHalf : Nat := 0x10f800

/-- The character of a number, or the one that stands for a half. -/
def scalar (n : Nat) : Char :=
  if n.isValidChar then Char.ofNat n else Char.ofNat (firstHalf + (n - 0xd800))

/-- The number of the half that a character stands for. -/
def half? (c : Char) : Option Nat :=
  if firstHalf ≤ c.toNat then some (0xd800 + (c.toNat - firstHalf)) else none

/-- The number is the first half of a surrogate pair. -/
def isHighSurrogate (n : Nat) : Bool := 0xd800 ≤ n && n < 0xdc00

/-- The number is the second half of a surrogate pair. -/
def isLowSurrogate (n : Nat) : Bool := 0xdc00 ≤ n && n < 0xe000

/-- The number of the character that two halves make. -/
def joined (high low : Nat) : Nat := 0x10000 + 0x400 * (high - 0xd800) + (low - 0xdc00)

/-- The characters of some numbers, among which halves that follow each other are joined. -/
def joinSurrogates : List Nat → List Char
  | [] => []
  | [n] => [scalar n]
  | high :: low :: rest =>
    if isHighSurrogate high && isLowSurrogate low then
      scalar (joined high low) :: joinSurrogates rest
    else scalar high :: joinSurrogates (low :: rest)

/-! ## Transfer formats -/

/-- What the first byte of a character says: how many bytes follow, the leading bits, and the least
number that may be written at this length. -/
def leadByte? (n : Nat) : Option (Nat × Nat × Nat) :=
  if n < 0x80 then some (0, n, 0)
  else if 0xc0 ≤ n ∧ n < 0xe0 then some (1, n - 0xc0, 0x80)
  else if 0xe0 ≤ n ∧ n < 0xf0 then some (2, n - 0xe0, 0x800)
  else if 0xf0 ≤ n ∧ n < 0xf8 then some (3, n - 0xf0, 0x10000)
  else none

/-- Whether a byte continues a character. -/
def isContinuation (byte : UInt8) : Bool := 0x80 ≤ byte && byte < 0xc0

/-- The numbers of the characters that bytes write in the eight-bit format. -/
def codes8? : Bytes → Option (List Nat)
  | [] => some []
  | first :: rest =>
    match leadByte? first.toNat with
    | none => none
    | some (count, lead, least) =>
      let tail := rest.take count
      let n := tail.foldl (fun n byte => 0x40 * n + (byte.toNat - 0x80)) lead
      if tail.length = count ∧ tail.all isContinuation ∧ least ≤ n ∧ n < 0x110000 then
        (codes8? (rest.drop count)).map (n :: ·)
      else none
termination_by data => data.length
decreasing_by
  rw [List.length_drop, List.length_cons]
  exact Nat.lt_succ_of_le (Nat.sub_le _ _)

/-- The units that bytes write in the sixteen-bit format. -/
def units16? (order : Endian) : Bytes → Option (List Nat)
  | [] => some []
  | a :: b :: rest => (units16? order rest).map (order.read [a, b] :: ·)
  | _ => none

/-- The numbers of the characters that bytes write in the thirty-two-bit format. -/
def codes32? (order : Endian) : Bytes → Option (List Nat)
  | [] => some []
  | a :: b :: c :: d :: rest =>
    let n := order.read [a, b, c, d]
    if n < 0x110000 then (codes32? order rest).map (n :: ·) else none
  | _ => none

end TokenBridge.Text
