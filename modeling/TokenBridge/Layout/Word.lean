import TokenBridge.Layout.Schema

/-!
# Words and length fields

Writing and reading unsigned integers of a fixed width, alone and as the length of what follows.
-/

namespace TokenBridge.Layout

/-- The bytes of an integer that fits the word. -/
def Word.write (word : Word) (n : Int) : Except Fault Bytes :=
  if 0 ≤ n ∧ n.toNat < 256 ^ word.size then .ok (word.order.write word.size n.toNat)
  else fail .building (.outOfRange n (8 * word.size))

/-- The integer in the first bytes of a window, and the rest of the window. -/
def Word.read (word : Word) (window : Bytes) : Except Fault (Nat × Bytes) :=
  match Bytes.split? word.size window with
  | some (head, rest) => .ok (word.order.read head, rest)
  | none => fail .parsing .truncated

/-- The bytes of a length. A field of no bytes holds no length, not even zero. -/
def LengthField.write (length : LengthField) (n : Nat) : Except Fault Bytes :=
  match length.word? with
  | some word =>
    if n < 256 ^ word.size then .ok (word.order.write word.size n)
    else fail .building (.tooLong n (8 * word.size))
  | none =>
    if length.width < 0 then fail .building .negativeLengthField
    else if n = 0 then fail .building (.emptyLengthField length.width)
    else fail .building (.tooLong n 0)

/-- The length in the first bytes of a window, and the rest of the window. -/
def LengthField.read (length : LengthField) (window : Bytes) : Except Fault (Nat × Bytes) :=
  match length.word? with
  | some word => word.read window
  | none => fail .parsing (.emptyLengthField length.width)

/-! ## Laws -/

theorem Word.write_natCast {word : Word} {n : Nat} (h : n < 256 ^ word.size) :
    word.write n = .ok (word.order.write word.size n) := by
  rw [Word.write, if_pos ⟨Int.natCast_nonneg n, by rwa [Int.toNat_natCast]⟩, Int.toNat_natCast]

theorem Word.read_append {word : Word} {n : Nat} (h : n < 256 ^ word.size) (rest : Bytes) :
    word.read (word.order.write word.size n ++ rest) = .ok (n, rest) := by
  have : Bytes.split? word.size (word.order.write word.size n ++ rest)
      = some (word.order.write word.size n, rest) :=
    Bytes.split?_eq_some_iff.2 ⟨by simp, rfl⟩
  simp [Word.read, this, word.order.read_write h]

end TokenBridge.Layout
