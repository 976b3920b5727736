import TokenBridge.ErrorKind
import TokenBridge.Number.Reading

/-!
# Decimal texts of integers

Integers are as large as they like, but their decimal texts are not: past `maxDigits` digits an
integer is neither written nor read. Every message that shows an integer is written here, so a
message can fail to be written, and its error is then another one than was meant. Every integer of a
text is read here.

The lengths of texts, byte strings and sequences are no such integers: nothing that has a length is
so long that the length would not be written.
-/

namespace TokenBridge.Number

/-- The greatest number of digits of an integer that is written or read. -/
def maxDigits : Nat := 4300

/-- Why an integer has no text, or a text no integer. -/
inductive DigitFault where
  /-- An integer of too many digits to be written. -/
  | writing
  /-- A text of so many digits, which are too many to be read. -/
  | reading (digits : Nat)
deriving DecidableEq, Repr

/-- A number of digits past the limit is a value without meaning. -/
def DigitFault.kind (_ : DigitFault) : ErrorKind := .invalidValue

/-- The wording of the limit. -/
def DigitFault.message (fault : DigitFault) : String :=
  let limit := s!"Exceeds the limit ({maxDigits} digits) for integer string conversion"
  let advice := "; use sys.set_int_max_str_digits() to increase the limit"
  match fault with
  | .writing => limit ++ advice
  | .reading digits => limit ++ s!": value has {digits} digits" ++ advice

/-- The least number of too many digits. It is too large to be computed with by unfolding. -/
@[irreducible] def digitBound : Nat := 10 ^ maxDigits

/-- The greatest number of bytes in which every number is small enough to be written. -/
def writableBytes : Nat := 1785

/-- The integer has few enough digits to be written. -/
def IsWritable (n : Int) : Prop := n.natAbs < digitBound

instance : DecidablePred IsWritable := fun n => Nat.decLt n.natAbs digitBound

/-- The decimal text of an integer. -/
def decimal (n : Int) : Except DigitFault String :=
  if IsWritable n then .ok (toString n) else .error .writing

/-- The integer of a sign and decimal digits. -/
def ofDigits (negative : Bool) (digits : List Char) : Except DigitFault Int :=
  if digits.length ≤ maxDigits then .ok (signed negative digits)
  else .error (.reading digits.length)

/-- The number of digits at the start of a text, behind a sign; what follows them is not looked
at. -/
def leadingDigits (cs : List Char) : Nat :=
  let body := (splitSign ((trimNumber cs).map plainDigit)).2
  ((dropUnderscores ' ' (body.takeWhile fun c => c.isDigit || c = '_')).getD []).length

/-- The integer that a text writes, if it writes one. The digits are counted before it is known
whether anything but digits follows. -/
def integer? (cs : List Char) : Except DigitFault (Option Int) :=
  match integerDigits? cs with
  | some (negative, digits) => (ofDigits negative digits).map some
  | none =>
    if leadingDigits cs ≤ maxDigits then .ok none else .error (.reading (leadingDigits cs))

/-! ## Errors that show something -/

/-- The family of an error whose message shows something: if that cannot be written, the error is
that it cannot. -/
def kindShowing (shown : Except DigitFault String) (kind : ErrorKind) : ErrorKind :=
  match shown with
  | .ok _ => kind
  | .error fault => fault.kind

/-- The message of an error that shows something. -/
def messageShowing (shown : Except DigitFault String) (wording : String → String) : String :=
  match shown with
  | .ok text => wording text
  | .error fault => fault.message

/-! ## Laws -/

theorem decimal_of_isWritable {n : Int} (h : IsWritable n) : decimal n = .ok (toString n) :=
  if_pos h

theorem decimal_of_not_isWritable {n : Int} (h : ¬ IsWritable n) : decimal n = .error .writing :=
  if_neg h

theorem isWritable_natCast_iff {n : Nat} : IsWritable n ↔ n < digitBound := by
  rw [IsWritable, Int.natAbs_natCast]

theorem pow_writableBytes_le : 256 ^ writableBytes ≤ digitBound := by
  decide +kernel

theorem not_isWritable_digitBound : ¬ IsWritable digitBound := by
  rw [isWritable_natCast_iff]
  exact Nat.lt_irrefl _

theorem lt_digitBound_of_lt_pow {n size : Nat} (h : n < 256 ^ size) (hsize : size ≤ writableBytes) :
    n < digitBound := by
  have hpow : 256 ^ size ≤ 256 ^ writableBytes := Nat.pow_le_pow_right (by decide) hsize
  exact Nat.lt_of_lt_of_le h (Nat.le_trans hpow pow_writableBytes_le)

theorem isWritable_of_lt_pow {n size : Nat} (h : n < 256 ^ size) (hsize : size ≤ writableBytes) :
    IsWritable n :=
  isWritable_natCast_iff.mpr (lt_digitBound_of_lt_pow h hsize)

theorem isWritable_of_lt_byte {n : Nat} (h : n < 256) : IsWritable n := by
  have hpow : n < 256 ^ 1 := h
  exact isWritable_of_lt_pow hpow (by decide)

/-- An error that shows an integer is the one that was meant, if the integer can be written. -/
theorem kindShowing_decimal {n : Int} {kind : ErrorKind} :
    kindShowing (decimal n) kind = if IsWritable n then kind else .invalidValue := by
  unfold decimal
  split
  · rfl
  · rfl

theorem kindShowing_decimal_of_isWritable {n : Int} {kind : ErrorKind} (h : IsWritable n) :
    kindShowing (decimal n) kind = kind :=
  kindShowing_decimal.trans (if_pos h)

/-! ### Digits that are read -/

theorem foldl_digits_lt {digits : List Char} (h : ∀ c ∈ digits, c.isDigit = true) : ∀ n : Nat,
    digits.foldl (fun n d => 10 * n + (d.toNat - 0x30)) n < (n + 1) * 10 ^ digits.length := by
  induction digits with
  | nil => simp
  | cons c digits ih =>
    intro n
    obtain ⟨hc, hdigits⟩ := List.forall_mem_cons.mp h
    have hdigit : c.toNat - 0x30 ≤ 9 := by
      have hbounds : 48 ≤ c.toNat ∧ c.toNat ≤ 57 := by
        simpa [Char.isDigit, UInt32.le_iff_toNat_le] using hc
      omega
    have hfirst : 10 * n + (c.toNat - 0x30) + 1 ≤ (n + 1) * 10 := by omega
    refine Nat.lt_of_lt_of_le (ih hdigits _) ?_
    rw [List.length_cons, Nat.pow_succ', ← Nat.mul_assoc]
    exact Nat.mul_le_mul_right _ hfirst

/-- What is read can be written again. -/
theorem isWritable_of_ofDigits {negative : Bool} {digits : List Char} {n : Int}
    (hdigits : ∀ c ∈ digits, c.isDigit = true) (h : ofDigits negative digits = .ok n) :
    IsWritable n := by
  unfold ofDigits at h
  split at h
  · rename_i hlength
    have hvalue : digitsValue digits < digitBound := by
      unfold digitBound
      have hlt := foldl_digits_lt hdigits 0
      rw [Nat.zero_add, Nat.one_mul] at hlt
      exact Nat.lt_of_lt_of_le hlt (Nat.pow_le_pow_right (by decide) hlength)
    have habs : n.natAbs = digitsValue digits := by
      cases h
      cases negative <;> simp [signed]
    rwa [IsWritable, habs]
  · cases h

end TokenBridge.Number
