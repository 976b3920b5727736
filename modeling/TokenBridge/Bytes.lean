/-!
# Byte strings

Byte strings, the two byte orders of fixed-width unsigned integers, and hexadecimal text. Writing a
number at a width and reading it back are defined by recursion on the bytes, least significant byte
first, so that each law is one induction; the big-endian forms are the reversals.
-/

/-! Powers of naturals and of integers compute, also where a library with powers of its own is in
scope. -/

attribute [default_instance high+1, instance(high)] instPowNat

namespace TokenBridge

/-- A byte string. -/
abbrev Bytes := List UInt8

/-- Which end of a fixed-width integer is written first. -/
inductive Endian where
  | big
  | little
deriving DecidableEq, Repr

namespace Bytes

/-- The `n` low bytes of a number, the least significant first. -/
def littleEndian : Nat → Nat → Bytes
  | 0, _ => []
  | n + 1, value => UInt8.ofNat (value % 256) :: littleEndian n (value / 256)

/-- The number whose bytes are given, the least significant first. -/
def readLittleEndian : Bytes → Nat
  | [] => 0
  | byte :: rest => byte.toNat + 256 * readLittleEndian rest

/-- The `n` low bytes of a number, the most significant first. -/
def bigEndian (n value : Nat) : Bytes :=
  (littleEndian n value).reverse

/-- The number whose bytes are given, the most significant first. -/
def readBigEndian (data : Bytes) : Nat :=
  readLittleEndian data.reverse

/-- The first `n` bytes and the rest, or nothing when there are fewer. -/
def split? (n : Nat) (data : Bytes) : Option (Bytes × Bytes) :=
  let head := data.take n
  if head.length = n then some (head, data.drop n) else none

/-- The lower-case hexadecimal digit of a number below sixteen. -/
def hexDigit (n : Nat) : Char :=
  if n < 10 then Char.ofNat (0x30 + n) else Char.ofNat (0x57 + n)

/-- The two hexadecimal digits of a byte. -/
def hexByte (byte : UInt8) : List Char :=
  [hexDigit (byte.toNat / 16), hexDigit (byte.toNat % 16)]

/-- Lower-case hexadecimal text, two digits a byte. -/
def hex (data : Bytes) : String :=
  String.ofList (data.flatMap hexByte)

/-! ## Laws -/

@[simp] theorem length_littleEndian (n value : Nat) : (littleEndian n value).length = n := by
  induction n generalizing value with
  | zero => rfl
  | succ n ih => simp [littleEndian, ih]

@[simp] theorem length_bigEndian (n value : Nat) : (bigEndian n value).length = n := by
  simp [bigEndian]

theorem readLittleEndian_lt (data : Bytes) : readLittleEndian data < 256 ^ data.length := by
  induction data with
  | nil => simp [readLittleEndian]
  | cons byte rest ih =>
    have := byte.toNat_lt
    simp only [readLittleEndian, List.length_cons, Nat.pow_succ]
    omega

theorem readLittleEndian_littleEndian {n value : Nat} (h : value < 256 ^ n) :
    readLittleEndian (littleEndian n value) = value := by
  induction n generalizing value with
  | zero => simp_all [littleEndian, readLittleEndian]
  | succ n ih =>
    have below : value / 256 < 256 ^ n := by
      rw [Nat.pow_succ] at h
      omega
    simp only [littleEndian, readLittleEndian, ih below, UInt8.toNat_ofNat']
    omega

theorem littleEndian_readLittleEndian (data : Bytes) :
    littleEndian data.length (readLittleEndian data) = data := by
  induction data with
  | nil => rfl
  | cons byte rest ih =>
    have low : byte.toNat < 256 := byte.toNat_lt
    have first : (byte.toNat + 256 * readLittleEndian rest) % 256 = byte.toNat := by omega
    have others : (byte.toNat + 256 * readLittleEndian rest) / 256 = readLittleEndian rest := by
      omega
    simp [littleEndian, readLittleEndian, first, others, ih]

theorem readBigEndian_lt (data : Bytes) : readBigEndian data < 256 ^ data.length := by
  simpa [readBigEndian] using readLittleEndian_lt data.reverse

theorem readBigEndian_bigEndian {n value : Nat} (h : value < 256 ^ n) :
    readBigEndian (bigEndian n value) = value := by
  simp [readBigEndian, bigEndian, readLittleEndian_littleEndian h]

theorem bigEndian_readBigEndian (data : Bytes) :
    bigEndian data.length (readBigEndian data) = data := by
  have := littleEndian_readLittleEndian data.reverse
  simp only [List.length_reverse] at this
  simp [readBigEndian, bigEndian, this]

theorem split?_eq_some_iff {n : Nat} {data head rest : Bytes} :
    split? n data = some (head, rest) ↔ head.length = n ∧ data = head ++ rest := by
  simp only [split?]
  split
  · rename_i long
    constructor
    · intro h
      simp only [Option.some.injEq, Prod.mk.injEq] at h
      exact ⟨h.1 ▸ long, by rw [← h.1, ← h.2, List.take_append_drop]⟩
    · rintro ⟨hn, rfl⟩
      subst hn
      simp
  · rename_i short
    constructor
    · simp
    · rintro ⟨hn, rfl⟩
      subst hn
      simp at short

theorem split?_eq_none_iff {n : Nat} {data : Bytes} : split? n data = none ↔ data.length < n := by
  simp only [split?, List.length_take]
  split <;> simp <;> omega

end Bytes

namespace Endian

/-- The `n` bytes of a number in the given order. -/
def write (order : Endian) (n value : Nat) : Bytes :=
  match order with
  | .big => Bytes.bigEndian n value
  | .little => Bytes.littleEndian n value

/-- The number that the bytes write in the given order. -/
def read (order : Endian) (data : Bytes) : Nat :=
  match order with
  | .big => Bytes.readBigEndian data
  | .little => Bytes.readLittleEndian data

@[simp] theorem length_write (order : Endian) (n value : Nat) :
    (order.write n value).length = n := by
  cases order <;> simp [write]

theorem read_lt (order : Endian) (data : Bytes) : order.read data < 256 ^ data.length := by
  cases order
  · exact Bytes.readBigEndian_lt data
  · exact Bytes.readLittleEndian_lt data

theorem read_write (order : Endian) {n value : Nat} (h : value < 256 ^ n) :
    order.read (order.write n value) = value := by
  cases order
  · exact Bytes.readBigEndian_bigEndian h
  · exact Bytes.readLittleEndian_littleEndian h

theorem write_read (order : Endian) (data : Bytes) :
    order.write data.length (order.read data) = data := by
  cases order
  · exact Bytes.bigEndian_readBigEndian data
  · exact Bytes.littleEndian_readLittleEndian data

end Endian

end TokenBridge
