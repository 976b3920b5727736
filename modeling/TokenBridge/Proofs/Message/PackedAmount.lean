import TokenBridge.Proofs.Amount.Scaling
import TokenBridge.Proofs.Message.Transfer

/-!
# Two forms of a trimmed amount

A trimmed amount is carried as one number, with the decimals in its low byte, and as nine bytes of a
message, with the decimals in the first. The two writers know nothing of each other: one shifts and
masks, the other writes two words behind one another. **They accept the same amounts**
(`TrimmedAmount.Fits`), and for those each form is the other one with its two parts exchanged.

Both writers are told apart from their faults by one equivalence each (`pack_eq_ok_iff`,
`encode_toValue_eq_ok_iff`); reading needs nothing more, since nine bytes are always an amount that
fits, and so is every number below `2 ^ 72`.
-/

namespace TokenBridge

namespace TrimmedAmount

/-- The decimals fit one byte and the amount fits eight. -/
structure Fits (x : TrimmedAmount) : Prop where
  decimals : 0 ≤ x.decimals ∧ x.decimals ≤ 255
  amount : 0 ≤ x.amount ∧ x.amount < 2 ^ 64

instance {x : TrimmedAmount} : Decidable x.Fits :=
  decidable_of_iff ((0 ≤ x.decimals ∧ x.decimals ≤ 255) ∧ 0 ≤ x.amount ∧ x.amount < 2 ^ 64)
    ⟨fun h => ⟨h.1, h.2⟩, fun h => ⟨h.decimals, h.amount⟩⟩

/-- The part that does not fit, where there is one: the first in a message. -/
def misfit (x : TrimmedAmount) : Int :=
  if 0 ≤ x.decimals ∧ x.decimals ≤ 255 then x.amount else x.decimals

/-- The number that stands for an amount: its decimals are the low byte. -/
def packed (x : TrimmedAmount) : Int := x.amount * 256 + x.decimals

/-- The bytes that stand for an amount: its decimals are the first byte. -/
def wire (x : TrimmedAmount) : Bytes :=
  Bytes.bigEndian 1 x.decimals.toNat ++ Bytes.bigEndian 8 x.amount.toNat

end TrimmedAmount

namespace Amount

/-! ## As a number -/

section Packing

variable {x : TrimmedAmount} {p : Int}

theorem pack_eq_ok_iff : pack x = .ok p ↔ x.Fits ∧ p = x.packed := by
  unfold pack maxAmount
  constructor
  · intro h
    split at h
    · cases h
    · rename_i hdecimals
      split at h
      · cases h
      · rename_i hamount
        cases h
        exact ⟨⟨by omega, by omega⟩, rfl⟩
  · intro h
    obtain ⟨⟨hdecimals, hamount⟩, rfl⟩ := h
    rw [if_neg (not_not_intro hdecimals), if_neg (by omega)]
    rfl

theorem failsOnly_pack : FailsOnly (fun fault => fault.kind = .valueOutOfRange) (pack x) := by
  unfold pack
  split
  · exact failsOnly_error rfl
  · split
    · exact failsOnly_error rfl
    · exact failsOnly_ok

/-- On integers the checks of the packed form are those of its two parts. -/
theorem packOf_toValue : packOf x.toValue = pack x := by
  have hwithin (bound : Nat) (n : Int) :
      isWithin? bound (.int n) = some (decide (0 ≤ n ∧ n ≤ (bound : Int))) := rfl
  have hparts : requireParts x.toValue = .ok (.int x.amount, .int x.decimals) := rfl
  have hnumber (n : Int) : requireNumber (.int n) = .ok n := rfl
  have hmax : ((maxAmount.toNat : Nat) : Int) = maxAmount := by decide
  simp only [packOf, hparts, hwithin, hnumber, hmax, bind, Except.bind]
  unfold pack
  by_cases hdecimals : 0 ≤ x.decimals ∧ x.decimals ≤ 255
  · by_cases hamount : 0 ≤ x.amount ∧ x.amount ≤ maxAmount
    · simp [hdecimals, hamount]
    · simp [hdecimals, hamount]
  · simp [hdecimals]

theorem unpack_packed (h : x.Fits) : unpack x.packed = x := by
  obtain ⟨hdecimals, -⟩ := h
  have hhigh : x.packed / 256 = x.amount := by
    unfold TrimmedAmount.packed
    omega
  have hlow : x.packed % 256 = x.decimals := by
    unfold TrimmedAmount.packed
    omega
  rw [unpack, hhigh, hlow]

theorem fits_unpack (hnonneg : 0 ≤ p) (hlt : p < 2 ^ 72) : (unpack p).Fits :=
  ⟨⟨Int.emod_nonneg p (by decide), by show p % 256 ≤ 255; omega⟩,
    ⟨Int.ediv_nonneg hnonneg (by decide), by show p / 256 < 2 ^ 64; omega⟩⟩

theorem packed_unpack : (unpack p).packed = p :=
  Int.ediv_mul_add_emod p 256

/-- The two parts of the number share no bit. -/
theorem packed_eq_shifted (h : x.Fits) :
    x.packed = (x.amount.toNat <<< 8 ||| x.decimals.toNat : Nat) := by
  obtain ⟨hdecimals, hamount⟩ := h
  have hlow : x.decimals.toNat < 2 ^ 8 := by omega
  rw [← Nat.shiftLeft_add_eq_or_of_lt hlow, Nat.shiftLeft_eq]
  unfold TrimmedAmount.packed
  omega

theorem unpack_eq_masked (hnonneg : 0 ≤ p) :
    unpack p = ⟨(p.toNat >>> 8 : Nat), (p.toNat &&& 0xff : Nat)⟩ := by
  have hmask : p.toNat &&& 0xff = p.toNat % 2 ^ 8 := Nat.and_two_pow_sub_one_eq_mod p.toNat 8
  rw [hmask, Nat.shiftRight_eq_div_pow, unpack]
  congr 1
  · omega
  · omega

end Packing

end Amount

namespace Message

open Layout Amount

/-! ## As bytes -/

theorem write_bigWord_iff {size : Nat} {size_pos : 0 < size}
    {n : Int} {data : Bytes} :
    (bigWord size size_pos).write n = .ok data ↔
      (0 ≤ n ∧ n.toNat < 256 ^ size) ∧ data = Bytes.bigEndian size n.toNat := by
  rw [Word.write_eq_ok_iff]
  constructor
  · intro h
    obtain ⟨m, rfl, hlt, rfl⟩ := h
    exact ⟨⟨Int.natCast_nonneg m, hlt⟩, rfl⟩
  · intro h
    obtain ⟨⟨hnonneg, hlt⟩, rfl⟩ := h
    exact ⟨n.toNat, (Int.toNat_of_nonneg hnonneg).symm, hlt, rfl⟩

theorem write_bigWord_of_large {size : Nat} {size_pos : 0 < size} {n : Int}
    (h : ¬(0 ≤ n ∧ n.toNat < 256 ^ size)) :
    (bigWord size size_pos).write n = fail .building (.outOfRange n (8 * size)) :=
  if_neg h

section Wire

variable {x : TrimmedAmount} {data : Bytes}

/-- The two words of an amount, one behind the other. -/
theorem encode_toValue : encode trimmedItem x.toValue = (do
    let head ← within (.field "decimals") ((bigWord 1).write x.decimals)
    let tail ← within (.field "amount") ((bigWord 8).write x.amount)
    .ok (head ++ (tail ++ []))) := by
  have hdecimals : "decimals" ≠ "" := by decide
  have hamount : "amount" ≠ "" := by decide
  show Schema.writeFields [("decimals", uint 1), ("amount", uint 8)]
    [("decimals", .int x.decimals), ("amount", .int x.amount)] = _
  rw [Schema.writeFields_held rfl hdecimals rfl, Schema.writeFields_held rfl hamount rfl]
  show (do
    let head ← within (.field "decimals") ((bigWord 1).write x.decimals)
    let tail ← (do
      let tail ← within (.field "amount") ((bigWord 8).write x.amount)
      .ok (tail ++ []))
    .ok (head ++ tail)) = _
  cases within (.field "amount") ((bigWord 8).write x.amount) with
  | error fault => rfl
  | ok tail => rfl

theorem encode_toValue_eq_ok_iff :
    encode trimmedItem x.toValue = .ok data ↔ x.Fits ∧ data = x.wire := by
  rw [encode_toValue]
  simp only [bind_eq_ok_iff, within_eq_ok_iff, write_bigWord_iff, List.append_nil]
  constructor
  · intro h
    obtain ⟨_, ⟨hdecimals, rfl⟩, _, ⟨hamount, rfl⟩, h⟩ := h
    cases h
    exact ⟨⟨by omega, by omega⟩, rfl⟩
  · intro h
    obtain ⟨⟨hdecimals, hamount⟩, rfl⟩ := h
    exact ⟨_, ⟨by omega, rfl⟩, _, ⟨by omega, rfl⟩, rfl⟩

/-- An amount that does not fit is refused for the first of its parts that does not. -/
theorem encode_toValue_of_not_fits (h : ¬ x.Fits) : ∃ fault,
    encode trimmedItem x.toValue = .error fault ∧ ∃ bits, fault.cause = .outOfRange x.misfit bits := by
  rw [encode_toValue, TrimmedAmount.misfit]
  by_cases hdecimals : 0 ≤ x.decimals ∧ x.decimals ≤ 255
  · have hhead : (bigWord 1).write x.decimals = .ok (Bytes.bigEndian 1 x.decimals.toNat) :=
      write_bigWord_iff.mpr ⟨⟨hdecimals.1, by omega⟩, rfl⟩
    have hamount : ¬(0 ≤ x.amount ∧ x.amount.toNat < 256 ^ 8) := by
      intro hamount
      exact h ⟨hdecimals, hamount.1, by omega⟩
    rw [if_pos hdecimals, hhead, write_bigWord_of_large hamount]
    exact ⟨_, rfl, _, rfl⟩
  · have hhead : ¬(0 ≤ x.decimals ∧ x.decimals.toNat < 256 ^ 1) := by omega
    rw [if_neg hdecimals, write_bigWord_of_large hhead]
    exact ⟨_, rfl, _, rfl⟩

theorem exists_fits_of_length (h : data.length = 9) :
    ∃ x : TrimmedAmount, x.Fits ∧ data = x.wire := by
  have hdecimals : (data.take 1).length = 1 := by
    rw [List.length_take]
    omega
  have hamount : (data.drop 1).length = 8 := by
    rw [List.length_drop]
    omega
  have hlow := Bytes.readBigEndian_lt (data.take 1)
  have hhigh := Bytes.readBigEndian_lt (data.drop 1)
  have hfirst := Bytes.bigEndian_readBigEndian (data.take 1)
  have hothers := Bytes.bigEndian_readBigEndian (data.drop 1)
  rw [hdecimals] at hlow hfirst
  rw [hamount] at hhigh hothers
  refine ⟨⟨Bytes.readBigEndian (data.drop 1), Bytes.readBigEndian (data.take 1)⟩,
    ⟨⟨Int.natCast_nonneg _, ?_⟩, Int.natCast_nonneg _, ?_⟩, ?_⟩
  · show (Bytes.readBigEndian (data.take 1) : Int) ≤ 255
    omega
  · show (Bytes.readBigEndian (data.drop 1) : Int) < 2 ^ 64
    omega
  · rw [TrimmedAmount.wire, Int.toNat_natCast, Int.toNat_natCast, hfirst, hothers,
      List.take_append_drop]

theorem deserialize_wire (h : x.Fits) : deserialize trimmedItem x.wire = .ok x.toValue := by
  obtain ⟨hdecimals, hamount⟩ := h
  have hlow : Bytes.readBigEndian (Bytes.bigEndian 1 x.decimals.toNat) = x.decimals.toNat :=
    Bytes.readBigEndian_bigEndian (by omega)
  have hhigh : Bytes.readBigEndian (Bytes.bigEndian 8 x.amount.toNat) = x.amount.toNat :=
    Bytes.readBigEndian_bigEndian (by omega)
  refine deserialize_eq_ok_iff.mpr ⟨rfl, read_trimmedItem_iff.mpr
    ⟨Bytes.bigEndian 1 x.decimals.toNat, Bytes.bigEndian 8 x.amount.toNat,
      Bytes.length_bigEndian .., Bytes.length_bigEndian .., ?_, ?_⟩⟩
  · rw [List.append_nil]
    rfl
  · rw [hlow, hhigh, Int.toNat_of_nonneg hdecimals.1, Int.toNat_of_nonneg hamount.1]
    rfl

end Wire

/-! ## Agreement -/

section Agreement

variable {x : TrimmedAmount}

/-- The wire form of an amount is its packed form with the low byte in front. -/
theorem wire_eq_of_packed (h : x.Fits) :
    x.wire = Bytes.bigEndian 1 (x.packed % 256).toNat ++
      Bytes.bigEndian 8 (x.packed / 256).toNat := by
  have hparts : (⟨x.packed / 256, x.packed % 256⟩ : TrimmedAmount) = x := unpack_packed h
  exact congrArg TrimmedAmount.wire hparts.symm

/-- What is carried of an amount that is not negative fits both forms. -/
theorem fits_of_trimOf {a f t : Nat} {v : Value}
    (h : trimOf (.int a) (.int f) (.int t) = .ok v) :
    ∃ x : TrimmedAmount, v = x.toValue ∧ x.Fits ∧ x.decimals ≤ 8 := by
  obtain ⟨hfits, rfl⟩ := trimOf_eq_ok_iff.mp h
  have hnonneg : 0 ≤ (a : Int) / 10 ^ (f - precision f t) :=
    Int.ediv_nonneg (Int.natCast_nonneg a) (Int.pow_nonneg (by decide))
  have hprecision : precision f t ≤ 8 := by
    unfold precision
    omega
  rw [maxAmount] at hfits
  refine ⟨⟨_, precision f t⟩, rfl, ⟨⟨?_, ?_⟩, hnonneg, ?_⟩, ?_⟩
  · exact Int.natCast_nonneg _
  · show (precision f t : Int) ≤ 255
    omega
  · show (a : Int) / 10 ^ (f - precision f t) < 2 ^ 64
    omega
  · show (precision f t : Int) ≤ 8
    omega

theorem exists_encode_iff : (∃ data, encode trimmedItem x.toValue = .ok data) ↔ x.Fits := by
  constructor
  · intro h
    obtain ⟨data, h⟩ := h
    exact (encode_toValue_eq_ok_iff.mp h).1
  · intro h
    exact ⟨x.wire, encode_toValue_eq_ok_iff.mpr ⟨h, rfl⟩⟩

theorem exists_packOf_iff : (∃ p, packOf x.toValue = .ok p) ↔ x.Fits := by
  rw [packOf_toValue]
  constructor
  · intro h
    obtain ⟨p, h⟩ := h
    exact (pack_eq_ok_iff.mp h).1
  · intro h
    exact ⟨x.packed, pack_eq_ok_iff.mpr ⟨h, rfl⟩⟩

theorem refused_of_not_fits (hfits : ¬ x.Fits) :
    (∃ fault, encode trimmedItem x.toValue = .error fault ∧
      fault.kind = if Number.IsWritable x.misfit then .valueOutOfRange else .invalidValue) ∧
      ∃ fault, packOf x.toValue = .error fault ∧ fault.kind = .valueOutOfRange := by
  constructor
  · obtain ⟨fault, h, bits, hcause⟩ := encode_toValue_of_not_fits hfits
    refine ⟨fault, h, ?_⟩
    rw [Layout.Fault.kind, hcause]
    exact Number.kindShowing_decimal
  · cases h : packOf x.toValue with
    | ok p => exact absurd (exists_packOf_iff.mp ⟨p, h⟩) hfits
    | error fault =>
      rw [packOf_toValue] at h
      exact ⟨fault, rfl, failsOnly_pack fault h⟩

/-- From the packed form the amount is read back, and the wire form follows. -/
theorem forms_of_packOf {p : Int} (h : packOf x.toValue = .ok p) :
    p = (x.amount.toNat <<< 8 ||| x.decimals.toNat : Nat) ∧ unpackOf (.int p) = .ok x ∧
      ∃ data, encode trimmedItem x.toValue = .ok data ∧
        data = Bytes.bigEndian 1 (p % 256).toNat ++ Bytes.bigEndian 8 (p / 256).toNat ∧
        deserialize trimmedItem data = .ok x.toValue := by
  rw [packOf_toValue] at h
  obtain ⟨hfits, rfl⟩ := pack_eq_ok_iff.mp h
  have hback : unpackOf (.int x.packed) = .ok x := congrArg Except.ok (unpack_packed hfits)
  exact ⟨packed_eq_shifted hfits, hback, x.wire, encode_toValue_eq_ok_iff.mpr ⟨hfits, rfl⟩,
    wire_eq_of_packed hfits, deserialize_wire hfits⟩

theorem packOf_unpack {p : Int} (hnonneg : 0 ≤ p) (hlt : p < 2 ^ 72) :
    packOf (unpack p).toValue = .ok p := by
  rw [packOf_toValue]
  exact pack_eq_ok_iff.mpr ⟨fits_unpack hnonneg hlt, packed_unpack.symm⟩

theorem encode_of_length {data : Bytes} (h : data.length = 9) :
    ∃ v, deserialize trimmedItem data = .ok v ∧ encode trimmedItem v = .ok data := by
  obtain ⟨x, hfits, rfl⟩ := exists_fits_of_length h
  exact ⟨x.toValue, deserialize_wire hfits, encode_toValue_eq_ok_iff.mpr ⟨hfits, rfl⟩⟩

end Agreement

/-- **The packed form and the wire form of a trimmed amount agree.** Both are made of the same
amounts, which are those that fit, and refuse all others as out of range, the wire form unless the
part that does not fit has too many digits to say so; each is the other one with its parts exchanged,
and both are read back. Every number below `2 ^ 72` and every nine bytes are the
form of some amount, and whatever is trimmed has both forms. -/
theorem packed_iff_wire (x : TrimmedAmount) :
    (((∃ data, encode trimmedItem x.toValue = .ok data) ↔ x.Fits) ∧
      ((∃ p, packOf x.toValue = .ok p) ↔ x.Fits) ∧
      (¬ x.Fits →
        (∃ fault, encode trimmedItem x.toValue = .error fault ∧
          fault.kind = if Number.IsWritable x.misfit then .valueOutOfRange else .invalidValue) ∧
        ∃ fault, packOf x.toValue = .error fault ∧ fault.kind = .valueOutOfRange) ∧
      ∀ p, packOf x.toValue = .ok p →
        p = (x.amount.toNat <<< 8 ||| x.decimals.toNat : Nat) ∧ unpackOf (.int p) = .ok x ∧
        ∃ data, encode trimmedItem x.toValue = .ok data ∧
          data = Bytes.bigEndian 1 (p % 256).toNat ++ Bytes.bigEndian 8 (p / 256).toNat ∧
          deserialize trimmedItem data = .ok x.toValue) ∧
    (∀ p : Int, 0 ≤ p → p < 2 ^ 72 → ∃ x, unpackOf (.int p) = .ok x ∧
      x = ⟨(p.toNat >>> 8 : Nat), (p.toNat &&& 0xff : Nat)⟩ ∧ packOf x.toValue = .ok p) ∧
    (∀ data : Bytes, data.length = 9 →
      ∃ v, deserialize trimmedItem data = .ok v ∧ encode trimmedItem v = .ok data) ∧
    (∀ (a f t : Nat) (v : Value), trimOf (.int a) (.int f) (.int t) = .ok v →
      ∃ x : TrimmedAmount, v = x.toValue ∧ x.decimals ≤ 8 ∧ (∃ p, packOf v = .ok p) ∧
        ∃ data, encode trimmedItem v = .ok data) := by
  refine ⟨⟨exists_encode_iff, exists_packOf_iff, refused_of_not_fits, fun p => forms_of_packOf⟩,
    ?_, fun data => encode_of_length, ?_⟩
  · intro p hnonneg hlt
    exact ⟨unpack p, rfl, unpack_eq_masked hnonneg, packOf_unpack hnonneg hlt⟩
  · intro a f t v h
    obtain ⟨x, rfl, hfits, hdecimals⟩ := fits_of_trimOf h
    exact ⟨x, rfl, hdecimals, exists_packOf_iff.mpr hfits, exists_encode_iff.mpr hfits⟩

/-- At the limits: the largest amount, the one after it, the largest number, nine equal bytes and an
amount that trimming shortens. -/
theorem packed_iff_wire_limits :
    (packOf (TrimmedAmount.toValue ⟨2 ^ 64 - 1, 255⟩) = .ok (2 ^ 72 - 1) ∧
      unpackOf (.int (2 ^ 72 - 1)) = .ok ⟨2 ^ 64 - 1, 255⟩) ∧
    (¬ TrimmedAmount.Fits ⟨2 ^ 64, 8⟩ ∧ ∃ fault,
      encode trimmedItem (TrimmedAmount.toValue ⟨2 ^ 64, 8⟩) = .error fault ∧
        fault.kind = .valueOutOfRange) ∧
    (∃ x, unpackOf (.int (2 ^ 72 - 2)) = .ok x ∧ packOf x.toValue = .ok (2 ^ 72 - 2)) ∧
    (∃ v, deserialize trimmedItem (List.replicate 9 7) = .ok v ∧
      encode trimmedItem v = .ok (List.replicate 9 7)) ∧
    trimOf (.int 1234567890) (.int 10) (.int 18) = .ok (TrimmedAmount.toValue ⟨12345678, 8⟩) ∧
    ∃ p, packOf (TrimmedAmount.toValue ⟨12345678, 8⟩) = .ok p := by
  obtain ⟨⟨-, -, -, hread⟩, hnumbers, hbytes, htrimmed⟩ := packed_iff_wire ⟨2 ^ 64 - 1, 255⟩
  obtain ⟨⟨-, -, hrefused, -⟩, -⟩ := packed_iff_wire ⟨2 ^ 64, 8⟩
  have hpacked : packOf (TrimmedAmount.toValue ⟨2 ^ 64 - 1, 255⟩) = .ok (2 ^ 72 - 1) := by rfl
  have hlarge : ¬ TrimmedAmount.Fits ⟨2 ^ 64, 8⟩ := by decide
  have htrim : trimOf (.int 1234567890) (.int 10) (.int 18) =
      .ok (TrimmedAmount.toValue ⟨12345678, 8⟩) := trimOf_eq_ok_iff.mpr ⟨by decide, rfl⟩
  obtain ⟨⟨fault, hencode, hkind⟩, -⟩ := hrefused hlarge
  have hsmall : 2 ^ 64 < 256 ^ 9 := by decide
  have hwritable : Number.IsWritable (TrimmedAmount.misfit ⟨2 ^ 64, 8⟩) :=
    Number.isWritable_of_lt_pow hsmall (by decide)
  rw [if_pos hwritable] at hkind
  obtain ⟨x, hunpack, -, hpack⟩ := hnumbers (2 ^ 72 - 2) (by decide) (by decide)
  obtain ⟨_, -, -, hcarried, -⟩ := htrimmed 1234567890 10 18 _ htrim
  exact ⟨⟨hpacked, (hread _ hpacked).2.1⟩, ⟨hlarge, fault, hencode, hkind⟩,
    ⟨x, hunpack, hpack⟩, hbytes (List.replicate 9 7) rfl, htrim, hcarried⟩

/-- An amount of too many digits is refused by both forms, but only one can say that it is out of
range. -/
theorem packed_iff_wire_long :
    let x : TrimmedAmount := ⟨Number.digitBound, 0⟩
    ¬ x.Fits ∧
    (∃ fault, encode trimmedItem x.toValue = .error fault ∧ fault.kind = .invalidValue) ∧
    ∃ fault, packOf x.toValue = .error fault ∧ fault.kind = .valueOutOfRange := by
  intro x
  have hfits : ¬ x.Fits := by
    intro h
    have hamount : (Number.digitBound : Int) < 2 ^ 64 := h.amount.2
    have hsmall : 2 ^ 64 < 256 ^ 9 := by decide
    have hless := Number.lt_digitBound_of_lt_pow hsmall (by decide)
    omega
  obtain ⟨⟨fault, hencode, hkind⟩, hpack⟩ := refused_of_not_fits hfits
  have hlong : ¬ Number.IsWritable x.misfit := Number.not_isWritable_digitBound
  rw [if_neg hlong] at hkind
  exact ⟨hfits, ⟨fault, hencode, hkind⟩, hpack⟩

end Message

end TokenBridge
