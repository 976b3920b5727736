import TokenBridge.Attestation.Frame
import TokenBridge.Proofs.Outcome

/-!
# Frames are what they are written as

Reading and writing an attestation undo each other because both are about the same bytes: `wire`,
which is total and asks nothing. Writing succeeds on a frame whose counts and lengths are those of
the wire (`Shaped`) and whose numbers fit their bytes (`InRange`), and answers its `wire`
(`serialize_eq_ok_iff`). Reading is the same relation the other way round (`parse_eq_ok_iff`).

For reading it is enough to know two things. What a frame is written as is read as the frame
(`parse_wire`); and **every byte string that is long enough is what some frame is written as**
(`exists_wire`), whatever the bytes are. Nothing has to be said about the offsets that the reader
computes: the signatures are taken off the front one at a time.
-/

namespace TokenBridge

open Value (uintBytes)

/-! ## Numbers in bytes -/

theorem Bytes.bigEndian_one (b : UInt8) : Bytes.bigEndian 1 b.toNat = [b] := by
  have h := Bytes.bigEndian_readBigEndian [b]
  have hread : Bytes.readBigEndian [b] = b.toNat := by
    simp [Bytes.readBigEndian, Bytes.readLittleEndian]
  rw [hread] at h
  exact h

/-- The integer is that of a byte. -/
def InByte (n : Int) : Prop := 0 ≤ n ∧ n ≤ 255

instance {n : Int} : Decidable (InByte n) := inferInstanceAs (Decidable (0 ≤ n ∧ n ≤ 255))

theorem inByte_iff {n : Int} : InByte n ↔ ∃ b : UInt8, n = b.toNat := by
  constructor
  · intro h
    refine ⟨UInt8.ofNat n.toNat, ?_⟩
    have hn : n.toNat < 256 := by
      have := h.1
      have := h.2
      omega
    rw [UInt8.toNat_ofNat_of_lt' hn]
    exact (Int.toNat_of_nonneg h.1).symm
  · intro h
    obtain ⟨b, rfl⟩ := h
    have hb := b.toNat_lt
    exact ⟨by omega, by omega⟩

theorem uintBytes_one_iff {n : Int} {data : Bytes} :
    uintBytes 1 n = .ok data ↔ InByte n ∧ data = Bytes.bigEndian 1 n.toNat := by
  rw [Value.uintBytes_eq_ok_iff, ← and_assoc]
  apply and_congr_left
  intro _
  show 0 ≤ n ∧ n.toNat < 256 ^ 1 ↔ 0 ≤ n ∧ n ≤ 255
  omega

theorem failsOnly_uintBytes {width : Nat} {n : Int} :
    FailsOnly (fun fault => fault.kind = .overflow) (uintBytes width n) := by
  unfold uintBytes
  split
  · exact failsOnly_error rfl
  · split
    · exact failsOnly_error rfl
    · exact failsOnly_ok

namespace Attestation

/-! ## Signatures -/

namespace GuardianSignature

/-- Both parts have the length that the wire gives them. -/
def Shaped (sig : GuardianSignature) : Prop := sig.r.length = 32 ∧ sig.s.length = 32

/-- Both numbers fit their byte. -/
def InRange (sig : GuardianSignature) : Prop := InByte sig.guardianIndex ∧ InByte sig.recoveryId

instance {sig : GuardianSignature} : Decidable sig.Shaped :=
  inferInstanceAs (Decidable (sig.r.length = 32 ∧ sig.s.length = 32))

instance {sig : GuardianSignature} : Decidable sig.InRange :=
  inferInstanceAs (Decidable (InByte sig.guardianIndex ∧ InByte sig.recoveryId))

/-- The bytes that stand for a signature. -/
def wire (sig : GuardianSignature) : Bytes :=
  Bytes.bigEndian 1 sig.guardianIndex.toNat ++ sig.r ++ sig.s ++
    Bytes.bigEndian 1 sig.recoveryId.toNat

variable {sig : GuardianSignature}

theorem length_wire (h : sig.Shaped) : sig.wire.length = signatureLength := by
  simp [wire, h.1, h.2, signatureLength]

theorem toBytes_eq_ok_iff {data : Bytes} :
    sig.toBytes = .ok data ↔ sig.InRange ∧ data = sig.wire := by
  unfold toBytes
  constructor
  · intro h
    obtain ⟨index, hindex, h⟩ := bind_eq_ok_iff.mp h
    obtain ⟨recovery, hrecovery, h⟩ := bind_eq_ok_iff.mp h
    obtain ⟨hi, rfl⟩ := uintBytes_one_iff.mp hindex
    obtain ⟨hr, rfl⟩ := uintBytes_one_iff.mp hrecovery
    cases h
    exact ⟨⟨hi, hr⟩, rfl⟩
  · intro h
    obtain ⟨⟨hi, hr⟩, rfl⟩ := h
    exact bind_eq_ok_iff.mpr ⟨_, uintBytes_one_iff.mpr ⟨hi, rfl⟩,
      bind_eq_ok_iff.mpr ⟨_, uintBytes_one_iff.mpr ⟨hr, rfl⟩, rfl⟩⟩

theorem failsOnly_toBytes : FailsOnly (fun fault => fault.kind = .overflow) sig.toBytes := by
  unfold toBytes
  apply failsOnly_bind failsOnly_uintBytes
  intro index _
  apply failsOnly_bind failsOnly_uintBytes
  intro recovery _
  exact failsOnly_ok

theorem wire_of_bytes {i v : UInt8} {r s : Bytes} :
    wire ⟨i.toNat, r, s, v.toNat⟩ = i :: (r ++ (s ++ [v])) := by
  simp [wire, Bytes.bigEndian_one]

theorem readSignature_wire (hs : sig.Shaped) (hr : sig.InRange) (rest : Bytes) :
    readSignature (sig.wire ++ rest) = sig := by
  obtain ⟨guardianIndex, r, s, recoveryId⟩ := sig
  obtain ⟨hr32, hs32⟩ := hs
  obtain ⟨hindex, hrecovery⟩ := hr
  obtain ⟨i, rfl⟩ := inByte_iff.mp hindex
  obtain ⟨v, rfl⟩ := inByte_iff.mp hrecovery
  have hwire : wire ⟨i.toNat, r, s, v.toNat⟩ ++ rest = i :: (r ++ (s ++ (v :: rest))) := by
    rw [wire_of_bytes]
    simp
  have hdrop : (r ++ (s ++ (v :: rest))).drop 32 = s ++ (v :: rest) := List.drop_left' hr32
  have hdrop' : (r ++ (s ++ (v :: rest))).drop 64 = v :: rest := by
    rw [show 64 = 32 + 32 from rfl, ← List.drop_drop, hdrop]
    exact List.drop_left' hs32
  rw [hwire]
  simp only [readSignature, List.headD_cons, List.drop_succ_cons, List.drop_zero, hdrop, hdrop',
    List.take_left' hr32, List.take_left' hs32]

/-- Enough bytes begin with what some signature is written as. -/
theorem exists_wire {data : Bytes} (h : signatureLength ≤ data.length) :
    ∃ (sig : GuardianSignature) (rest : Bytes), sig.Shaped ∧ sig.InRange ∧
      data = sig.wire ++ rest := by
  rw [signatureLength] at h
  cases data with
  | nil => exact absurd h (by decide)
  | cons i data =>
    rw [List.length_cons] at h
    -- the byte behind both parts
    obtain ⟨v, rest, hv⟩ : ∃ v rest, data.drop 64 = v :: rest :=
      List.exists_cons_of_length_pos (by rw [List.length_drop]; omega)
    have hparts : data = data.take 32 ++ ((data.drop 32).take 32 ++ (v :: rest)) := by
      rw [← hv, show 64 = 32 + 32 from rfl, ← List.drop_drop, List.take_append_drop,
        List.take_append_drop]
    refine ⟨⟨i.toNat, data.take 32, (data.drop 32).take 32, v.toNat⟩, rest, ⟨?_, ?_⟩, ⟨?_, ?_⟩, ?_⟩
    · rw [List.length_take]
      omega
    · rw [List.length_take, List.length_drop]
      omega
    · exact inByte_iff.mpr ⟨i, rfl⟩
    · exact inByte_iff.mpr ⟨v, rfl⟩
    · rw [wire_of_bytes, List.cons_append, List.append_assoc, List.append_assoc]
      exact congrArg (i :: ·) hparts

end GuardianSignature

/-! ## Runs of signatures -/

/-- The signatures come off the front one at a time. -/
theorem readSignatures_wire {sigs : List GuardianSignature} {rest : Bytes}
    (h : ∀ sig ∈ sigs, sig.Shaped ∧ sig.InRange) :
    readSignatures sigs.length (sigs.flatMap GuardianSignature.wire ++ rest) = sigs := by
  induction sigs with
  | nil => rfl
  | cons sig sigs ih =>
    obtain ⟨⟨hs, hr⟩, hrest⟩ := List.forall_mem_cons.mp h
    rw [List.flatMap_cons, List.append_assoc, List.length_cons, readSignatures,
      sig.readSignature_wire hs hr, List.drop_left' (GuardianSignature.length_wire hs), ih hrest]

theorem length_flatMap_wire {sigs : List GuardianSignature} (h : ∀ sig ∈ sigs, sig.Shaped) :
    (sigs.flatMap GuardianSignature.wire).length = sigs.length * signatureLength := by
  induction sigs with
  | nil => simp
  | cons sig sigs ih =>
    obtain ⟨hs, hrest⟩ := List.forall_mem_cons.mp h
    rw [List.flatMap_cons, List.length_append, GuardianSignature.length_wire hs, ih hrest,
      List.length_cons, Nat.succ_mul, Nat.add_comm]

/-- Enough bytes for a number of signatures begin with what so many signatures are written as. -/
theorem exists_flatMap_wire {n : Nat} : ∀ {data : Bytes}, n * signatureLength ≤ data.length →
    ∃ (sigs : List GuardianSignature) (rest : Bytes), sigs.length = n ∧
      (∀ sig ∈ sigs, sig.Shaped ∧ sig.InRange) ∧
      data = sigs.flatMap GuardianSignature.wire ++ rest := by
  induction n with
  | zero =>
    intro data _
    exact ⟨[], data, rfl, fun sig hs => absurd hs List.not_mem_nil, rfl⟩
  | succ n ih =>
    intro data h
    rw [Nat.succ_mul] at h
    have hfirst : signatureLength ≤ data.length := by omega
    obtain ⟨sig, tail, hs, hr, rfl⟩ := GuardianSignature.exists_wire hfirst
    rw [List.length_append, GuardianSignature.length_wire hs] at h
    have hothers : n * signatureLength ≤ tail.length := by omega
    obtain ⟨sigs, rest, rfl, hsigs, rfl⟩ := ih hothers
    refine ⟨sig :: sigs, rest, rfl, List.forall_mem_cons.mpr ⟨⟨hs, hr⟩, hsigs⟩, ?_⟩
    rw [List.flatMap_cons, List.append_assoc]

/-! ## Frames -/

/-- The number of signatures and the lengths of their parts are such as the wire has. -/
structure Shaped (x : Attestation) : Prop where
  signed : 1 ≤ x.signatures.length
  counted : x.signatures.length ≤ 255
  parts : ∀ sig ∈ x.signatures, sig.Shaped

/-- Every number fits its bytes. -/
structure InRange (x : Attestation) : Prop where
  version : InByte x.version
  guardianSet : 0 ≤ x.guardianSet ∧ x.guardianSet ≤ 2 ^ 32 - 1
  numbers : ∀ sig ∈ x.signatures, sig.InRange

instance {x : Attestation} : Decidable x.Shaped :=
  decidable_of_iff (1 ≤ x.signatures.length ∧ x.signatures.length ≤ 255 ∧
      ∀ sig ∈ x.signatures, sig.Shaped)
    ⟨fun h => ⟨h.1, h.2.1, h.2.2⟩, fun h => ⟨h.signed, h.counted, h.parts⟩⟩

instance {x : Attestation} : Decidable x.InRange :=
  decidable_of_iff (InByte x.version ∧ (0 ≤ x.guardianSet ∧ x.guardianSet ≤ 2 ^ 32 - 1) ∧
      ∀ sig ∈ x.signatures, sig.InRange)
    ⟨fun h => ⟨h.1, h.2.1, h.2.2⟩, fun h => ⟨h.version, h.guardianSet, h.numbers⟩⟩

/-- The bytes that stand for an attestation. -/
def wire (x : Attestation) : Bytes :=
  Bytes.bigEndian 1 x.version.toNat ++ Bytes.bigEndian 4 x.guardianSet.toNat ++
    Bytes.bigEndian 1 x.signatures.length ++ x.signatures.flatMap GuardianSignature.wire ++ x.body

/-- The bytes have a header that announces signatures, and the signatures that it announces. -/
def Framed (data : Bytes) : Prop :=
  6 ≤ data.length ∧ 1 ≤ (data.getD 5 0).toNat ∧ 6 + 66 * (data.getD 5 0).toNat ≤ data.length

variable {x : Attestation} {data : Bytes}

/-! ### Reading -/

section Header

variable {v c : UInt8} {mid rest : Bytes}

/-- A header is a byte, four bytes and a byte. -/
theorem exists_header (h : 6 ≤ data.length) :
    ∃ (v c : UInt8) (mid rest : Bytes), mid.length = 4 ∧ data = v :: (mid ++ (c :: rest)) := by
  cases data with
  | nil => exact absurd h (by decide)
  | cons v data =>
    rw [List.length_cons] at h
    obtain ⟨c, rest, hc⟩ : ∃ c rest, data.drop 4 = c :: rest :=
      List.exists_cons_of_length_pos (by rw [List.length_drop]; omega)
    refine ⟨v, c, data.take 4, rest, ?_, ?_⟩
    · rw [List.length_take]
      omega
    · rw [← hc, List.take_append_drop]

theorem framed_header_iff (hset : mid.length = 4) :
    Framed (v :: (mid ++ (c :: rest))) ↔
      1 ≤ c.toNat ∧ c.toNat * signatureLength ≤ rest.length := by
  have hcount : (v :: (mid ++ (c :: rest))).getD 5 0 = c := by
    show (mid ++ (c :: rest)).getD 4 0 = c
    rw [List.getD_eq_getElem?_getD, List.getElem?_append_right (by omega), hset]
    rfl
  rw [Framed, hcount, signatureLength]
  simp only [List.length_cons, List.length_append, hset]
  omega

/-- What is read behind a header. -/
theorem parse_header (hset : mid.length = 4) :
    parse (v :: (mid ++ (c :: rest))) =
      if c.toNat = 0 then .error .noSignatures
      else if rest.length < c.toNat * signatureLength then
        .error (.signaturesTruncated c.toNat (headerLength + c.toNat * signatureLength)
          (headerLength + rest.length))
      else .ok {
        version := v.toNat
        guardianSet := Bytes.readBigEndian mid
        signatures := readSignatures c.toNat rest
        body := rest.drop (c.toNat * signatureLength) } := by
  have hlength : (v :: (mid ++ (c :: rest))).length = headerLength + rest.length := by
    simp only [List.length_cons, List.length_append, hset, headerLength]
    omega
  have hcount : (v :: (mid ++ (c :: rest))).drop 5 = c :: rest := List.drop_left' hset
  have hrest : (v :: (mid ++ (c :: rest))).drop headerLength = rest := by
    rw [headerLength, show 6 = 5 + 1 from rfl, ← List.drop_drop, hcount]
    rfl
  have hfour : ((v :: (mid ++ (c :: rest))).drop 1).take 4 = mid := List.take_left' hset
  unfold parse
  rw [hlength, if_neg (by omega)]
  simp only [hcount, hrest, hfour, List.headD_cons, ← List.drop_drop, Nat.add_lt_add_iff_left]

end Header

/-- What a frame is written as is read as the frame. -/
theorem parse_wire (hs : x.Shaped) (hr : x.InRange) : parse x.wire = .ok x := by
  obtain ⟨version, guardianSet, sigs, body⟩ := x
  obtain ⟨hsigned, hcounted, hparts⟩ := hs
  obtain ⟨hversion, ⟨hset, hset'⟩, hnumbers⟩ := hr
  simp only at *
  obtain ⟨v, rfl⟩ := inByte_iff.mp hversion
  obtain ⟨g, rfl⟩ := Int.eq_ofNat_of_zero_le hset
  obtain ⟨c, hc⟩ : ∃ c : UInt8, sigs.length = c.toNat := by
    obtain ⟨c, hc⟩ := inByte_iff.mp (⟨by omega, by omega⟩ : InByte sigs.length)
    exact ⟨c, by exact_mod_cast hc⟩
  have hwire : wire ⟨v.toNat, g, sigs, body⟩ = v :: (Bytes.bigEndian 4 g ++
      (c :: (sigs.flatMap GuardianSignature.wire ++ body))) := by
    simp [wire, hc, Bytes.bigEndian_one]
  have hlength := length_flatMap_wire hparts
  have hbody : (sigs.flatMap GuardianSignature.wire ++ body).drop _ = body :=
    List.drop_left' hlength
  have hsigs : readSignatures _ (sigs.flatMap GuardianSignature.wire ++ body) = sigs :=
    readSignatures_wire fun sig hm => ⟨hparts sig hm, hnumbers sig hm⟩
  have hg : Bytes.readBigEndian (Bytes.bigEndian 4 g) = g :=
    Bytes.readBigEndian_bigEndian (by omega)
  rw [hc] at hlength hbody hsigs
  rw [hwire, parse_header (Bytes.length_bigEndian 4 g), if_neg (by omega), if_neg, hbody, hsigs, hg]
  rw [List.length_append]
  omega

/-- Bytes with a header and its signatures are what some frame is written as. -/
theorem exists_wire (h : Framed data) : ∃ x : Attestation, x.Shaped ∧ x.InRange ∧ data = x.wire := by
  obtain ⟨v, c, mid, rest, hset, rfl⟩ := exists_header h.1
  obtain ⟨hsigned, hlong⟩ := (framed_header_iff hset).mp h
  obtain ⟨sigs, body, hc, hsigs, rfl⟩ := exists_flatMap_wire hlong
  have hlt := Bytes.readBigEndian_lt mid
  have hwrite := Bytes.bigEndian_readBigEndian mid
  rw [hset] at hlt hwrite
  have hcount : 1 ≤ sigs.length ∧ sigs.length ≤ 255 := by
    have := c.toNat_lt
    omega
  have hnumber : 0 ≤ (Bytes.readBigEndian mid : Int) ∧
      (Bytes.readBigEndian mid : Int) ≤ 2 ^ 32 - 1 := by omega
  refine ⟨⟨v.toNat, Bytes.readBigEndian mid, sigs, body⟩, ?_, ?_, ?_⟩
  · exact ⟨hcount.1, hcount.2, fun sig hm => (hsigs sig hm).1⟩
  · exact ⟨inByte_iff.mpr ⟨v, rfl⟩, hnumber, fun sig hm => (hsigs sig hm).2⟩
  · simp [wire, hc, Bytes.bigEndian_one, hwrite]

/-- Bytes without a header and its signatures are malformed, and no others are. -/
theorem parse_cases (data : Bytes) :
    (Framed data ∧ ∃ x, parse data = .ok x) ∨
      (¬ Framed data ∧ ∃ fault, parse data = .error fault ∧ fault.kind = .malformedAttestation) := by
  by_cases hlength : 6 ≤ data.length
  · obtain ⟨v, c, mid, rest, hset, rfl⟩ := exists_header hlength
    rw [framed_header_iff hset, parse_header hset]
    by_cases hc : c.toNat = 0
    · rw [if_pos hc]
      exact Or.inr ⟨by omega, _, rfl, rfl⟩
    · rw [if_neg hc]
      by_cases hlong : rest.length < c.toNat * signatureLength
      · rw [if_pos hlong]
        exact Or.inr ⟨by omega, _, rfl, rfl⟩
      · rw [if_neg hlong]
        exact Or.inl ⟨by omega, _, rfl⟩
  · refine Or.inr ⟨fun h => hlength h.1, .headerTruncated data.length, ?_, rfl⟩
    unfold parse
    exact if_pos (by rw [headerLength]; omega)

/-- **Bytes are read as a frame exactly when they are what the frame is written as.** -/
theorem parse_eq_ok_iff : parse data = .ok x ↔ x.Shaped ∧ x.InRange ∧ data = x.wire := by
  constructor
  · intro h
    rcases parse_cases data with ⟨hframed, -⟩ | ⟨-, fault, hfault, -⟩
    · obtain ⟨y, hs, hr, rfl⟩ := exists_wire hframed
      rw [parse_wire hs hr] at h
      cases h
      exact ⟨hs, hr, rfl⟩
    · rw [hfault] at h
      cases h
  · intro h
    obtain ⟨hs, hr, rfl⟩ := h
    exact parse_wire hs hr

/-! ### Writing -/

theorem liftField_eq_ok_iff {α : Type} {y : Except Value.ByteFault α} {a : α} :
    liftField y = .ok a ↔ y = .ok a := by
  cases y with
  | ok b => simp [liftField]
  | error fault => simp [liftField]

theorem failsOnly_liftField {α : Type} {y : Except Value.ByteFault α} {kind : ErrorKind}
    (h : FailsOnly (fun fault => fault.kind = kind) y) :
    FailsOnly (fun fault => fault.kind = kind) (liftField y) := by
  cases y with
  | ok a => exact failsOnly_ok
  | error fault => exact failsOnly_error (h fault rfl)

theorem parts_shaped_iff {sigs : List GuardianSignature} :
    (sigs.any fun sig => sig.r.length != 32 || sig.s.length != 32) = false ↔
      ∀ sig ∈ sigs, sig.Shaped := by
  simp [GuardianSignature.Shaped]

/-- The fields are written once the shape has been judged. -/
theorem serialize_of_shaped (hs : x.Shaped) : serialize x = liftField (do
    let version ← uintBytes 1 x.version
    let guardianSet ← uintBytes 4 x.guardianSet
    let count ← uintBytes 1 x.signatures.length
    let signatures ← x.signatures.mapM GuardianSignature.toBytes
    .ok (version ++ guardianSet ++ count ++ signatures.flatten ++ x.body)) := by
  have hsigned : ¬ x.signatures.isEmpty = true := by
    rw [List.isEmpty_iff_length_eq_zero]
    have := hs.signed
    omega
  have hcounted : ¬ 255 < x.signatures.length := Nat.not_lt.mpr hs.counted
  unfold serialize
  rw [if_neg hsigned, if_neg hcounted, parts_shaped_iff.mpr hs.parts]
  rfl

/-- What is not of the shape of the wire is malformed, whatever its numbers are. -/
theorem serialize_of_not_shaped (hs : ¬ x.Shaped) :
    ∃ fault, serialize x = .error fault ∧ fault.kind = .malformedAttestation := by
  unfold serialize
  by_cases hsigned : x.signatures.isEmpty = true
  · exact ⟨_, if_pos hsigned, rfl⟩
  rw [if_neg hsigned]
  by_cases hcounted : 255 < x.signatures.length
  · exact ⟨_, if_pos hcounted, rfl⟩
  rw [if_neg hcounted]
  by_cases hparts : ∀ sig ∈ x.signatures, sig.Shaped
  · rw [List.isEmpty_iff_length_eq_zero] at hsigned
    exact absurd ⟨by omega, by omega, hparts⟩ hs
  · exact ⟨_, if_pos (eq_true_of_ne_false fun h => hparts (parts_shaped_iff.mp h)), rfl⟩

/-- Numbers that do not fit are the only fault behind the shape. -/
theorem failsOnly_serialize (hs : x.Shaped) :
    FailsOnly (fun fault => fault.kind = .overflow) (serialize x) := by
  rw [serialize_of_shaped hs]
  apply failsOnly_liftField
  apply failsOnly_bind failsOnly_uintBytes
  intro version _
  apply failsOnly_bind failsOnly_uintBytes
  intro guardianSet _
  apply failsOnly_bind failsOnly_uintBytes
  intro count _
  apply failsOnly_bind (failsOnly_mapM fun _ => GuardianSignature.failsOnly_toBytes)
  intro parts _
  exact failsOnly_ok

/-- **A frame is written exactly when it has the shape and the numbers of the wire.** -/
theorem serialize_eq_ok_iff : serialize x = .ok data ↔ x.Shaped ∧ x.InRange ∧ data = x.wire := by
  by_cases hs : x.Shaped
  · rw [serialize_of_shaped hs, liftField_eq_ok_iff]
    have hcount : InByte x.signatures.length := ⟨by omega, by have := hs.counted; omega⟩
    constructor
    · intro h
      obtain ⟨version, hw, h⟩ := bind_eq_ok_iff.mp h
      obtain ⟨hversion, rfl⟩ := uintBytes_one_iff.mp hw
      obtain ⟨mid, hw, h⟩ := bind_eq_ok_iff.mp h
      obtain ⟨hnonneg, hlt, rfl⟩ := Value.uintBytes_eq_ok_iff.mp hw
      obtain ⟨count, hw, h⟩ := bind_eq_ok_iff.mp h
      obtain ⟨-, rfl⟩ := uintBytes_one_iff.mp hw
      obtain ⟨parts, hw, h⟩ := bind_eq_ok_iff.mp h
      obtain ⟨hnumbers, rfl⟩ :=
        (mapM_eq_ok_iff fun _ _ => GuardianSignature.toBytes_eq_ok_iff).mp hw
      cases h
      exact ⟨hs, ⟨hversion, ⟨hnonneg, by omega⟩, hnumbers⟩, by rw [wire, List.flatMap_def]; rfl⟩
    · intro h
      obtain ⟨-, ⟨hversion, ⟨hnonneg, hle⟩, hnumbers⟩, rfl⟩ := h
      refine bind_eq_ok_iff.mpr ⟨_, uintBytes_one_iff.mpr ⟨hversion, rfl⟩, ?_⟩
      refine bind_eq_ok_iff.mpr ⟨_, Value.uintBytes_eq_ok_iff.mpr ⟨hnonneg, by omega, rfl⟩, ?_⟩
      refine bind_eq_ok_iff.mpr ⟨_, uintBytes_one_iff.mpr ⟨hcount, rfl⟩, ?_⟩
      refine bind_eq_ok_iff.mpr
        ⟨_, (mapM_eq_ok_iff fun _ _ => GuardianSignature.toBytes_eq_ok_iff).mpr ⟨hnumbers, rfl⟩, ?_⟩
      rw [wire, List.flatMap_def]
      rfl
  · obtain ⟨fault, hfault, -⟩ := serialize_of_not_shaped hs
    rw [hfault]
    constructor
    · intro h
      cases h
    · intro h
      exact absurd h.1 hs

/-- What is written is read again. -/
theorem parse_of_serialize (hs : x.Shaped) (hr : x.InRange) :
    ∃ data, serialize x = .ok data ∧ parse data = .ok x :=
  ⟨x.wire, serialize_eq_ok_iff.mpr ⟨hs, hr, rfl⟩, parse_wire hs hr⟩

/-! ## Framing is exact -/

/-- **Reading and writing attestations are inverse to each other**, and each says exactly what it
accepts. Reading takes every byte string with a header and the signatures that it announces, whatever
they and the body are; writing takes every attestation with the counts and the lengths of the wire
whose numbers fit. -/
theorem parse_serialize_inverse :
    (∀ data, ((∃ x, parse data = .ok x) ↔ Framed data) ∧
      (¬ Framed data → ∃ fault, parse data = .error fault ∧ fault.kind = .malformedAttestation)) ∧
    (∀ data x, parse data = .ok x → serialize x = .ok data) ∧
    (∀ x, (∃ data, serialize x = .ok data) ↔ x.Shaped ∧ x.InRange) ∧
    (∀ x data, serialize x = .ok data → parse data = .ok x) ∧
    (∀ x, ¬ x.Shaped →
      ∃ fault, serialize x = .error fault ∧ fault.kind = .malformedAttestation) ∧
    (∀ x, x.Shaped → ¬ x.InRange →
      ∃ fault, serialize x = .error fault ∧ fault.kind = .overflow) := by
  have hsame : ∀ x data, parse data = .ok x ↔ serialize x = .ok data := by
    intro x data
    rw [parse_eq_ok_iff, serialize_eq_ok_iff]
  refine ⟨?_, fun data x => (hsame x data).mp, ?_, fun x data => (hsame x data).mpr,
    fun x => serialize_of_not_shaped, ?_⟩
  · intro data
    rcases parse_cases data with ⟨hframed, hx⟩ | ⟨hframed, hfault⟩
    · exact ⟨⟨fun _ => hframed, fun _ => hx⟩, fun h => absurd hframed h⟩
    · refine ⟨⟨fun h => ?_, fun h => absurd h hframed⟩, fun _ => hfault⟩
      obtain ⟨x, hx⟩ := h
      obtain ⟨fault, hfault, -⟩ := hfault
      rw [hfault] at hx
      cases hx
  · intro x
    constructor
    · intro h
      obtain ⟨data, h⟩ := h
      obtain ⟨hs, hr, -⟩ := serialize_eq_ok_iff.mp h
      exact ⟨hs, hr⟩
    · intro h
      exact ⟨x.wire, serialize_eq_ok_iff.mpr ⟨h.1, h.2, rfl⟩⟩
  · intro x hs hr
    cases h : serialize x with
    | ok data => exact absurd (serialize_eq_ok_iff.mp h).2.1 hr
    | error fault => exact ⟨fault, rfl, failsOnly_serialize hs fault h⟩

/-- One signature given twice. -/
def signedTwice : Attestation :=
  let sig : GuardianSignature := ⟨3, List.replicate 32 1, List.replicate 32 2, 255⟩
  ⟨1, 4, [sig, sig], [7, 7]⟩

/-- A repeated signature is kept, in a frame of which the last number is as large as it can be. Of
two defects the shape is the one that is reported. -/
theorem parse_serialize_signedTwice :
    (∃ data, serialize signedTwice = .ok data ∧ parse data = .ok signedTwice) ∧
    (∃ fault, parse [1, 0, 0, 0, 4, 1, 3] = .error fault ∧ fault.kind = .malformedAttestation) ∧
    (∃ fault, serialize { signedTwice with version := 256 } = .error fault ∧
      fault.kind = .overflow) ∧
    (∃ fault, serialize { signedTwice with version := 256, signatures := [] } = .error fault ∧
      fault.kind = .malformedAttestation) := by
  obtain ⟨haccepts, hback, hwrites, hread, hshape, hrange⟩ := parse_serialize_inverse
  obtain ⟨data, hdata⟩ := (hwrites signedTwice).mpr ⟨by decide, by decide⟩
  exact ⟨⟨data, hdata, hread _ _ hdata⟩, (haccepts _).2 (by simp [Framed]),
    hrange _ (by decide) (by decide), hshape _ (by decide)⟩

end Attestation

end TokenBridge
