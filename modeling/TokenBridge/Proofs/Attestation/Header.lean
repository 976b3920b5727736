import TokenBridge.Attestation.Loose
import TokenBridge.Proofs.Attestation.Framing

/-!
# Headers of bodies

A body is written from its fields, one behind another, and read by cutting at fixed places; the two
have nothing in common but the widths. `Body.wire` is what both are about: **a body is written
exactly when it is built of what the wire holds, and every fifty-one bytes or more are the wire of
one body** (`Body.build_parse_inverse`).

The five numbers are written in the order of `Body.numbers`, which is not the order in which callers
hand them over. Which of several bad numbers is reported is a fact about that list and about no
field of it.
-/

namespace TokenBridge

open Value (uintBytes)

/-! ## Cutting -/

section Cutting

variable {data front rest : Bytes} {start width : Nat}

theorem Bytes.take_of_drop (h : data.drop start = front ++ rest) (hfront : front.length = width) :
    (data.drop start).take width = front := by
  rw [h]
  exact List.take_left' hfront

theorem Bytes.drop_of_drop (h : data.drop start = front ++ rest) (hfront : front.length = width) :
    data.drop (start + width) = rest := by
  rw [← List.drop_drop, h]
  exact List.drop_left' hfront

theorem Bytes.cut_append_drop (data : Bytes) (start width : Nat) :
    (data.drop start).take width ++ data.drop (start + width) = data.drop start := by
  rw [← List.drop_drop]
  exact List.take_append_drop width (data.drop start)

theorem Bytes.length_cut (h : start + width ≤ data.length) :
    ((data.drop start).take width).length = width := by
  rw [List.length_take, List.length_drop]
  omega

/-- The number that a piece writes. -/
def Bytes.numberAt (data : Bytes) (start width : Nat) : Nat :=
  readBigEndian ((data.drop start).take width)

theorem Bytes.numberAt_lt (h : start + width ≤ data.length) :
    data.numberAt start width < 256 ^ width := by
  have hlt := readBigEndian_lt ((data.drop start).take width)
  rw [length_cut h] at hlt
  exact hlt

theorem Bytes.bigEndian_numberAt (h : start + width ≤ data.length) :
    bigEndian width (data.numberAt start width) = (data.drop start).take width := by
  have hback := bigEndian_readBigEndian ((data.drop start).take width)
  rw [length_cut h] at hback
  exact hback

end Cutting

namespace Attestation

/-! ## Fields of fixed width -/

/-- The number of a field can be written with the bytes that the field has. -/
def Fits (field : Nat × Int) : Prop := 0 ≤ field.2 ∧ field.2.toNat < 256 ^ field.1

instance : DecidablePred Fits := fun field =>
  inferInstanceAs (Decidable (0 ≤ field.2 ∧ field.2.toNat < 256 ^ field.1))

/-- What is wrong with a number that does not fit. -/
def misfit (field : Nat × Int) : Value.ByteFault := if field.2 < 0 then .negative else .tooBig

section Fields

variable {field : Nat × Int}

theorem kind_misfit : (misfit field).kind = .overflow := by
  unfold misfit
  split
  · rfl
  · rfl

theorem uintBytes_field_iff {data : Bytes} :
    uintBytes field.1 field.2 = .ok data ↔
      Fits field ∧ data = Bytes.bigEndian field.1 field.2.toNat := by
  rw [Value.uintBytes_eq_ok_iff, ← and_assoc]
  rfl

theorem uintBytes_of_not_fits (h : ¬ Fits field) :
    uintBytes field.1 field.2 = .error (misfit field) := by
  unfold uintBytes misfit
  by_cases hnegative : field.2 < 0
  · rw [if_pos hnegative, if_pos hnegative]
  · have hlarge : 256 ^ field.1 ≤ field.2.toNat :=
      Nat.not_lt.mp fun hlt => h ⟨Int.not_lt.mp hnegative, hlt⟩
    rw [if_neg hnegative, if_neg hnegative, if_pos hlarge]

end Fields

namespace Body

/-- The numbers of a header in the order of the wire, each with its width. -/
def numbers (x : Body) : List (Nat × Int) :=
  [(4, x.timestamp), (4, x.nonce), (2, x.emitterChain), (8, x.sequence), (1, x.consistencyLevel)]

/-- The address has the length that the wire gives it. -/
def Shaped (x : Body) : Prop := x.emitterAddress.length = 32

/-- Every number is in the range of its field. -/
structure InRange (x : Body) : Prop where
  timestamp : 0 ≤ x.timestamp ∧ x.timestamp ≤ 2 ^ 32 - 1
  nonce : 0 ≤ x.nonce ∧ x.nonce ≤ 2 ^ 32 - 1
  emitterChain : 0 ≤ x.emitterChain ∧ x.emitterChain ≤ 2 ^ 16 - 1
  sequence : 0 ≤ x.sequence ∧ x.sequence ≤ 2 ^ 64 - 1
  consistencyLevel : 0 ≤ x.consistencyLevel ∧ x.consistencyLevel ≤ 255

instance {x : Body} : Decidable x.InRange :=
  decidable_of_iff ((0 ≤ x.timestamp ∧ x.timestamp ≤ 2 ^ 32 - 1) ∧
      (0 ≤ x.nonce ∧ x.nonce ≤ 2 ^ 32 - 1) ∧ (0 ≤ x.emitterChain ∧ x.emitterChain ≤ 2 ^ 16 - 1) ∧
      (0 ≤ x.sequence ∧ x.sequence ≤ 2 ^ 64 - 1) ∧
      0 ≤ x.consistencyLevel ∧ x.consistencyLevel ≤ 255)
    ⟨fun h => ⟨h.1, h.2.1, h.2.2.1, h.2.2.2.1, h.2.2.2.2⟩,
      fun h => ⟨h.timestamp, h.nonce, h.emitterChain, h.sequence, h.consistencyLevel⟩⟩

/-- The bytes that stand for a body. -/
def wire (x : Body) : Bytes :=
  Bytes.bigEndian 4 x.timestamp.toNat ++ (Bytes.bigEndian 4 x.nonce.toNat ++
    (Bytes.bigEndian 2 x.emitterChain.toNat ++ (x.emitterAddress ++
      (Bytes.bigEndian 8 x.sequence.toNat ++
        (Bytes.bigEndian 1 x.consistencyLevel.toNat ++ x.payload)))))

/-- The bytes of a body from its arguments, three of which are given by name. -/
def build (x : Body) : Except Fault Bytes := do
  let arguments ← LooseBody.ofArguments (.int x.emitterChain) (.bytes x.emitterAddress)
    (.int x.sequence) (.bytes x.payload)
    [("timestamp", .int x.timestamp), ("nonce", .int x.nonce),
      ("consistency_level", .int x.consistencyLevel)]
  arguments.serialize

variable {x : Body} {data : Bytes}

theorem build_eq_serialize : x.build = x.serialize := by
  rw [← serialize_loosen]
  rfl

theorem forall_fits_iff : (∀ field ∈ x.numbers, Fits field) ↔ x.InRange := by
  simp only [numbers, List.forall_mem_cons, Fits]
  constructor
  · intro h
    obtain ⟨htimestamp, hnonce, hchain, hsequence, hlevel, -⟩ := h
    exact ⟨by omega, by omega, by omega, by omega, by omega⟩
  · intro h
    obtain ⟨htimestamp, hnonce, hchain, hsequence, hlevel⟩ := h
    exact ⟨by omega, by omega, by omega, by omega, by omega, List.forall_mem_nil _⟩

/-! ## Writing -/

/-- The address and the payload among the bytes of the numbers. -/
def arrange (x : Body) : List Bytes → Bytes
  | [timestamp, nonce, chain, sequence, level] =>
    timestamp ++ nonce ++ chain ++ x.emitterAddress ++ sequence ++ level ++ x.payload
  | _ => []

/-- The numbers are written in turn, once the address has been judged. -/
theorem serialize_of_shaped (h : x.Shaped) : x.serialize = liftField (do
    let parts ← x.numbers.mapM fun field => uintBytes field.1 field.2
    .ok (x.arrange parts)) := by
  have haddress : x.emitterAddress.length = 32 := h
  unfold serialize
  rw [if_neg (not_not_intro haddress)]
  simp only [numbers, List.mapM_cons, List.mapM_nil, bind_assoc, pure_bind]
  rfl

theorem serialize_of_not_shaped (h : ¬ x.Shaped) : x.serialize = .error .wrongAddressLength :=
  if_pos h

theorem arrange_numbers :
    x.arrange (x.numbers.map fun field => Bytes.bigEndian field.1 field.2.toNat) = x.wire := by
  simp only [numbers, List.map_cons, List.map_nil, arrange, wire, List.append_assoc]

/-- **A body is written exactly when it has the shape and the numbers of the wire.** -/
theorem serialize_eq_ok_iff :
    x.serialize = .ok data ↔ x.Shaped ∧ x.InRange ∧ data = x.wire := by
  by_cases hshaped : x.Shaped
  · rw [serialize_of_shaped hshaped, liftField_eq_ok_iff, bind_eq_ok_iff, ← forall_fits_iff]
    simp only [mapM_eq_ok_iff fun _ _ => uintBytes_field_iff]
    constructor
    · intro h
      obtain ⟨parts, ⟨hfits, rfl⟩, h⟩ := h
      cases h
      exact ⟨hshaped, hfits, arrange_numbers⟩
    · intro h
      obtain ⟨-, hfits, rfl⟩ := h
      exact ⟨_, ⟨hfits, rfl⟩, congrArg Except.ok arrange_numbers⟩
  · rw [serialize_of_not_shaped hshaped]
    constructor
    · intro h
      cases h
    · intro h
      exact absurd h.1 hshaped

/-- The first number that does not fit is the one that is reported. -/
theorem serialize_of_find? {field : Nat × Int} (h : x.Shaped)
    (hfirst : x.numbers.find? (fun field => ¬ Fits field) = some field) :
    x.serialize = .error (.field (misfit field)) := by
  have hloop : x.numbers.mapM (fun field => uintBytes field.1 field.2) = .error (misfit field) :=
    mapM_eq_error_of_find? (fun _ hfits => ⟨_, uintBytes_field_iff.mpr ⟨hfits, rfl⟩⟩)
      (fun _ => uintBytes_of_not_fits) hfirst
  rw [serialize_of_shaped h, hloop]
  rfl

theorem exists_first_misfit (h : ¬ x.InRange) :
    ∃ field, x.numbers.find? (fun field => ¬ Fits field) = some field := by
  cases hfound : x.numbers.find? (fun field => ¬ Fits field) with
  | some field => exact ⟨field, rfl⟩
  | none =>
    refine absurd (forall_fits_iff.mp fun field hmem => ?_) h
    have hfits := List.find?_eq_none.mp hfound field hmem
    simpa using hfits

/-! ## Reading -/

theorem parse_of_short (h : data.length < 51) :
    parse data = .error (.bodyTruncated data.length) := if_pos h

theorem le_length_wire (h : x.Shaped) : 51 ≤ x.wire.length := by
  have haddress : x.emitterAddress.length = 32 := h
  simp only [wire, List.length_append, Bytes.length_bigEndian, haddress]
  omega

theorem parse_wire (hshaped : x.Shaped) (hrange : x.InRange) : parse x.wire = .ok x := by
  have h0 : x.wire.drop 0 = x.wire := rfl
  have h4 := Bytes.drop_of_drop h0 (Bytes.length_bigEndian 4 _)
  have h8 := Bytes.drop_of_drop h4 (Bytes.length_bigEndian 4 _)
  have h10 := Bytes.drop_of_drop h8 (Bytes.length_bigEndian 2 _)
  have h42 := Bytes.drop_of_drop h10 hshaped
  have h50 := Bytes.drop_of_drop h42 (Bytes.length_bigEndian 8 _)
  have h51 := Bytes.drop_of_drop h50 (Bytes.length_bigEndian 1 _)
  have hlong : ¬ x.wire.length < bodyHeaderLength := Nat.not_lt.mpr (le_length_wire hshaped)
  have hread {n : Int} {width : Nat} (hnonneg : 0 ≤ n) (hlt : n.toNat < 256 ^ width) :
      (Bytes.readBigEndian (Bytes.bigEndian width n.toNat) : Int) = n := by
    rw [Bytes.readBigEndian_bigEndian hlt, Int.toNat_of_nonneg hnonneg]
  obtain ⟨htimestamp, hnonce, hchain, hsequence, hlevel⟩ := hrange
  unfold parse
  rw [if_neg hlong]
  simp only [Bytes.take_of_drop h0 (Bytes.length_bigEndian 4 _),
    Bytes.take_of_drop h4 (Bytes.length_bigEndian 4 _),
    Bytes.take_of_drop h8 (Bytes.length_bigEndian 2 _), Bytes.take_of_drop h10 hshaped,
    Bytes.take_of_drop h42 (Bytes.length_bigEndian 8 _),
    Bytes.take_of_drop h50 (Bytes.length_bigEndian 1 _), bodyHeaderLength]
  rw [hread htimestamp.1 (by omega), hread hnonce.1 (by omega), hread hchain.1 (by omega),
    hread hsequence.1 (by omega), hread hlevel.1 (by omega)]
  exact congrArg (fun payload => Except.ok { x with payload }) h51

theorem exists_wire (h : 51 ≤ data.length) :
    ∃ x : Body, x.Shaped ∧ x.InRange ∧ data = x.wire := by
  have hfits (start width : Nat) (hle : start + width ≤ 51) :
      Fits (width, data.numberAt start width) :=
    ⟨Int.natCast_nonneg _, Bytes.numberAt_lt (Nat.le_trans hle h)⟩
  have hcut (start width : Nat) (hle : start + width ≤ 51) :=
    Bytes.bigEndian_numberAt (Nat.le_trans hle h)
  refine ⟨⟨data.numberAt 0 4, data.numberAt 4 4, data.numberAt 8 2, (data.drop 10).take 32,
    data.numberAt 42 8, data.numberAt 50 1, data.drop 51⟩, Bytes.length_cut (by omega),
    forall_fits_iff.mp ?_, ?_⟩
  · simp only [numbers, List.forall_mem_cons]
    exact ⟨hfits 0 4 (by decide), hfits 4 4 (by decide), hfits 8 2 (by decide),
      hfits 42 8 (by decide), hfits 50 1 (by decide), List.forall_mem_nil _⟩
  · -- each piece and what follows it are what follows the piece before
    simp only [wire, Int.toNat_natCast, hcut 0 4 (by decide), hcut 4 4 (by decide),
      hcut 8 2 (by decide), hcut 42 8 (by decide), hcut 50 1 (by decide)]
    rw [Bytes.cut_append_drop data 50 1, Bytes.cut_append_drop data 42 8,
      Bytes.cut_append_drop data 10 32, Bytes.cut_append_drop data 8 2,
      Bytes.cut_append_drop data 4 4, Bytes.cut_append_drop data 0 4]
    rfl

/-- **Bytes are read as a body exactly when they are what the body is written as.** -/
theorem parse_eq_ok_iff : parse data = .ok x ↔ x.Shaped ∧ x.InRange ∧ data = x.wire := by
  constructor
  · intro h
    by_cases hlong : 51 ≤ data.length
    · obtain ⟨y, hshaped, hrange, rfl⟩ := exists_wire hlong
      rw [parse_wire hshaped hrange] at h
      cases h
      exact ⟨hshaped, hrange, rfl⟩
    · rw [parse_of_short (Nat.not_le.mp hlong)] at h
      cases h
  · intro h
    obtain ⟨hshaped, hrange, rfl⟩ := h
    exact parse_wire hshaped hrange

/-! ## The header is exact -/

theorem parse_eq_ok_iff_build : parse data = .ok x ↔ x.build = .ok data := by
  rw [parse_eq_ok_iff, build_eq_serialize, serialize_eq_ok_iff]

theorem exists_build_iff : (∃ data, x.build = .ok data) ↔ x.Shaped ∧ x.InRange := by
  rw [build_eq_serialize]
  constructor
  · intro h
    obtain ⟨data, h⟩ := h
    obtain ⟨hshaped, hrange, -⟩ := serialize_eq_ok_iff.mp h
    exact ⟨hshaped, hrange⟩
  · intro h
    exact ⟨x.wire, serialize_eq_ok_iff.mpr ⟨h.1, h.2, rfl⟩⟩

theorem build_of_not_inRange (hshaped : x.Shaped) (hrange : ¬ x.InRange) : ∃ width n,
    x.numbers.find? (fun field => ¬ Fits field) = some (width, n) ∧
      x.build = .error (.field (if n < 0 then .negative else .tooBig)) ∧
      ∀ fault, x.build = .error fault → fault.kind = .overflow := by
  obtain ⟨⟨width, n⟩, hfirst⟩ := exists_first_misfit hrange
  have hfault := serialize_of_find? hshaped hfirst
  rw [build_eq_serialize]
  refine ⟨width, n, hfirst, hfault, ?_⟩
  intro fault h
  rw [hfault] at h
  cases h
  exact kind_misfit

theorem exists_parse_iff : (∃ x, parse data = .ok x) ↔ 51 ≤ data.length := by
  constructor
  · intro h
    obtain ⟨x, h⟩ := h
    obtain ⟨hshaped, -, rfl⟩ := parse_eq_ok_iff.mp h
    exact le_length_wire hshaped
  · intro h
    obtain ⟨x, hshaped, hrange, rfl⟩ := exists_wire h
    exact ⟨x, parse_wire hshaped hrange⟩

/-- **Building a body and reading it are inverse to each other.** What is built are the bodies with
an address of thirty-two bytes and numbers that are in range; a wrong address is reported whatever
the numbers are, and behind it the first number of the wire that does not fit. What is read is every
byte string of fifty-one bytes or more. -/
theorem build_parse_inverse :
    (∀ x : Body,
      ((∃ data, x.build = .ok data) ↔ x.emitterAddress.length = 32 ∧ x.InRange) ∧
      (∀ data, x.build = .ok data → parse data = .ok x) ∧
      (x.emitterAddress.length ≠ 32 →
        ∃ fault, x.build = .error fault ∧ fault.kind = .invalidValue) ∧
      (x.emitterAddress.length = 32 → ¬ x.InRange → ∃ width n,
        x.numbers.find? (fun field => ¬ Fits field) = some (width, n) ∧
        x.build = .error (.field (if n < 0 then .negative else .tooBig)) ∧
        ∀ fault, x.build = .error fault → fault.kind = .overflow)) ∧
    ∀ data : Bytes,
      ((∃ x, parse data = .ok x) ↔ 51 ≤ data.length) ∧
      (data.length < 51 → ∃ fault, parse data = .error fault ∧ fault.kind = .malformedAttestation) ∧
      ∀ x, parse data = .ok x → x.build = .ok data := by
  constructor
  · intro x
    refine ⟨exists_build_iff, fun data => parse_eq_ok_iff_build.mpr, ?_, build_of_not_inRange⟩
    intro hshaped
    rw [build_eq_serialize]
    exact ⟨_, serialize_of_not_shaped hshaped, rfl⟩
  · intro data
    exact ⟨exists_parse_iff, fun h => ⟨_, parse_of_short h, rfl⟩, fun x => parse_eq_ok_iff_build.mp⟩

/-- A body with three numbers that are as large as they can be. -/
def lastBody : Body :=
  ⟨2 ^ 32 - 1, 7, 2, List.replicate 32 9, 2 ^ 64 - 1, 255, [1, 2]⟩

/-- Of two numbers that do not fit the first on the wire is reported, though it is handed over by
name and the other by place; and neither is, where the address is too short. -/
theorem build_parse_lastBody :
    (∃ data, lastBody.build = .ok data ∧ parse data = .ok lastBody) ∧
    (∃ fault, { lastBody with emitterAddress := [9], nonce := -1 }.build = .error fault ∧
      fault.kind = .invalidValue) ∧
    { lastBody with nonce := -1, sequence := 2 ^ 64 }.build = .error (.field .negative) ∧
    (∃ fault, parse (List.replicate 50 0) = .error fault ∧ fault.kind = .malformedAttestation) ∧
    ∃ x, parse (List.replicate 51 0) = .ok x ∧ x.build = .ok (List.replicate 51 0) := by
  obtain ⟨hbuilt, hread⟩ := build_parse_inverse
  obtain ⟨hbuilds, hback, -, -⟩ := hbuilt lastBody
  obtain ⟨data, hdata⟩ := hbuilds.mpr ⟨rfl, by decide⟩
  obtain ⟨-, -, haddress, -⟩ := hbuilt { lastBody with emitterAddress := [9], nonce := -1 }
  obtain ⟨-, -, -, hnumbers⟩ := hbuilt { lastBody with nonce := -1, sequence := 2 ^ 64 }
  obtain ⟨width, n, hfirst, hfault, -⟩ := hnumbers rfl (by decide)
  have hnonce : n = -1 := (congrArg Prod.snd (Option.some.inj hfirst)).symm
  obtain ⟨-, hshort, -⟩ := hread (List.replicate 50 0)
  obtain ⟨hlong, -, hrebuilt⟩ := hread (List.replicate 51 0)
  obtain ⟨x, hx⟩ := hlong.mpr (by decide)
  rw [hnonce] at hfault
  exact ⟨⟨data, hdata, hback data hdata⟩, haddress (by decide), hfault, hshort (by decide),
    ⟨x, hx, hrebuilt x hx⟩⟩

end Body

end Attestation

end TokenBridge
