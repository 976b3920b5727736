import TokenBridge.Proofs.Message.Composition

/-!
# What a transfer looks like

The grammar of a transfer in both wrappers, as three records of slices: the payload, the manager's
message around it, and the transceiver's message around that. A record carries the proofs that its
slices have their lengths and that what stands in a window fits the window's length, so a record
*is* a well-formed message: `wire` writes it down and `value` says what it means, and neither can
fail.

**A byte string is read as a transfer exactly when it is the wire form of such a record, and the
value is the record's** (`read_wormholeTransfer_iff`). The lengths are written out in `wire` as the
grammar has them, seventy-nine bytes and a tail, sixty-six around those; that they are the lengths
of what follows is what makes each window end where its content does.

The tail is the one place where two things have no bytes in common but could be confused: an absent
additional payload, and an explicit empty one. Which of them it is is decided by the end of the
innermost window alone.
-/

namespace TokenBridge.Message

open Layout

/-! ## Slices -/

/-- The length of a window, in two bytes. -/
def u16 (n : Nat) : Bytes := Bytes.bigEndian 2 n

@[simp] theorem length_u16 (n : Nat) : (u16 n).length = 2 := Bytes.length_bigEndian 2 n

theorem write_u16_iff {n : Nat} {head : Bytes} :
    LengthField.write ⟨2, .big⟩ n = .ok head ↔ n < 65536 ∧ head = u16 n := by
  have hword : LengthField.word? ⟨2, .big⟩ = some (bigWord 2) := rfl
  rw [LengthField.write_eq_ok_iff_word hword, Word.write_eq_ok_iff]
  constructor
  · rintro ⟨m, hm, hlt, rfl⟩
    obtain rfl : n = m := Int.ofNat.inj hm
    exact ⟨hlt, rfl⟩
  · rintro ⟨hlt, rfl⟩
    exact ⟨n, rfl, hlt, rfl⟩

section Slices

variable {data rest : Bytes} {v : Value}

theorem read_uint_slice_iff {size : Nat} {size_pos : 0 < size} :
    (uint size size_pos).read data = .ok (v, rest) ↔
      ∃ slice : Bytes, slice.length = size ∧ data = slice ++ rest ∧
        v = .int (Bytes.readBigEndian slice) := by
  refine Schema.read_uint_eq_ok_iff.trans ?_
  constructor
  · rintro ⟨n, head, hw, rfl, rfl⟩
    obtain ⟨m, hm, hlt, rfl⟩ := Word.write_eq_ok_iff.mp hw
    obtain rfl : n = m := Int.ofNat.inj hm
    have hread : Bytes.readBigEndian (Endian.big.write size n) = n := Endian.read_write .big hlt
    exact ⟨Endian.big.write size n, Endian.length_write .big size n, rfl, by rw [hread]⟩
  · rintro ⟨slice, rfl, rfl, rfl⟩
    refine ⟨Bytes.readBigEndian slice, slice, Word.write_eq_ok_iff.mpr ⟨_, rfl, ?_, ?_⟩, rfl, rfl⟩
    · exact Bytes.readBigEndian_lt slice
    · exact (Bytes.bigEndian_readBigEndian slice).symm

theorem read_address_iff :
    address.read data = .ok (v, rest) ↔
      ∃ slice : Bytes, slice.length = 32 ∧ data = slice ++ rest ∧ v = .bytes slice := by
  refine Schema.read_fixed_eq_ok_iff.trans ?_
  constructor
  · rintro ⟨slice, hlen, hdata, hv⟩
    exact ⟨slice, by omega, hdata, hv⟩
  · rintro ⟨slice, hlen, hdata, hv⟩
    exact ⟨slice, by omega, hdata, hv⟩

theorem read_chainItem_iff :
    chainItem.read data = .ok (v, rest) ↔
      ∃ (slice : Bytes) (name : String), slice.length = 2 ∧ data = slice ++ rest ∧
        (name, Bytes.readBigEndian slice) ∈ Chain.table ∧ v = .text name := by
  refine Schema.read_custom_eq_ok_iff.trans ?_
  constructor
  · rintro ⟨raw, hr, hd⟩
    obtain ⟨slice, hlen, rfl, rfl⟩ := read_uint_slice_iff.mp hr
    obtain ⟨name, hname, rfl⟩ := chainFromRaw_int_eq_ok_iff.mp hd
    obtain ⟨n, hn, hmem⟩ := Chain.name?_eq_some_iff.mp hname
    obtain rfl := Int.ofNat.inj hn
    exact ⟨slice, name, hlen, rfl, hmem, rfl⟩
  · rintro ⟨slice, name, hlen, rfl, hmem, rfl⟩
    refine ⟨_, read_uint_slice_iff.mpr ⟨slice, hlen, rfl, rfl⟩, ?_⟩
    exact chainFromRaw_int_eq_ok_iff.mpr ⟨name, Chain.name?_eq_some_iff.mpr ⟨_, rfl, hmem⟩, rfl⟩

theorem read_trimmedItem_iff :
    trimmedItem.read data = .ok (v, rest) ↔
      ∃ decimals amount : Bytes, decimals.length = 1 ∧ amount.length = 8 ∧
        data = decimals ++ (amount ++ rest) ∧
        v = .trimmed (.int (Bytes.readBigEndian amount)) (.int (Bytes.readBigEndian decimals)) := by
  refine Schema.read_custom_eq_ok_iff.trans ?_
  constructor
  · rintro ⟨raw, hr, hv⟩
    obtain ⟨entries, hfields, -, rfl⟩ := Schema.read_struct_eq_ok_iff.mp hr
    obtain ⟨u, mid, tail, hu, hmore, rfl⟩ := (Schema.readFields_value_eq_ok_iff rfl).mp hfields
    obtain ⟨w, left, none, hw, hend, rfl⟩ := (Schema.readFields_value_eq_ok_iff rfl).mp hmore
    obtain ⟨rfl, rfl⟩ := Schema.readFields_nil_eq_ok_iff.mp hend
    obtain ⟨decimals, hdecimals, rfl, rfl⟩ := read_uint_slice_iff.mp hu
    obtain ⟨amount, hamount, rfl, rfl⟩ := read_uint_slice_iff.mp hw
    exact ⟨decimals, amount, hdecimals, hamount, rfl, (Except.ok.inj hv).symm⟩
  · rintro ⟨decimals, amount, hdecimals, hamount, rfl, rfl⟩
    refine ⟨.map [("decimals", .int (Bytes.readBigEndian decimals)),
      ("amount", .int (Bytes.readBigEndian amount))], ?_, rfl⟩
    refine Schema.read_struct_eq_ok_iff.mpr ⟨_, ?_, by simp, rfl⟩
    refine (Schema.readFields_value_eq_ok_iff rfl).mpr ⟨_, amount ++ rest, _,
      read_uint_slice_iff.mpr ⟨decimals, hdecimals, rfl, rfl⟩, ?_, rfl⟩
    refine (Schema.readFields_value_eq_ok_iff rfl).mpr ⟨_, rest, _,
      read_uint_slice_iff.mpr ⟨amount, hamount, rfl, rfl⟩, ?_, rfl⟩
    exact Schema.readFields_nil_eq_ok_iff.mpr ⟨rfl, rfl⟩

theorem read_rawWindow_iff :
    (window none false).read data = .ok (v, rest) ↔
      ∃ content : Bytes, content.length < 65536 ∧ data = u16 content.length ++ (content ++ rest) ∧
        v = Schema.rawContent true content := by
  refine Schema.read_required_eq_ok_iff.trans ?_
  simp only [write_u16_iff]
  constructor
  · rintro ⟨head, content, ⟨hlt, rfl⟩, rfl, rfl⟩
    exact ⟨content, hlt, List.append_assoc .., rfl⟩
  · rintro ⟨content, hlt, rfl, rfl⟩
    exact ⟨_, content, ⟨hlt, rfl⟩, (List.append_assoc ..).symm, rfl⟩

theorem read_window_iff {s : Schema} :
    (window (some s) false).read data = .ok (v, rest) ↔
      ∃ content : Bytes, content.length < 65536 ∧ data = u16 content.length ++ (content ++ rest) ∧
        s.read content = .ok (v, []) := by
  refine Schema.read_embedded_iff_staged.trans ?_
  constructor
  · rintro ⟨content, hw, hs⟩
    obtain ⟨other, hlt, rfl, hraw⟩ := read_rawWindow_iff.mp hw
    obtain rfl := Schema.rawContent_inj hraw
    exact ⟨content, hlt, rfl, hs⟩
  · rintro ⟨content, hlt, rfl, hs⟩
    exact ⟨content, read_rawWindow_iff.mpr ⟨content, hlt, rfl, rfl⟩, hs⟩

end Slices

/-! ## The grammar -/

/-- The bytes of a window with a length; none are told apart from an absent window. -/
def heldBytes : Bytes → Value
  | [] => .prefixedEmpty
  | byte :: data => .bytes (byte :: data)

/-- What ends a payload: nothing, or a length and as many bytes. -/
def tailBytes : Option Bytes → Bytes
  | none => []
  | some data => u16 data.length ++ data

/-- The value of what ends a payload. -/
def tailValue : Option Bytes → Value
  | none => .bytes []
  | some data => heldBytes data

/-- A transfer of a token, as slices of its bytes. -/
structure TransferPayload where
  decimals : Bytes
  amount : Bytes
  token : Bytes
  recipient : Bytes
  chain : Bytes
  chainName : String
  additional : Option Bytes
  decimals_length : decimals.length = 1
  amount_length : amount.length = 8
  token_length : token.length = 32
  recipient_length : recipient.length = 32
  chain_length : chain.length = 2
  chain_mem : (chainName, Bytes.readBigEndian chain) ∈ Chain.table
  additional_lt : ∀ data ∈ additional, data.length < 65536

namespace TransferPayload

def tail (p : TransferPayload) : Bytes := tailBytes p.additional

def wire (p : TransferPayload) : Bytes :=
  transferMagic ++ p.decimals ++ p.amount ++ p.token ++ p.recipient ++ p.chain ++ p.tail

def value (p : TransferPayload) : Value :=
  .map
    [("trimmed_amount",
        .trimmed (.int (Bytes.readBigEndian p.amount)) (.int (Bytes.readBigEndian p.decimals))),
      ("source_token", .bytes p.token), ("recipient_address", .bytes p.recipient),
      ("recipient_chain", .text p.chainName), ("additional_payload", tailValue p.additional)]

theorem length_wire (p : TransferPayload) : p.wire.length = 79 + p.tail.length := by
  simp only [wire, List.length_append, p.decimals_length, p.amount_length, p.token_length,
    p.recipient_length, p.chain_length]
  rfl

end TransferPayload

/-- A transfer in the message of a manager. -/
structure ManagedTransfer where
  id : Bytes
  sender : Bytes
  payload : TransferPayload
  id_length : id.length = 32
  sender_length : sender.length = 32
  payload_lt : 79 + payload.tail.length < 65536

namespace ManagedTransfer

def wire (m : ManagedTransfer) : Bytes :=
  m.id ++ m.sender ++ u16 (79 + m.payload.tail.length) ++ m.payload.wire

def value (m : ManagedTransfer) : Value :=
  .map [("id", .bytes m.id), ("sender", .bytes m.sender), ("payload", m.payload.value)]

theorem length_wire (m : ManagedTransfer) :
    m.wire.length = 66 + (79 + m.payload.tail.length) := by
  simp only [wire, List.length_append, m.id_length, m.sender_length, length_u16,
    m.payload.length_wire]

end ManagedTransfer

/-- A transfer in the message of a transceiver around that of a manager. -/
structure WrappedTransfer where
  source : Bytes
  recipient : Bytes
  managed : ManagedTransfer
  own : Bytes
  source_length : source.length = 32
  recipient_length : recipient.length = 32
  managed_lt : 66 + (79 + managed.payload.tail.length) < 65536
  own_lt : own.length < 65536

namespace WrappedTransfer

def wire (t : WrappedTransfer) : Bytes :=
  transceiverMagic ++ t.source ++ t.recipient ++ u16 (66 + (79 + t.managed.payload.tail.length)) ++
    t.managed.wire ++ u16 t.own.length ++ t.own

def value (t : WrappedTransfer) : Value :=
  .map
    [("source_ntt_manager", .bytes t.source), ("recipient_ntt_manager", .bytes t.recipient),
      ("ntt_manager_payload", t.managed.value), ("transceiver_payload", heldBytes t.own)]

end WrappedTransfer

/-! ## Reading the grammar -/

variable {data rest : Bytes} {v : Value}

theorem rawContent_true (content : Bytes) : Schema.rawContent true content = heldBytes content := by
  cases content <;> rfl

/-- Whether there is an additional payload is decided by whether anything is left. -/
theorem read_tail_iff :
    (window none true).read data = .ok (v, []) ↔
      ∃ additional : Option Bytes, (∀ content ∈ additional, content.length < 65536) ∧
        data = tailBytes additional ∧ v = tailValue additional := by
  refine Schema.read_raw_eq_ok_iff.trans ?_
  simp only [write_u16_iff, rawContent_true]
  constructor
  · rintro (⟨-, rfl, -, rfl⟩ | ⟨head, content, ⟨hlt, rfl⟩, rfl, rfl⟩)
    · exact ⟨none, by simp, rfl, rfl⟩
    · exact ⟨some content, by simpa using hlt, List.append_nil _, rfl⟩
  · rintro ⟨additional, hlt, rfl, rfl⟩
    cases additional with
    | none => exact Or.inl ⟨trivial, rfl, trivial, rfl⟩
    | some content =>
      exact Or.inr ⟨_, content, ⟨hlt content rfl, rfl⟩, (List.append_nil _).symm, rfl⟩

theorem read_nativeTransfer_iff :
    nativeTransfer.read data = .ok (v, []) ↔
      ∃ p : TransferPayload, data = p.wire ∧ v = p.value := by
  refine Schema.read_struct_eq_ok_iff.trans ?_
  constructor
  · rintro ⟨entries, h, -, rfl⟩
    obtain ⟨u, mid, hmagic, h⟩ := (Schema.readFields_magic_eq_ok_iff rfl).mp h
    obtain ⟨u₁, mid₁, tail₁, htrimmed, h₁, rfl⟩ := (Schema.readFields_value_eq_ok_iff rfl).mp h
    obtain ⟨u₂, mid₂, tail₂, htoken, h₂, rfl⟩ := (Schema.readFields_value_eq_ok_iff rfl).mp h₁
    obtain ⟨u₃, mid₃, tail₃, hrecipient, h₃, rfl⟩ := (Schema.readFields_value_eq_ok_iff rfl).mp h₂
    obtain ⟨u₄, mid₄, tail₄, hchain, h₄, rfl⟩ := (Schema.readFields_value_eq_ok_iff rfl).mp h₃
    obtain ⟨u₅, mid₅, tail₅, hadditional, h₅, rfl⟩ := (Schema.readFields_value_eq_ok_iff rfl).mp h₄
    obtain ⟨rfl, rfl⟩ := Schema.readFields_nil_eq_ok_iff.mp h₅
    -- each step has left a window behind it; the slices are cut off it from the front
    obtain ⟨rfl, -⟩ := Schema.read_magic_eq_ok_iff.mp hmagic
    obtain ⟨decimals, amount, hd, ha, rfl, rfl⟩ := read_trimmedItem_iff.mp htrimmed
    obtain ⟨token, ht, rfl, rfl⟩ := read_address_iff.mp htoken
    obtain ⟨recipient, hr, rfl, rfl⟩ := read_address_iff.mp hrecipient
    obtain ⟨chain, chainName, hc, rfl, hmem, rfl⟩ := read_chainItem_iff.mp hchain
    obtain ⟨additional, hlt, rfl, rfl⟩ := read_tail_iff.mp hadditional
    refine ⟨⟨decimals, amount, token, recipient, chain, chainName, additional, hd, ha, ht, hr, hc,
      hmem, hlt⟩, ?_, rfl⟩
    simp only [TransferPayload.wire, TransferPayload.tail, List.append_assoc]
  · rintro ⟨p, rfl, rfl⟩
    refine ⟨_, ?_, ?_, rfl⟩
    · simp only [TransferPayload.wire, List.append_assoc]
      refine (Schema.readFields_magic_eq_ok_iff rfl).mpr
        ⟨.null, _, Schema.read_magic_eq_ok_iff.mpr ⟨rfl, rfl⟩, ?_⟩
      refine (Schema.readFields_value_eq_ok_iff rfl).mpr ⟨_, _, _, read_trimmedItem_iff.mpr
        ⟨p.decimals, p.amount, p.decimals_length, p.amount_length, rfl, rfl⟩, ?_, rfl⟩
      refine (Schema.readFields_value_eq_ok_iff rfl).mpr
        ⟨_, _, _, read_address_iff.mpr ⟨p.token, p.token_length, rfl, rfl⟩, ?_, rfl⟩
      refine (Schema.readFields_value_eq_ok_iff rfl).mpr
        ⟨_, _, _, read_address_iff.mpr ⟨p.recipient, p.recipient_length, rfl, rfl⟩, ?_, rfl⟩
      refine (Schema.readFields_value_eq_ok_iff rfl).mpr ⟨_, _, _, read_chainItem_iff.mpr
        ⟨p.chain, p.chainName, p.chain_length, rfl, p.chain_mem, rfl⟩, ?_, rfl⟩
      refine (Schema.readFields_value_eq_ok_iff rfl).mpr ⟨_, _, _, read_tail_iff.mpr
        ⟨p.additional, p.additional_lt, rfl, rfl⟩, ?_, rfl⟩
      exact Schema.readFields_nil_eq_ok_iff.mpr ⟨rfl, rfl⟩
    · simp

theorem read_managedTransfer_iff :
    (managerMessage (some nativeTransfer)).read data = .ok (v, rest) ↔
      ∃ m : ManagedTransfer, data = m.wire ++ rest ∧ v = m.value := by
  refine Schema.read_struct_eq_ok_iff.trans ?_
  constructor
  · rintro ⟨entries, h, -, rfl⟩
    obtain ⟨u₁, mid₁, tail₁, hid, h₁, rfl⟩ := (Schema.readFields_value_eq_ok_iff rfl).mp h
    obtain ⟨u₂, mid₂, tail₂, hsender, h₂, rfl⟩ := (Schema.readFields_value_eq_ok_iff rfl).mp h₁
    obtain ⟨u₃, mid₃, tail₃, hpayload, h₃, rfl⟩ := (Schema.readFields_value_eq_ok_iff rfl).mp h₂
    obtain ⟨rfl, rfl⟩ := Schema.readFields_nil_eq_ok_iff.mp h₃
    obtain ⟨id, hi, rfl, rfl⟩ := read_address_iff.mp hid
    obtain ⟨sender, hs, rfl, rfl⟩ := read_address_iff.mp hsender
    obtain ⟨content, hlt, rfl, hr⟩ := read_window_iff.mp hpayload
    obtain ⟨p, rfl, rfl⟩ := read_nativeTransfer_iff.mp hr
    -- the window is as long as what was found in it, so its length is that of the grammar
    rw [p.length_wire] at hlt ⊢
    refine ⟨⟨id, sender, p, hi, hs, hlt⟩, ?_, rfl⟩
    simp only [ManagedTransfer.wire, List.append_assoc]
  · rintro ⟨m, rfl, rfl⟩
    have hlt : m.payload.wire.length < 65536 := by
      rw [m.payload.length_wire]
      exact m.payload_lt
    refine ⟨_, ?_, ?_, rfl⟩
    · simp only [ManagedTransfer.wire, List.append_assoc, ← m.payload.length_wire]
      refine (Schema.readFields_value_eq_ok_iff rfl).mpr
        ⟨_, _, _, read_address_iff.mpr ⟨m.id, m.id_length, rfl, rfl⟩, ?_, rfl⟩
      refine (Schema.readFields_value_eq_ok_iff rfl).mpr
        ⟨_, _, _, read_address_iff.mpr ⟨m.sender, m.sender_length, rfl, rfl⟩, ?_, rfl⟩
      refine (Schema.readFields_value_eq_ok_iff rfl).mpr ⟨_, _, _, read_window_iff.mpr
        ⟨m.payload.wire, hlt, rfl, read_nativeTransfer_iff.mpr ⟨m.payload, rfl, rfl⟩⟩, ?_, rfl⟩
      exact Schema.readFields_nil_eq_ok_iff.mpr ⟨rfl, rfl⟩
    · simp

theorem read_wormholeTransfer_iff :
    wormholeTransfer.read data = .ok (v, rest) ↔
      ∃ t : WrappedTransfer, data = t.wire ++ rest ∧ v = t.value := by
  refine Schema.read_struct_eq_ok_iff.trans ?_
  constructor
  · rintro ⟨entries, h, -, rfl⟩
    obtain ⟨u, mid, hmagic, h⟩ := (Schema.readFields_magic_eq_ok_iff rfl).mp h
    obtain ⟨u₁, mid₁, tail₁, hsource, h₁, rfl⟩ := (Schema.readFields_value_eq_ok_iff rfl).mp h
    obtain ⟨u₂, mid₂, tail₂, hrecipient, h₂, rfl⟩ := (Schema.readFields_value_eq_ok_iff rfl).mp h₁
    obtain ⟨u₃, mid₃, tail₃, hmanaged, h₃, rfl⟩ := (Schema.readFields_value_eq_ok_iff rfl).mp h₂
    obtain ⟨u₄, mid₄, tail₄, hown, h₄, rfl⟩ := (Schema.readFields_value_eq_ok_iff rfl).mp h₃
    obtain ⟨rfl, rfl⟩ := Schema.readFields_nil_eq_ok_iff.mp h₄
    obtain ⟨rfl, -⟩ := Schema.read_magic_eq_ok_iff.mp hmagic
    obtain ⟨source, hs, rfl, rfl⟩ := read_address_iff.mp hsource
    obtain ⟨recipient, hr, rfl, rfl⟩ := read_address_iff.mp hrecipient
    obtain ⟨content, hlt, rfl, hread⟩ := read_window_iff.mp hmanaged
    obtain ⟨own, ho, rfl, rfl⟩ := read_rawWindow_iff.mp hown
    obtain ⟨m, rfl, rfl⟩ := read_managedTransfer_iff.mp hread
    rw [List.append_nil, m.length_wire] at hlt
    rw [List.append_nil, m.length_wire, rawContent_true]
    refine ⟨⟨source, recipient, m, own, hs, hr, hlt, ho⟩, ?_, rfl⟩
    simp only [WrappedTransfer.wire, List.append_assoc]
  · rintro ⟨t, rfl, rfl⟩
    have hlt : t.managed.wire.length < 65536 := by
      rw [t.managed.length_wire]
      exact t.managed_lt
    -- a window is read to its end, so the message of the manager has no rest
    have hread : (managerMessage (some nativeTransfer)).read t.managed.wire =
        .ok (t.managed.value, []) :=
      read_managedTransfer_iff.mpr ⟨t.managed, (List.append_nil _).symm, rfl⟩
    refine ⟨_, ?_, ?_, rfl⟩
    · simp only [WrappedTransfer.wire, List.append_assoc, ← t.managed.length_wire]
      refine (Schema.readFields_magic_eq_ok_iff rfl).mpr
        ⟨.null, _, Schema.read_magic_eq_ok_iff.mpr ⟨rfl, rfl⟩, ?_⟩
      refine (Schema.readFields_value_eq_ok_iff rfl).mpr
        ⟨_, _, _, read_address_iff.mpr ⟨t.source, t.source_length, rfl, rfl⟩, ?_, rfl⟩
      refine (Schema.readFields_value_eq_ok_iff rfl).mpr
        ⟨_, _, _, read_address_iff.mpr ⟨t.recipient, t.recipient_length, rfl, rfl⟩, ?_, rfl⟩
      refine (Schema.readFields_value_eq_ok_iff rfl).mpr
        ⟨_, _, _, read_window_iff.mpr ⟨t.managed.wire, hlt, rfl, hread⟩, ?_, rfl⟩
      refine (Schema.readFields_value_eq_ok_iff rfl).mpr ⟨_, _, _,
        read_rawWindow_iff.mpr ⟨t.own, t.own_lt, rfl, (rawContent_true t.own).symm⟩, ?_, rfl⟩
      exact Schema.readFields_nil_eq_ok_iff.mpr ⟨rfl, rfl⟩
    · simp

/-! ## Accepted and refused -/

/-- **A byte string is accepted as a transfer exactly when it has the form of one**, to the value of
its slices, and is refused as a violation of the schema in every other case. -/
theorem deserialize_wormholeTransfer (data : Bytes) :
    (∀ v, deserialize wormholeTransfer data = .ok v ↔
      ∃ t : WrappedTransfer, data = t.wire ∧ v = t.value) ∧
    ((∀ t : WrappedTransfer, data ≠ t.wire) →
      ∃ fault, deserialize wormholeTransfer data = .error fault ∧
        fault.kind = .schemaViolation) := by
  have haccept : ∀ v, deserialize wormholeTransfer data = .ok v ↔
      ∃ t : WrappedTransfer, data = t.wire ∧ v = t.value := by
    intro v
    rw [deserialize_eq_ok_iff, read_wormholeTransfer_iff]
    simp only [List.append_nil]
    exact and_iff_right rfl
  refine ⟨haccept, fun hnot => ?_⟩
  cases h : deserialize wormholeTransfer data with
  | ok v =>
    obtain ⟨t, hdata, -⟩ := (haccept v).mp h
    exact absurd hdata (hnot t)
  | error fault =>
    have hguarded := Composed.wormholeTransfer.inherits inherited_guarded
    have hnarrow : wormholeTransfer.Everywhere Schema.HasNarrowTag := by decide
    exact ⟨fault, rfl, refuses_deserialize hguarded hnarrow _ h⟩

/-- A transfer of nothing to Solana, with an explicit empty payload. -/
def zeroTransfer : WrappedTransfer where
  source := List.replicate 32 0
  recipient := List.replicate 32 0
  managed :=
    { id := List.replicate 32 0
      sender := List.replicate 32 0
      payload :=
        { decimals := [0]
          amount := List.replicate 8 0
          token := List.replicate 32 0
          recipient := List.replicate 32 0
          chain := [0, 1]
          chainName := "Solana"
          additional := some []
          decimals_length := rfl
          amount_length := rfl
          token_length := rfl
          recipient_length := rfl
          chain_length := rfl
          chain_mem := by decide
          additional_lt := by simp }
      id_length := rfl
      sender_length := rfl
      payload_lt := by decide }
  own := []
  source_length := rfl
  recipient_length := rfl
  managed_lt := by decide
  own_lt := by decide

/-- The same with one byte where the length of the payload belongs; the other lengths agree. -/
def oneByteTail : Bytes :=
  transceiverMagic ++ List.replicate 64 0 ++ u16 (66 + (79 + 1)) ++
    (List.replicate 64 0 ++ u16 (79 + 1) ++
      (transferMagic ++ List.replicate 73 0 ++ [0, 1] ++ [0])) ++ u16 0

theorem deserialize_oneByteTail :
    deserialize wormholeTransfer zeroTransfer.wire = .ok zeroTransfer.value ∧
    (∀ t : WrappedTransfer, oneByteTail ≠ t.wire) ∧
    ∃ fault, deserialize wormholeTransfer oneByteTail = .error fault ∧
      fault.kind = .schemaViolation := by
  have hrefused : (deserialize wormholeTransfer oneByteTail).isOk = false := by decide +kernel
  have hnot : ∀ t : WrappedTransfer, oneByteTail ≠ t.wire := by
    intro t ht
    have haccepted := ((deserialize_wormholeTransfer oneByteTail).1 t.value).mpr ⟨t, ht, rfl⟩
    rw [haccepted] at hrefused
    cases hrefused
  exact ⟨((deserialize_wormholeTransfer zeroTransfer.wire).1 _).mpr ⟨zeroTransfer, rfl, rfl⟩, hnot,
    (deserialize_wormholeTransfer oneByteTail).2 hnot⟩

end TokenBridge.Message
