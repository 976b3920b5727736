import TokenBridge.Message.Family
import TokenBridge.Proofs.Layout.Refusal

/-!
# Families and their layouts

A family is told by four bytes, and the layouts of its messages open with the same four bytes. The
classification has its own table of them, so that the two agree is a theorem and not a definition:
**what a layout of a family reads or writes is classified as of that family** (`classify_agrees`).

Nothing behind the opening takes part in this. A struct that opens with magic bytes reads only what
starts with them, writes nothing else, and violates the schema otherwise, whatever its other fields
are.
-/

namespace TokenBridge.Message

open Layout

/-! ## Structs that open with magic bytes -/

section Opening

variable {name : String} {magic data : Bytes} {fields : List (String × Schema)} {v : Value}

theorem isPrefix_of_decode {n : Nat}
    (h : decode (.struct ((name, .magic magic) :: fields)) data = .ok (v, n)) : magic <+: data := by
  obtain ⟨-, rest, hread, -⟩ := decode_eq_ok_iff.mp h
  obtain ⟨entries, hfields, -, -⟩ := Schema.read_struct_eq_ok_iff.mp hread
  obtain ⟨u, mid, hmagic, -⟩ := (Schema.readFields_magic_eq_ok_iff rfl).mp hfields
  obtain ⟨rfl, -⟩ := Schema.read_magic_eq_ok_iff.mp hmagic
  exact List.prefix_append magic mid

theorem isPrefix_of_encode
    (h : encode (.struct ((name, .magic magic) :: fields)) v = .ok data) : magic <+: data := by
  obtain ⟨-, hwrite⟩ := encode_eq_ok_iff.mp h
  obtain ⟨entries, -, -, hfields⟩ := Schema.write_struct_eq_ok_iff.mp hwrite
  obtain ⟨head, tail, hmagic, -, rfl⟩ := (Schema.writeFields_magic_eq_ok_iff rfl).mp hfields
  obtain rfl := Schema.write_magic_eq_ok_iff.mp hmagic
  exact List.prefix_append _ tail

/-- What starts otherwise is refused at the opening, before any other field. -/
theorem refused_of_not_isPrefix (h : ¬ magic <+: data) :
    ∃ fault, decode (.struct ((name, .magic magic) :: fields)) data = .error fault ∧
      fault.kind = .schemaViolation := by
  cases hdefect : (Schema.struct ((name, .magic magic) :: fields)).defect? with
  | some cause =>
    refine ⟨⟨.parsing, [], cause⟩, ?_, Schema.kind_of_defect? cause hdefect⟩
    simp only [decode, hdefect]
    rfl
  | none =>
    cases hmagic : (Schema.magic magic).read data with
    | ok answer =>
      obtain ⟨rfl, -⟩ := Schema.read_magic_eq_ok_iff.mp hmagic
      exact absurd (List.prefix_append _ _) h
    | error fault =>
      have hguarded : (Schema.magic magic).Guarded := trivial
      have hnarrow : (Schema.magic magic).Everywhere Schema.HasNarrowTag :=
        List.forall_mem_singleton.mpr trivial
      refine ⟨fault, (decode_eq_error_iff hdefect).mpr ?_,
        Schema.refuses_read hguarded hnarrow _ _ hmagic⟩
      simp only [Schema.read, Schema.readFields, Schema.isMagic, if_true] at hmagic ⊢
      rw [hmagic]
      rfl

end Opening

/-! ## Families -/

/-- The layouts of the messages of a family. The wrapper of a transfer has as many as there are
layouts for what it embeds. -/
inductive Family.HasLayout : Family → Schema → Prop
  | wormholeTransfer (managerPayload transceiverPayload : Option Schema) :
      HasLayout .wormholeTransfer
        (transceiverMessage transceiverMagic managerPayload transceiverPayload)
  | transceiverInfo : HasLayout .transceiverInfo Message.transceiverInfo
  | transceiverRegistration :
      HasLayout .transceiverRegistration Message.transceiverRegistration

variable {family : Family} {s : Schema} {data : Bytes} {v : Value}

theorem Family.HasLayout.opening (h : family.HasLayout s) :
    ∃ fields, s = .struct (("prefix", .magic family.magic) :: fields) := by
  cases h <;> exact ⟨_, rfl⟩

theorem Family.length_magic (family : Family) : family.magic.length = 4 := by
  cases family <;> rfl

theorem classify_eq_some_iff : classify data = some family ↔ family.magic <+: data := by
  rw [List.prefix_iff_eq_take, family.length_magic]
  constructor
  · intro h
    have hfound := List.find?_some (p := fun f : Family => f.magic == data.take 4) h
    exact eq_of_beq hfound
  · intro h
    -- no two families have the same magic bytes
    rw [classify, ← h]
    cases family <;> decide

theorem classify_eq_none_of_length (h : data.length < 4) : classify data = none := by
  cases hclassify : classify data with
  | none => rfl
  | some family =>
    have hle := (classify_eq_some_iff.mp hclassify).length_le
    rw [family.length_magic] at hle
    omega

theorem Family.HasLayout.classify_of_decode {n : Nat} (hs : family.HasLayout s)
    (h : decode s data = .ok (v, n)) : classify data = some family := by
  obtain ⟨fields, rfl⟩ := hs.opening
  exact classify_eq_some_iff.mpr (isPrefix_of_decode h)

/-- **The classification agrees with the layouts.** What a layout of a family reads, at the start of
a byte string or as a whole, and what it writes, is classified as of that family; so no byte string
is accepted by the layouts of two families, and a byte string of another family or of none, such as
every one that is too short, violates each layout of the family. -/
theorem classify_agrees :
    (∀ managerPayload, Family.wormholeTransfer.HasLayout (wormholeMessage managerPayload)) ∧
    (∀ {family : Family} {s : Schema} {data : Bytes} {v : Value} {n : Nat},
      family.HasLayout s → decode s data = .ok (v, n) → classify data = some family) ∧
    (∀ {family : Family} {s : Schema} {v : Value} {data : Bytes},
      family.HasLayout s → encode s v = .ok data → classify data = some family) ∧
    (∀ {family other : Family} {s t : Schema} {data : Bytes} {v w : Value} {n m : Nat},
      family.HasLayout s → other.HasLayout t → decode s data = .ok (v, n) →
      decode t data = .ok (w, m) → family = other) ∧
    (∀ {family : Family} {s : Schema} {data : Bytes},
      family.HasLayout s → classify data ≠ some family →
      ∃ fault, decode s data = .error fault ∧ deserialize s data = .error fault ∧
        fault.kind = .schemaViolation) ∧
    (∀ {data : Bytes}, data.length < 4 → classify data = none) := by
  refine ⟨fun managerPayload => .wormholeTransfer managerPayload none,
    Family.HasLayout.classify_of_decode, ?_, ?_, ?_, classify_eq_none_of_length⟩
  · intro family s v data hs h
    obtain ⟨fields, rfl⟩ := hs.opening
    exact classify_eq_some_iff.mpr (isPrefix_of_encode h)
  · intro family other s t data v w n m hs ht hv hw
    exact Option.some.inj ((hs.classify_of_decode hv).symm.trans (ht.classify_of_decode hw))
  · intro family s data hs h
    obtain ⟨fields, rfl⟩ := hs.opening
    obtain ⟨fault, hfault, hkind⟩ :=
      refused_of_not_isPrefix (mt classify_eq_some_iff.mpr h)
    refine ⟨fault, hfault, ?_, hkind⟩
    rw [deserialize, hfault]
    rfl

/-- The registration of a transceiver on Solana, as bytes. -/
def registration : Bytes := registrationMagic ++ [0, 1] ++ List.replicate 32 7

/-- A registration is read and written as one, is no announcement, and is nothing at all without its
last magic byte. -/
theorem classify_agrees_registration :
    let v : Value :=
      .map [("chain", .text "Solana"), ("transceiver", .bytes (List.replicate 32 7))]
    let short : Bytes := registration.take 3
    decode transceiverRegistration registration = .ok (v, 38) ∧
    encode transceiverRegistration v = .ok registration ∧
    classify registration = some .transceiverRegistration ∧
    (∀ w m, decode transceiverInfo registration ≠ .ok (w, m)) ∧
    classify short = none ∧
    ∃ fault, deserialize (wormholeMessage none) short = .error fault ∧
      fault.kind = .schemaViolation := by
  intro v short
  obtain ⟨hwormhole, hdecoded, hencoded, hone, hrefused, hshort⟩ := classify_agrees
  have hdecode : decode transceiverRegistration registration = .ok (v, 38) := rfl
  have hencode : encode transceiverRegistration v = .ok registration := rfl
  have hnone : classify short = none := hshort (by decide)
  refine ⟨hdecode, hencode, hencoded .transceiverRegistration hencode, ?_, hnone, ?_⟩
  · intro w m hw
    exact nomatch hone .transceiverInfo .transceiverRegistration hw hdecode
  · obtain ⟨fault, -, hfault, hkind⟩ := hrefused (hwormhole none) (by rw [hnone]; exact nofun)
    exact ⟨fault, hfault, hkind⟩

end TokenBridge.Message
