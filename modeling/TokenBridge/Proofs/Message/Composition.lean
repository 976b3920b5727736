import TokenBridge.Message.Layouts
import TokenBridge.Proofs.Layout.Embedding
import TokenBridge.Proofs.Message.Item

/-!
# Messages from parts

The layouts of messages are built from a few payloads and four wrappers, each of which takes the
layout of what it holds. `Composed` is everything that can be built so, and what the layout theorems
ask of a schema is asked here only of their parts: `Inherited` says that the items have a property
and that structs and windows keep it, and then every composed message has it.

With that the laws of the codec are laws of messages: what is written is read back, what is read is
written back byte for byte, and **a message read in one go is the message read one wrapper at a
time**, with each raw payload replaced by what its layout makes of it.
-/

namespace TokenBridge.Message

open Layout

/-! ## Composed messages -/

/-- The payloads and items that there are, and the wrappers around them or around raw bytes. -/
inductive Composed : Schema → Prop
  | address : Composed address
  | chainItem : Composed chainItem
  | modeItem : Composed modeItem
  | trimmedItem : Composed trimmedItem
  | nativeTransfer : Composed nativeTransfer
  | tokenMeta : Composed tokenMeta
  | tokenId : Composed tokenId
  | tokenInfo : Composed tokenInfo
  | multiTransfer : Composed multiTransfer
  | transceiverInfo : Composed transceiverInfo
  | transceiverRegistration : Composed transceiverRegistration
  | managerMessage {payload : Option Schema} :
      (∀ s ∈ payload, Composed s) → Composed (managerMessage payload)
  | transceiverMessage {magic : Bytes} {managerPayload transceiverPayload : Option Schema} :
      (∀ s ∈ managerPayload, Composed s) → (∀ s ∈ transceiverPayload, Composed s) →
      Composed (transceiverMessage magic managerPayload transceiverPayload)
  | genericMessage {data : Option Schema} :
      (∀ s ∈ data, Composed s) → Composed (genericMessage data)

theorem Composed.wormholeMessage {managerPayload : Option Schema}
    (h : ∀ s ∈ managerPayload, Composed s) : Composed (wormholeMessage managerPayload) :=
  .transceiverMessage h (fun s hs => by cases hs)

theorem Composed.wormholeTransfer : Composed wormholeTransfer := by
  refine .wormholeMessage fun s hs => ?_
  cases hs
  refine .managerMessage fun s hs => ?_
  cases hs
  exact .nativeTransfer

/-- A property of schemas that messages inherit from their parts. -/
structure Inherited (P : Schema → Prop) : Prop where
  byte : P byte
  address : P address
  magic : ∀ data, P (.magic data)
  chainItem : P chainItem
  modeItem : P modeItem
  trimmedItem : P trimmedItem
  rawWindow : ∀ omitIfEmpty, P (window none omitIfEmpty)
  window : ∀ {s : Schema}, P s → P (window (some s) false)
  struct : ∀ {fields : List (String × Schema)}, (Schema.valueNames fields).Nodup →
    (∀ name ∈ Schema.valueNames fields, name ≠ "") → (∀ field ∈ fields, P field.2) →
    P (.struct fields)

theorem Inherited.optional {P : Schema → Prop} (hp : Inherited P) {layout : Option Schema}
    (h : ∀ s ∈ layout, P s) : P (Message.window layout false) := by
  cases layout with
  | none => exact hp.rawWindow false
  | some s => exact hp.window (h s rfl)

/-- **What the parts have, every composed message has.** -/
theorem Composed.inherits {P : Schema → Prop} (hp : Inherited P) {s : Schema} (h : Composed s) :
    P s := by
  have hmeta : P Message.tokenMeta :=
    hp.struct (by decide) (by decide) (by simp [hp.address, hp.byte])
  have hid : P Message.tokenId :=
    hp.struct (by decide) (by decide) (by simp [hp.chainItem, hp.address])
  have hinfo : P Message.tokenInfo :=
    hp.struct (by decide) (by decide) (by simp [hmeta, hid])
  -- by how the message is composed: a wrapper has its own fields and what its payload inherits
  induction h with
  | address => exact hp.address
  | chainItem => exact hp.chainItem
  | modeItem => exact hp.modeItem
  | trimmedItem => exact hp.trimmedItem
  | tokenMeta => exact hmeta
  | tokenId => exact hid
  | tokenInfo => exact hinfo
  | nativeTransfer =>
    refine hp.struct (by decide) (by decide) ?_
    simp [hp.magic, hp.trimmedItem, hp.address, hp.chainItem, hp.rawWindow]
  | multiTransfer =>
    refine hp.struct (by decide) (by decide) ?_
    simp [hp.magic, hp.trimmedItem, hinfo, hp.address]
  | transceiverInfo =>
    refine hp.struct (by decide) (by decide) ?_
    simp [hp.magic, hp.address, hp.modeItem, hp.byte]
  | transceiverRegistration =>
    refine hp.struct (by decide) (by decide) ?_
    simp [hp.magic, hp.chainItem, hp.address]
  | @managerMessage payload _ ih =>
    have hnames : Schema.valueNames [("id", Message.address), ("sender", Message.address),
        ("payload", window payload false)] = ["id", "sender", "payload"] := rfl
    refine hp.struct (by rw [hnames]; decide) (by rw [hnames]; decide) ?_
    simp [hp.address, hp.optional ih]
  | @transceiverMessage magic managerPayload transceiverPayload _ _ ihm iht =>
    have hnames : Schema.valueNames [("prefix", .magic magic),
        ("source_ntt_manager", Message.address), ("recipient_ntt_manager", Message.address),
        ("ntt_manager_payload", window managerPayload false),
        ("transceiver_payload", window transceiverPayload false)] =
        ["source_ntt_manager", "recipient_ntt_manager", "ntt_manager_payload",
          "transceiver_payload"] := rfl
    refine hp.struct (by rw [hnames]; decide) (by rw [hnames]; decide) ?_
    simp [hp.magic, hp.address, hp.optional ihm, hp.optional iht]
  | @genericMessage data _ ih =>
    have hnames : Schema.valueNames [("prefix", .magic genericMagic),
        ("to_chain", Message.chainItem), ("callee", Message.address), ("sender", Message.address),
        ("data", window data false)] = ["to_chain", "callee", "sender", "data"] := rfl
    refine hp.struct (by rw [hnames]; decide) (by rw [hnames]; decide) ?_
    simp [hp.magic, hp.chainItem, hp.address, hp.optional ih]

theorem inherited_canonical : Inherited Schema.Canonical where
  byte := trivial
  address := trivial
  magic _ := trivial
  chainItem := canonical_chainItem
  modeItem := canonical_modeItem
  trimmedItem := canonical_trimmedItem
  rawWindow _ := trivial
  window h := ⟨fun _ => rfl, h⟩
  struct hn _ hf := ⟨hn, Schema.fieldsCanonical_iff.mpr hf⟩

theorem inherited_guarded : Inherited Schema.Guarded where
  byte := trivial
  address := trivial
  magic _ := trivial
  chainItem := guarded_chainItem
  modeItem := guarded_modeItem
  trimmedItem := guarded_trimmedItem
  rawWindow _ := fun _ hf => by cases hf; decide
  window h := ⟨fun _ hf => by cases hf; decide, h⟩
  struct _ hne hf := ⟨hne, Schema.fieldsGuarded_iff.mpr hf⟩

/-! ## Written and read back -/

/-- **A closed schema reads back the normal form of what it writes**, and a self-delimiting one does
so in front of everything. A transform makes the value that was given of what it wrote, and the
transforms of messages are such. -/
theorem decode_encode_normal :
    (∀ {s : Schema} {v : Value} {data : Bytes}, s.Closed → encode s v = .ok data →
      decode s data = .ok (s.normal v, data.length) ∧
        deserialize s data = .ok (s.normal v)) ∧
    (∀ {s : Schema} {v : Value} {data rest : Bytes}, s.SelfDelimiting → encode s v = .ok data →
      decode s (data ++ rest) = .ok (s.normal v, data.length)) ∧
    (∀ {transform : Layout.Transform} {base : Schema} {v : Value} {data : Bytes},
      (Schema.custom transform base).Closed → encode (.custom transform base) v = .ok data →
      ((Schema.custom transform base).normal v).equal v = true) ∧
    (∀ {s : Schema}, s.SelfDelimiting → s.Closed) ∧
    chainItem.SelfDelimiting ∧ modeItem.SelfDelimiting ∧ trimmedItem.SelfDelimiting := by
  refine ⟨?_, ?_, ?_, Schema.closed_of_selfDelimiting, delimited_chainItem, delimited_modeItem,
    delimited_trimmedItem⟩
  · intro s v data hs h
    have hd : decode s (data ++ []) = .ok (s.normal v, data.length) :=
      decode_of_encode hs h (fun _ => rfl)
    rw [List.append_nil] at hd
    exact ⟨hd, deserialize_eq_ok_iff_decode.mpr hd⟩
  · intro s v data rest hs h
    exact decode_of_encode hs h (fun hlast => by cases hlast)
  · intro transform base v data hs h
    exact Schema.equal_normal_custom hs (encode_eq_ok_iff.mp h).2

/-- A mode and a run of chains in a window. -/
def modeThenChains : Schema :=
  window (some (.struct [("mode", modeItem), ("chains", .sequence none chainItem)])) false

theorem selfDelimiting_modeThenChains : modeThenChains.SelfDelimiting := by
  show (false = true → false = true) ∧ (∀ name ∈ ["mode", "chains"], name ≠ "") ∧
    modeItem.Delimited false ∧ (true = true ∧ chainItem.Delimited false ∧ chainItem.Consumes) ∧ True
  exact ⟨id, by decide, delimited_modeItem, ⟨rfl, delimited_chainItem, consumes_chainItem⟩, trivial⟩

/-- A mode given as a truth value comes back as the mode, a tuple as a list, and the run of chains
ends with the window whatever comes after it. -/
theorem decode_encode_modeThenChains :
    let v : Value := .map [("mode", .bool true), ("chains", .tuple [.text "Solana", .text "Sui"])]
    let data : Bytes := [0, 5, 1, 0, 1, 0, 21]
    modeThenChains.normal v =
      .map [("mode", .mode .burning), ("chains", .list [.text "Solana", .text "Sui"])] ∧
    encode modeThenChains v = .ok data ∧
    decode modeThenChains (data ++ [9]) = .ok (modeThenChains.normal v, 7) ∧
    deserialize modeThenChains data = .ok (modeThenChains.normal v) ∧
    encode modeItem (.bool true) = .ok [1] ∧
    (modeItem.normal (.bool true)).equal (.bool true) = true := by
  have hdata : encode modeThenChains
      (.map [("mode", .bool true), ("chains", .tuple [.text "Solana", .text "Sui"])]) =
      .ok [0, 5, 1, 0, 1, 0, 21] := rfl
  have hmode : encode modeItem (.bool true) = .ok [1] := rfl
  obtain ⟨hclosed, hself, hcustom, hlast, -, hitem, -⟩ := decode_encode_normal
  exact ⟨rfl, hdata, hself selfDelimiting_modeThenChains hdata,
    (hclosed (hlast selfDelimiting_modeThenChains) hdata).2, hmode, hcustom (hlast hitem) hmode⟩

/-! ## Read and written back -/

/-- **What is read under a canonical schema is written back byte for byte**, and every composed
message has a canonical schema. -/
theorem encode_decode_take :
    (∀ {s : Schema} {v : Value} {data : Bytes} {n : Nat}, s.Canonical →
      decode s data = .ok (v, n) → n ≤ data.length ∧ encode s v = .ok (data.take n)) ∧
    (∀ {s : Schema} {v : Value} {data : Bytes}, s.Canonical →
      deserialize s data = .ok v → encode s v = .ok data) ∧
    (∀ {s : Schema}, Composed s → s.Canonical) := by
  refine ⟨?_, ?_, Composed.inherits inherited_canonical⟩
  · intro s v data n hs h
    obtain ⟨hn, hr⟩ := decode_take h
    obtain ⟨head, hw, hdata⟩ := Schema.write_of_read hs hr
    obtain rfl : data.take n = head :=
      List.append_cancel_right ((List.take_append_drop n data).trans hdata)
    exact ⟨hn, encode_eq_ok_iff.mpr ⟨(decode_eq_ok_iff.mp h).1, hw⟩⟩
  · intro s v data hs h
    obtain ⟨hadmissible, hr⟩ := deserialize_eq_ok_iff.mp h
    obtain ⟨head, hw, rfl⟩ := Schema.write_of_read hs hr
    rw [List.append_nil]
    exact encode_eq_ok_iff.mpr ⟨hadmissible, hw⟩

/-- A run of chains, and a payload that may be absent. -/
def chainsThenPayload : Schema :=
  .struct [("chains", .sequence none chainItem), ("payload", window none true)]

theorem canonical_chainsThenPayload : chainsThenPayload.Canonical :=
  ⟨by decide, canonical_chainItem, trivial, trivial⟩

/-- No chain has the number zero, so the run gives those two bytes back, and they are the length of
an empty payload. Both are written again. -/
theorem encode_decode_chainsThenPayload :
    let v : Value := .map [("chains", .list [.text "Solana"]), ("payload", .prefixedEmpty)]
    decode chainsThenPayload [0, 1, 0, 0] = .ok (v, 4) ∧
    encode chainsThenPayload v = .ok [0, 1, 0, 0] ∧
    deserialize chainsThenPayload [0, 1, 0, 0] = .ok v ∧
    wormholeTransfer.Canonical := by
  have hdecode : decode chainsThenPayload [0, 1, 0, 0] =
      .ok (.map [("chains", .list [.text "Solana"]), ("payload", .prefixedEmpty)], 4) := rfl
  have hwhole : deserialize chainsThenPayload [0, 1, 0, 0] =
      .ok (.map [("chains", .list [.text "Solana"]), ("payload", .prefixedEmpty)]) := rfl
  obtain ⟨htake, hback, hcomposed⟩ := encode_decode_take
  have hencode := (htake canonical_chainsThenPayload hdecode).2
  have hencode' := hback canonical_chainsThenPayload hwhole
  exact ⟨hdecode, hencode', hwhole, hcomposed Composed.wormholeTransfer⟩

/-! ## In one go and one wrapper at a time -/

theorem wormholeMessage_eq_wrapping (managerPayload : Option Schema) :
    wormholeMessage managerPayload = .struct (Schema.wrapping
      [("prefix", .magic transceiverMagic), ("source_ntt_manager", address),
        ("recipient_ntt_manager", address)]
      "ntt_manager_payload" ⟨2, .big⟩ managerPayload
      [("transceiver_payload", window none false)]) := rfl

theorem managerMessage_eq_wrapping (payload : Option Schema) :
    managerMessage payload = .struct (Schema.wrapping [("id", address), ("sender", address)]
      "payload" ⟨2, .big⟩ payload []) := rfl

theorem deserializeOf_managerMessage_iff {payload : Schema} {managed v : Value} :
    deserializeOf (managerMessage (some payload)) managed = .ok v ↔
      ∃ inner raw u, deserializeOf (managerMessage none) managed = .ok (.map inner) ∧
        inner.lookup "payload" = some raw ∧ deserializeOf payload raw = .ok u ∧
        v = .map (Value.put inner "payload" u) := by
  rw [managerMessage_eq_wrapping, managerMessage_eq_wrapping,
    deserializeOf_wrapping_iff (by decide)]

theorem genericMessage_eq_wrapping (data : Option Schema) :
    genericMessage data = .struct (Schema.wrapping
      [("prefix", .magic genericMagic), ("to_chain", chainItem), ("callee", address),
        ("sender", address)]
      "data" ⟨2, .big⟩ data []) := rfl

/-- **A layout inside a window is the raw window and the layout after it**: the same bytes are
written, or a fault of the same family; and the same value is read. So a message in its wrappers is
read in one go exactly when it is read one wrapper at a time, to the same fields. -/
theorem nested_eq_staged :
    (∀ (length : LengthField) (s : Schema) (v : Value),
      (encode (.bytes (some length) (some s) false) v).mapError Fault.kind =
        (do
          let content ← encode s v
          encode (.bytes (some length) none false) (.bytes content)).mapError Fault.kind) ∧
    (∀ (length : LengthField) (s : Schema) (data : Bytes) (v : Value) (n : Nat),
      decode (.bytes (some length) (some s) false) data = .ok (v, n) ↔
        ∃ raw, decode (.bytes (some length) none false) data = .ok (raw, n) ∧
          deserializeOf s raw = .ok v) ∧
    (∀ (payload : Schema) (data : Bytes) (v : Value) (n : Nat),
      decode (wormholeMessage (some (managerMessage (some payload)))) data = .ok (v, n) ↔
        ∃ outer managed inner raw u,
          decode (wormholeMessage none) data = .ok (.map outer, n) ∧
          outer.lookup "ntt_manager_payload" = some managed ∧
          deserializeOf (managerMessage none) managed = .ok (.map inner) ∧
          inner.lookup "payload" = some raw ∧ deserializeOf payload raw = .ok u ∧
          v = .map (Value.put outer "ntt_manager_payload" (.map (Value.put inner "payload" u)))) ∧
    (∀ (payload : Schema) (data : Bytes) (v : Value) (n : Nat),
      decode (genericMessage (some payload)) data = .ok (v, n) ↔
        ∃ outer raw u,
          decode (genericMessage none) data = .ok (.map outer, n) ∧
          outer.lookup "data" = some raw ∧ deserializeOf payload raw = .ok u ∧
          v = .map (Value.put outer "data" u)) := by
  refine ⟨encode_embedded, fun length s data v n => decode_embedded_iff, ?_, ?_⟩
  · intro payload data v n
    rw [wormholeMessage_eq_wrapping, wormholeMessage_eq_wrapping, decode_wrapping_iff (by decide)]
    constructor
    · rintro ⟨outer, managed, mid, ho, hlook, hm, rfl⟩
      obtain ⟨inner, raw, u, hi, hraw, hu, rfl⟩ := deserializeOf_managerMessage_iff.mp hm
      exact ⟨outer, managed, inner, raw, u, ho, hlook, hi, hraw, hu, rfl⟩
    · rintro ⟨outer, managed, inner, raw, u, ho, hlook, hi, hraw, hu, rfl⟩
      have hm := deserializeOf_managerMessage_iff.mpr ⟨inner, raw, u, hi, hraw, hu, rfl⟩
      exact ⟨outer, managed, _, ho, hlook, hm, rfl⟩
  · intro payload data v n
    rw [genericMessage_eq_wrapping, genericMessage_eq_wrapping, decode_wrapping_iff (by decide)]

end TokenBridge.Message
