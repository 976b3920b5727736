import TokenBridge.Proofs.Layout.Conformance
import TokenBridge.Proofs.Message.Transfer

/-!
# How much a transfer can carry

A transfer carries two payloads of any length, and the one inside it is wrapped three times: in the
window that is its own, in that of the manager's payload, and in that of the manager's message. Each
window has its length in two bytes, so the outermost of them is full first and decides how much the
innermost may hold; but it is the innermost that is written first, and the fault is that of the
first window that is too full.

A **draft** is a value that conforms to the layout of a transfer but for the lengths of its two
payloads: all the other fields are asked for by the layout of the fields before a window
(`transferFields` and the two after it), and a value that conforms altogether is a draft
(`exists_draft_of_conforms`). At each of the three levels a draft **fits** or **overflows**, and
which of the two is a question about one number, `TransferDraft.size`.
-/

namespace TokenBridge.Message

open Layout Layout.Schema

/-! ## Windows -/

/-- A number that two bytes cannot hold, where it should have been written. -/
def overflow (path : List Step) (n : Nat) : Fault := ⟨.building, path, .tooLong n 16⟩

/-- A window: two bytes that say how many bytes the content has, and the content. -/
def IsWindow (data content : Bytes) : Prop :=
  ∃ head : Bytes, head.length = 2 ∧ Bytes.readBigEndian head = content.length ∧
    data = head ++ content

theorem IsWindow.length_eq {data content : Bytes} (h : IsWindow data content) :
    data.length = 2 + content.length := by
  obtain ⟨head, hhead, -, rfl⟩ := h
  rw [List.length_append, hhead]

theorem byteString?_of_isPlainEmpty {v : Value} (h : v.isPlainEmpty = true) :
    v.byteString? = some [] := by
  cases v with
  | bytes data =>
    cases data with
    | nil => rfl
    | cons byte data => cases h
  | buffer data =>
    cases data with
    | nil => rfl
    | cons byte data => cases h
  | _ => cases h

theorem write_u16_of_large {n : Nat} (h : 65536 ≤ n) :
    LengthField.write ⟨2, .big⟩ n = .error (overflow [] n) := by
  refine if_neg ?_
  intro hlt
  have hless : n < 65536 := hlt
  omega

section Windows

variable {s : Schema} {v : Value} {content : Bytes} {omitIfEmpty : Bool}

/-- The length of a content is written before it, or it is too large. -/
theorem writeWindow_of_content {f : Value → Except Fault Bytes} (hf : f v = .ok content)
    (hpresent : (omitIfEmpty && v.isPlainEmpty) = false) :
    (content.length < 65536 → ∃ data, writeWindow (some ⟨2, .big⟩) omitIfEmpty f v = .ok data ∧
      IsWindow data content) ∧
    (65536 ≤ content.length →
      writeWindow (some ⟨2, .big⟩) omitIfEmpty f v = .error (overflow [] content.length)) := by
  have hwrite : writeWindow (some ⟨2, .big⟩) omitIfEmpty f v = (do
      let head ← LengthField.write ⟨2, .big⟩ content.length
      .ok (head ++ content)) := by
    unfold writeWindow
    dsimp only
    rw [hpresent, hf]
    rfl
  rw [hwrite]
  constructor
  · intro h
    rw [write_u16_iff.mpr ⟨h, rfl⟩]
    exact ⟨_, rfl, _, length_u16 _, Bytes.readBigEndian_bigEndian h, rfl⟩
  · intro h
    rw [write_u16_of_large h]
    rfl

theorem write_window_of_content (hs : s.write v = .ok content) :
    (content.length < 65536 → ∃ data, (window (some s) false).write v = .ok data ∧
      IsWindow data content) ∧
    (65536 ≤ content.length →
      (window (some s) false).write v = .error (overflow [] content.length)) := by
  have hwithin : within .value (s.write v) = .ok content := by rw [hs]; rfl
  exact writeWindow_of_content (f := fun u => within .value (s.write u)) hwithin rfl

theorem write_rawWindow_of_content (omitIfEmpty : Bool) (hv : v.byteString? = some content)
    (hpresent : (omitIfEmpty && v.isPlainEmpty) = false) :
    (content.length < 65536 → ∃ data, (window none omitIfEmpty).write v = .ok data ∧
      IsWindow data content) ∧
    (65536 ≤ content.length →
      (window none omitIfEmpty).write v = .error (overflow [] content.length)) :=
  writeWindow_of_content (requireBytes_eq_ok_iff.mpr hv) hpresent

theorem write_window_of_overflow {path : List Step} {n : Nat}
    (hw : s.write v = .error (overflow path n)) :
    (window (some s) false).write v = .error (overflow (.value :: path) n) := by
  rw [window, write, writeWindow, hw]
  rfl

end Windows

/-! ## Drafts -/

/-- The fields of a transfer before its additional payload. -/
def transferFields : List (String × Schema) :=
  [("prefix", .magic transferMagic), ("trimmed_amount", trimmedItem), ("source_token", address),
    ("recipient_address", address), ("recipient_chain", chainItem)]

/-- The fields of a manager's message before what it carries. -/
def managerFields : List (String × Schema) := [("id", address), ("sender", address)]

/-- The fields of a transceiver's message before the manager's. -/
def wrapperFields : List (String × Schema) :=
  [("prefix", .magic transceiverMagic), ("source_ntt_manager", address),
    ("recipient_ntt_manager", address)]

/-- What a value holds under a name, if it is a mapping. -/
def held? (v : Value) (name : String) : Option Value :=
  v.entries?.bind fun entries => entries.lookup name

theorem held?_of_entries {v : Value} {entries : List (String × Value)} (h : v.entries? = some entries)
    (name : String) : held? v name = entries.lookup name := by
  rw [held?, h]
  rfl

/-- A transfer to be written, with an additional payload of any length. -/
structure TransferDraft where
  value : Value
  additional : Value
  extra : Bytes
  fields_conform : ∃ n, (Schema.struct transferFields).Conforms value n
  additional_held : held? value "additional_payload" = some additional
  extra_eq : additional.byteString? = some extra

/-- The message of a manager around it. -/
structure ManagedDraft where
  value : Value
  payload : TransferDraft
  fields_conform : ∃ n, (Schema.struct managerFields).Conforms value n
  payload_held : held? value "payload" = some payload.value

/-- The message of a transceiver around that, with a payload of its own of any length. -/
structure WrappedDraft where
  value : Value
  managed : ManagedDraft
  transceiver : Value
  own : Bytes
  fields_conform : ∃ n, (Schema.struct wrapperFields).Conforms value n
  managed_held : held? value "ntt_manager_payload" = some managed.value
  transceiver_held : held? value "transceiver_payload" = some transceiver
  own_eq : transceiver.byteString? = some own

theorem conforms_append {before : List (String × Schema)} {name : String} {s : Schema} {v : Value}
    {n : Nat} (hm : s.isMagic = false) (h : (Schema.struct (before ++ [(name, s)])).Conforms v n) :
    (∃ k, (Schema.struct before).Conforms v k) ∧
      ∃ held, held? v name = some held ∧ ∃ k, s.Conforms held k := by
  cases h with
  | struct hv hheld hsize =>
    have hlast : (name, s) ∈ before ++ [(name, s)] := by simp
    refine ⟨⟨_, .struct hv (fun field hf => hheld field (List.mem_append_left _ hf))
      fun field hf => hsize field (List.mem_append_left _ hf)⟩, _, ?_, _, hsize _ hlast⟩
    rw [held?_of_entries hv]
    exact hheld _ hlast hm

theorem conforms_window {s : Schema} {v : Value} {n : Nat}
    (h : (window (some s) false).Conforms v n) : ∃ k, s.Conforms v k := by
  cases h with
  | embedded _ hs _ => exact ⟨_, hs⟩

theorem conforms_rawWindow {v : Value} {n : Nat} {omitIfEmpty : Bool}
    (h : (window none omitIfEmpty).Conforms v n) : ∃ content, v.byteString? = some content := by
  cases h with
  | absent hv => exact ⟨[], byteString?_of_isPlainEmpty hv⟩
  | raw _ hv _ => exact ⟨_, hv⟩

/-- What conforms to the layout of a transfer is a draft. -/
theorem exists_draft_of_conforms {v : Value} {n : Nat} (h : wormholeTransfer.Conforms v n) :
    ∃ t : WrappedDraft, v = t.value := by
  -- the fields are taken off from the last to the first
  have houter : (Schema.struct ((wrapperFields ++
      [("ntt_manager_payload", window (some (managerMessage (some nativeTransfer))) false)]) ++
      [("transceiver_payload", window none false)])).Conforms v n := h
  obtain ⟨⟨k, hk⟩, transceiver, htransceiver, m, hraw⟩ := conforms_append rfl houter
  obtain ⟨hwrapper, managed, hmanaged, j, hj⟩ := conforms_append rfl hk
  obtain ⟨own, hown⟩ := conforms_rawWindow hraw
  obtain ⟨i, hi⟩ := conforms_window hj
  have hmiddle : (Schema.struct (managerFields ++
      [("payload", window (some nativeTransfer) false)])).Conforms managed i := hi
  obtain ⟨hmanager, payload, hpayload, q, hq⟩ := conforms_append rfl hmiddle
  obtain ⟨p, hp⟩ := conforms_window hq
  have hinner : (Schema.struct (transferFields ++
      [("additional_payload", window none true)])).Conforms payload p := hp
  obtain ⟨htransfer, additional, hadditional, r, hr⟩ := conforms_append rfl hinner
  obtain ⟨extra, hextra⟩ := conforms_rawWindow hr
  exact ⟨⟨v, ⟨managed, ⟨payload, additional, extra, htransfer, hadditional, hextra⟩, hmanager,
    hpayload⟩, transceiver, own, hwrapper, hmanaged, htransceiver, hown⟩, rfl⟩

/-! ## What fits and what overflows -/

/-- The fields that conform are written, and then those after them. -/
theorem write_front (fields after : List (String × Schema)) (size : Nat)
    {v : Value} (h : ∃ n, (Schema.struct fields).Conforms v n)
    (hsize : (Schema.struct fields).staticSize? = some (size : Int))
    (hp : (Schema.struct fields).Everywhere IsProper)
    (hkeys : ∀ name ∈ valueNames after, ∃ held, held? v name = some held) :
    ∃ (entries : List (String × Value)) (front : Bytes), v.entries? = some entries ∧
      front.length = size ∧ (Schema.struct (fields ++ after)).write v = (do
        let tail ← writeFields after entries
        .ok (front ++ tail)) := by
  obtain ⟨n, hn⟩ := h
  obtain rfl : n = size := Int.ofNat.inj (hn.size_eq hsize)
  obtain ⟨front, hfront, hlength⟩ := write_of_conforms hn hp
  obtain ⟨entries, hv, -⟩ := write_struct_eq_ok_iff.mp hfront
  refine ⟨entries, front, hv, hlength, write_struct_append hv hfront fun name hname => ?_⟩
  rw [mem_keys_iff_lookup, ← held?_of_entries hv]
  exact hkeys name hname

/-- The same where there is one field after them. -/
theorem write_last (fields : List (String × Schema)) (name : String) (s : Schema) (size : Nat)
    {v held : Value} (h : ∃ n, (Schema.struct fields).Conforms v n)
    (hsize : (Schema.struct fields).staticSize? = some (size : Int))
    (hp : (Schema.struct fields).Everywhere IsProper) (hm : s.isMagic = false) (hname : name ≠ "")
    (hheld : held? v name = some held) :
    ∃ front : Bytes, front.length = size ∧
      (Schema.struct (fields ++ [(name, s)])).write v = (do
        let last ← within (.field name) (s.write held)
        .ok (front ++ last)) := by
  have hkeys : ∀ other ∈ valueNames [(name, s)], ∃ held, held? v other = some held := by
    intro other ho
    obtain ⟨field, hf, rfl⟩ := List.mem_map.mp ho
    obtain rfl := List.mem_singleton.mp (List.mem_filter.mp hf).1
    exact ⟨held, hheld⟩
  obtain ⟨entries, front, hv, hfront, hwrite⟩ :=
    write_front fields [(name, s)] size h hsize hp hkeys
  rw [held?_of_entries hv] at hheld
  refine ⟨front, hfront, ?_⟩
  rw [hwrite, writeFields_held hm hname hheld]
  cases within (.field name) (s.write held) with
  | error fault => rfl
  | ok last => exact congrArg (fun tail => Except.ok (front ++ tail)) (List.append_nil last)

namespace TransferDraft

/-- The number of bytes of a transfer: without its additional payload, the length is left out too. -/
def size (p : TransferDraft) : Nat :=
  if p.additional.isPlainEmpty then 79 else 81 + p.extra.length

/-- The bytes are the fields of the transfer and the window of the additional payload. -/
def Frames (p : TransferDraft) (data : Bytes) : Prop :=
  ∃ core tail : Bytes, core.length = 79 ∧ data = core ++ tail ∧
    if p.additional.isPlainEmpty then tail = [] else IsWindow tail p.extra

theorem Frames.length_eq {p : TransferDraft} {data : Bytes} (h : p.Frames data) :
    data.length = p.size := by
  obtain ⟨core, tail, hcore, rfl, htail⟩ := h
  rw [size, List.length_append, hcore]
  split at htail
  · rename_i hplain
    rw [if_pos hplain, htail]
    rfl
  · rename_i hpresent
    rw [if_neg hpresent, htail.length_eq]
    omega

variable (p : TransferDraft)

theorem length_of_plainEmpty (h : p.additional.isPlainEmpty = true) : p.extra.length = 0 := by
  have hextra := p.extra_eq.symm.trans (byteString?_of_isPlainEmpty h)
  rw [Option.some.inj hextra]
  rfl

theorem size_of_pos (h : 0 < p.extra.length) : p.size = 81 + p.extra.length := by
  refine if_neg fun hplain => ?_
  have := p.length_of_plainEmpty hplain
  omega

theorem size_le : p.size ≤ 81 + p.extra.length := by
  unfold size
  split <;> omega

theorem write_eq : ∃ core : Bytes, core.length = 79 ∧
    nativeTransfer.write p.value = (do
      let tail ← within (.field "additional_payload") ((window none true).write p.additional)
      .ok (core ++ tail)) :=
  write_last transferFields "additional_payload" (window none true) 79 p.fields_conform rfl
    (by decide) rfl (by decide) p.additional_held

theorem fits (h : p.extra.length < 65536) :
    ∃ data, nativeTransfer.write p.value = .ok data ∧ p.Frames data := by
  obtain ⟨core, hcore, hwrite⟩ := p.write_eq
  cases hplain : p.additional.isPlainEmpty with
  | true =>
    have htail : (window none true).write p.additional = .ok [] :=
      write_raw_eq_ok_iff.mpr (Or.inl ⟨hplain, rfl⟩)
    refine ⟨core ++ [], ?_, core, [], hcore, rfl, ?_⟩
    · rw [hwrite, htail]
      rfl
    · rw [if_pos hplain]
  | false =>
    have hpresent : (true && p.additional.isPlainEmpty) = false := hplain
    obtain ⟨tail, htail, hwindow⟩ := (write_rawWindow_of_content true p.extra_eq hpresent).1 h
    refine ⟨core ++ tail, ?_, core, tail, hcore, rfl, ?_⟩
    · rw [hwrite, htail]
      rfl
    · rw [if_neg (by simp [hplain])]
      exact hwindow

theorem overflows (h : 65536 ≤ p.extra.length) :
    nativeTransfer.write p.value =
      .error (overflow [.field "additional_payload"] p.extra.length) := by
  obtain ⟨core, -, hwrite⟩ := p.write_eq
  cases hplain : p.additional.isPlainEmpty with
  | true =>
    have := p.length_of_plainEmpty hplain
    omega
  | false =>
    have hpresent : (true && p.additional.isPlainEmpty) = false := hplain
    rw [hwrite, (write_rawWindow_of_content true p.extra_eq hpresent).2 h]
    rfl

end TransferDraft

namespace ManagedDraft

/-- The bytes are the fields of the manager's message and the window of the transfer. -/
def Frames (m : ManagedDraft) (data : Bytes) : Prop :=
  ∃ ids framed content : Bytes, ids.length = 64 ∧ data = ids ++ framed ∧
    IsWindow framed content ∧ m.payload.Frames content

theorem Frames.length_eq {m : ManagedDraft} {data : Bytes} (h : m.Frames data) :
    data.length = 66 + m.payload.size := by
  obtain ⟨ids, framed, content, hids, rfl, hwindow, hcontent⟩ := h
  rw [List.length_append, hids, hwindow.length_eq, hcontent.length_eq]
  omega

variable (m : ManagedDraft)

theorem write_eq : ∃ ids : Bytes, ids.length = 64 ∧
    (managerMessage (some nativeTransfer)).write m.value = (do
      let framed ← within (.field "payload")
        ((window (some nativeTransfer) false).write m.payload.value)
      .ok (ids ++ framed)) :=
  write_last managerFields "payload" (window (some nativeTransfer) false) 64 m.fields_conform rfl
    (by decide) rfl (by decide) m.payload_held

theorem fits (h : m.payload.size < 65536) :
    ∃ data, (managerMessage (some nativeTransfer)).write m.value = .ok data ∧
      m.Frames data := by
  have hextra : m.payload.extra.length < 65536 := by
    rcases Nat.eq_zero_or_pos m.payload.extra.length with hzero | hpos
    · omega
    · have := m.payload.size_of_pos hpos
      omega
  obtain ⟨content, hcontent, hframes⟩ := m.payload.fits hextra
  obtain ⟨ids, hids, hwrite⟩ := m.write_eq
  rw [← hframes.length_eq] at h
  obtain ⟨framed, hframed, hwindow⟩ := (write_window_of_content hcontent).1 h
  refine ⟨ids ++ framed, ?_, ids, framed, content, hids, rfl, hwindow, hframes⟩
  rw [hwrite, hframed]
  rfl

theorem overflows (hextra : m.payload.extra.length < 65536) (h : 65536 ≤ m.payload.size) :
    (managerMessage (some nativeTransfer)).write m.value =
      .error (overflow [.field "payload"] m.payload.size) := by
  obtain ⟨content, hcontent, hframes⟩ := m.payload.fits hextra
  obtain ⟨ids, -, hwrite⟩ := m.write_eq
  rw [← hframes.length_eq] at h ⊢
  rw [hwrite, (write_window_of_content hcontent).2 h]
  rfl

theorem overflows_inside (h : 65536 ≤ m.payload.extra.length) :
    (managerMessage (some nativeTransfer)).write m.value =
      .error (overflow [.field "payload", .value, .field "additional_payload"]
        m.payload.extra.length) := by
  obtain ⟨ids, -, hwrite⟩ := m.write_eq
  rw [hwrite, write_window_of_overflow (m.payload.overflows h)]
  rfl

end ManagedDraft

namespace WrappedDraft

/-- The bytes are the fields of the transceiver's message, the window of the manager's, and the
window of the transceiver's own payload. -/
def Frames (t : WrappedDraft) (data : Bytes) : Prop :=
  ∃ front framed content tail : Bytes, front.length = 68 ∧ data = front ++ (framed ++ tail) ∧
    IsWindow framed content ∧ t.managed.Frames content ∧ IsWindow tail t.own

variable (t : WrappedDraft)

theorem write_eq : ∃ front : Bytes, front.length = 68 ∧
    wormholeTransfer.write t.value = (do
      let framed ← within (.field "ntt_manager_payload")
        ((window (some (managerMessage (some nativeTransfer))) false).write
          t.managed.value)
      let tail ← within (.field "transceiver_payload") ((window none false).write t.transceiver)
      .ok (front ++ (framed ++ tail))) := by
  have hkeys : ∀ name ∈ ["ntt_manager_payload", "transceiver_payload"],
      ∃ held, held? t.value name = some held := by
    simp [t.managed_held, t.transceiver_held]
  obtain ⟨entries, front, hv, hfront, hwrite⟩ := write_front wrapperFields
    [("ntt_manager_payload", window (some (managerMessage (some nativeTransfer))) false),
      ("transceiver_payload", window none false)] 68 t.fields_conform rfl (by decide) hkeys
  have hmanaged := t.managed_held
  have htransceiver := t.transceiver_held
  rw [held?_of_entries hv] at hmanaged htransceiver
  refine ⟨front, hfront, hwrite.trans ?_⟩
  rw [writeFields_held rfl (by decide) hmanaged, writeFields_held rfl (by decide) htransceiver]
  cases within (.field "ntt_manager_payload")
      ((window (some (managerMessage (some nativeTransfer))) false).write
        t.managed.value) with
  | error fault => rfl
  | ok framed =>
    cases within (.field "transceiver_payload") ((window none false).write t.transceiver) with
    | error fault => rfl
    | ok tail =>
      exact congrArg (fun tail => Except.ok (front ++ (framed ++ tail))) (List.append_nil tail)

/-- Whatever the manager's message overflows with is the fault, and the transceiver's own payload is
not looked at. -/
theorem overflows_before {path : List Step} {n : Nat}
    (h : (window (some (managerMessage (some nativeTransfer))) false).write
      t.managed.value = .error (overflow path n)) :
    wormholeTransfer.write t.value =
      .error (overflow (.field "ntt_manager_payload" :: path) n) := by
  obtain ⟨front, -, hwrite⟩ := t.write_eq
  rw [hwrite, h]
  rfl

theorem fits (hextra : t.managed.payload.extra.length ≤ 65388) (hown : t.own.length ≤ 65535) :
    ∃ data, wormholeTransfer.write t.value = .ok data ∧ t.Frames data := by
  have hsize := t.managed.payload.size_le
  obtain ⟨content, hcontent, hframes⟩ := t.managed.fits (by omega)
  have hlength := hframes.length_eq
  obtain ⟨front, hfront, hwrite⟩ := t.write_eq
  obtain ⟨framed, hframed, hwindow⟩ := (write_window_of_content hcontent).1 (by omega)
  obtain ⟨tail, htail, htransceiver⟩ :=
    (write_rawWindow_of_content false t.own_eq rfl).1 (Nat.lt_succ_of_le hown)
  refine ⟨front ++ (framed ++ tail), ?_, front, framed, content, tail, hfront, rfl, hwindow, hframes,
    htransceiver⟩
  rw [hwrite, hframed, htail]
  rfl

theorem overflows_own (hextra : t.managed.payload.extra.length ≤ 65388)
    (hown : 65536 ≤ t.own.length) :
    wormholeTransfer.write t.value =
      .error (overflow [.field "transceiver_payload"] t.own.length) := by
  have hsize := t.managed.payload.size_le
  obtain ⟨content, hcontent, hframes⟩ := t.managed.fits (by omega)
  have hlength := hframes.length_eq
  obtain ⟨front, -, hwrite⟩ := t.write_eq
  obtain ⟨framed, hframed, -⟩ := (write_window_of_content hcontent).1 (by omega)
  rw [hwrite, hframed, (write_rawWindow_of_content false t.own_eq rfl).2 hown]
  rfl

theorem overflows_managed (h : 65389 ≤ t.managed.payload.extra.length)
    (h' : t.managed.payload.extra.length ≤ 65454) :
    wormholeTransfer.write t.value = .error (overflow
      [.field "ntt_manager_payload"] (t.managed.payload.extra.length + 147)) := by
  have hsize := t.managed.payload.size_of_pos (by omega)
  obtain ⟨content, hcontent, hframes⟩ := t.managed.fits (by omega)
  have hlength : content.length = t.managed.payload.extra.length + 147 := by
    rw [hframes.length_eq, hsize]
    omega
  rw [t.overflows_before ((write_window_of_content hcontent).2 (by omega)), hlength]

theorem overflows_payload (h : 65455 ≤ t.managed.payload.extra.length)
    (h' : t.managed.payload.extra.length ≤ 65535) :
    wormholeTransfer.write t.value = .error (overflow
      [.field "ntt_manager_payload", .value, .field "payload"]
      (t.managed.payload.extra.length + 81)) := by
  have hsize := t.managed.payload.size_of_pos (by omega)
  have hmanaged := t.managed.overflows (by omega) (by omega)
  rw [t.overflows_before (write_window_of_overflow hmanaged), hsize, Nat.add_comm]

theorem overflows_additional (h : 65536 ≤ t.managed.payload.extra.length) :
    wormholeTransfer.write t.value = .error (overflow
      [.field "ntt_manager_payload", .value, .field "payload", .value, .field "additional_payload"]
      t.managed.payload.extra.length) :=
  t.overflows_before (write_window_of_overflow (t.managed.overflows_inside h))

/-- What does not fit overflows somewhere. -/
theorem fits_or_overflows :
    (t.managed.payload.extra.length ≤ 65388 ∧ t.own.length ≤ 65535) ∨
      ∃ path n, wormholeTransfer.write t.value = .error (overflow path n) := by
  by_cases hextra : t.managed.payload.extra.length ≤ 65388
  · by_cases hown : t.own.length ≤ 65535
    · exact Or.inl ⟨hextra, hown⟩
    · exact Or.inr ⟨_, _, t.overflows_own hextra (Nat.lt_of_not_le hown)⟩
  · right
    by_cases hmanaged : t.managed.payload.extra.length ≤ 65454
    · exact ⟨_, _, t.overflows_managed (Nat.lt_of_not_le hextra) hmanaged⟩
    · by_cases hpayload : t.managed.payload.extra.length ≤ 65535
      · exact ⟨_, _, t.overflows_payload (Nat.lt_of_not_le hmanaged) hpayload⟩
      · exact ⟨_, _, t.overflows_additional (Nat.lt_of_not_le hpayload)⟩

end WrappedDraft

/-! ## Capacity -/

/-- **A transfer is written exactly when its two payloads fit**: up to 65388 bytes in the innermost
window, and as many as two bytes can count in the transceiver's own. What is written has the number
of bytes of each window in front of it. The fault of any other is that of the innermost window that
is too full, and of the transceiver's own only if there is none. -/
theorem encode_capacity (t : WrappedDraft) :
    let additional := t.managed.payload.additional
    let k := t.managed.payload.extra.length
    let outcome := encode wormholeTransfer t.value
    ((∃ data, outcome = .ok data) ↔
      (additional.isPlainEmpty = true ∨ k ≤ 65388) ∧ t.own.length ≤ 65535) ∧
    (∀ data, outcome = .ok data → t.Frames data) ∧
    ((∀ data, outcome ≠ .ok data) →
      ∃ fault, outcome = .error fault ∧ fault.kind = .valueOutOfRange) ∧
    (65536 ≤ k → outcome = .error (overflow
      [.field "ntt_manager_payload", .value, .field "payload", .value, .field "additional_payload"]
      k)) ∧
    (65455 ≤ k → k ≤ 65535 → outcome = .error (overflow
      [.field "ntt_manager_payload", .value, .field "payload"] (k + 81))) ∧
    (65389 ≤ k → k ≤ 65454 → outcome = .error (overflow
      [.field "ntt_manager_payload"] (k + 147))) ∧
    (k ≤ 65388 → 65536 ≤ t.own.length → outcome = .error (overflow
      [.field "transceiver_payload"] t.own.length)) := by
  intro additional k outcome
  refine ⟨⟨?_, ?_⟩, ?_, ?_, t.overflows_additional, t.overflows_payload, t.overflows_managed,
    t.overflows_own⟩
  · intro h
    obtain ⟨data, hdata⟩ := h
    obtain ⟨hextra, hown⟩ | ⟨path, n, hfault⟩ := t.fits_or_overflows
    · exact ⟨Or.inr hextra, hown⟩
    · cases hdata.symm.trans hfault
  · intro h
    obtain ⟨hextra, hown⟩ := h
    have hk : k ≤ 65388 := by
      rcases hextra with hplain | hk
      · have hzero : k = 0 := t.managed.payload.length_of_plainEmpty hplain
        omega
      · exact hk
    obtain ⟨data, hdata, -⟩ := t.fits hk hown
    exact ⟨data, hdata⟩
  · intro data hdata
    obtain ⟨hextra, hown⟩ | ⟨path, n, hfault⟩ := t.fits_or_overflows
    · obtain ⟨written, hwritten, hframes⟩ := t.fits hextra hown
      obtain rfl := Except.ok.inj (hdata.symm.trans hwritten)
      exact hframes
    · cases hdata.symm.trans hfault
  · intro h
    obtain ⟨hextra, hown⟩ | ⟨path, n, hfault⟩ := t.fits_or_overflows
    · obtain ⟨data, hdata, -⟩ := t.fits hextra hown
      exact absurd hdata (h data)
    · exact ⟨_, hfault, rfl⟩

/-- A transfer of nothing to Solana, with payloads of so many bytes. -/
def bulkTransfer (k n : Nat) : WrappedDraft :=
  let word : Value := .bytes (List.replicate 32 0)
  let extra : Bytes := List.replicate k 0
  let own : Bytes := List.replicate n 0
  let transfer : List (String × Value) :=
    [("trimmed_amount", .trimmed (.int 0) (.int 0)), ("source_token", word),
      ("recipient_address", word), ("recipient_chain", .text "Solana"),
      ("additional_payload", .bytes extra)]
  let managed : List (String × Value) :=
    [("id", word), ("sender", word), ("payload", .map transfer)]
  { value := .map
      [("source_ntt_manager", word), ("recipient_ntt_manager", word),
        ("ntt_manager_payload", .map managed), ("transceiver_payload", .bytes own)]
    managed :=
      { value := .map managed
        payload :=
          { value := .map transfer
            additional := .bytes extra
            extra
            fields_conform := ⟨_, conforms_of_write (by decide) rfl⟩
            additional_held := rfl
            extra_eq := rfl }
        fields_conform := ⟨_, conforms_of_write (by decide) rfl⟩
        payload_held := rfl }
    transceiver := .bytes own
    own
    fields_conform := ⟨_, conforms_of_write (by decide) rfl⟩
    managed_held := rfl
    transceiver_held := rfl
    own_eq := rfl }

/-- One byte more in the innermost window is too much for the outermost, whatever the transceiver
adds; the windows further in overflow later. -/
theorem encode_capacity_limits :
    (∃ data, encode wormholeTransfer (bulkTransfer 65388 65535).value = .ok data ∧
      (bulkTransfer 65388 65535).Frames data) ∧
    encode wormholeTransfer (bulkTransfer 65389 65536).value =
      .error (overflow [.field "ntt_manager_payload"] 65536) ∧
    encode wormholeTransfer (bulkTransfer 65455 65536).value =
      .error (overflow [.field "ntt_manager_payload", .value, .field "payload"] 65536) ∧
    encode wormholeTransfer (bulkTransfer 65536 65536).value =
      .error (overflow [.field "ntt_manager_payload", .value, .field "payload", .value,
        .field "additional_payload"] 65536) ∧
    encode wormholeTransfer (bulkTransfer 0 65536).value =
      .error (overflow [.field "transceiver_payload"] 65536) := by
  have hextra : ∀ k n, (bulkTransfer k n).managed.payload.extra.length = k :=
    fun k n => List.length_replicate
  have hown : ∀ k n, (bulkTransfer k n).own.length = n := fun k n => List.length_replicate
  obtain ⟨hfits, hframes, -⟩ := encode_capacity (bulkTransfer 65388 65535)
  obtain ⟨-, -, -, -, -, hmanaged, -⟩ := encode_capacity (bulkTransfer 65389 65536)
  obtain ⟨-, -, -, -, hpayload, -⟩ := encode_capacity (bulkTransfer 65455 65536)
  obtain ⟨-, -, -, hinnermost, -⟩ := encode_capacity (bulkTransfer 65536 65536)
  obtain ⟨-, -, -, -, -, -, htransceiver⟩ := encode_capacity (bulkTransfer 0 65536)
  simp only [hextra, hown] at hfits hmanaged hpayload hinnermost htransceiver
  obtain ⟨data, hdata⟩ := hfits.mpr (by decide)
  exact ⟨⟨data, hdata, hframes data hdata⟩, hmanaged (by decide) (by decide),
    hpayload (by decide) (by decide), hinnermost (by decide), htransceiver (by decide) (by decide)⟩

end TokenBridge.Message
