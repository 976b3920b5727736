import TokenBridge.Proofs.Layout.Conformance
import TokenBridge.Proofs.Message.Composition

/-!
# What is accepted and what is refused

Two sides of the codec meet values that nobody vouches for. The writer is given a value of any kind,
and **accepts exactly what conforms to the schema** (`encode_iff_conforms`); the reader is given
bytes from outside, and **answers a value or a violation of the schema** (`decode_untrusted`), unless
the message on an unknown tag would have to show a number of too many digits.

Each theorem asks something of every node of its schema. A message is composed of few kinds of node,
so what it is asked for is looked up once for each kind (`inherited_everywhere`).
-/

namespace TokenBridge.Message

open Layout Layout.Schema

/-! ## Nodes of messages -/

section Nodes

variable {P : Schema → Prop}

/-- What every node that messages are built from has, composed messages have everywhere. -/
theorem inherited_everywhere (huint : ∀ word, P (.uint word)) (hfixed : ∀ size, P (.fixed size))
    (hmagic : ∀ data, P (.magic data)) (hchain : P chainItem) (hmode : P modeItem)
    (htrimmed : P trimmedItem) (hwindow : ∀ layout omitIfEmpty, P (window layout omitIfEmpty))
    (hstruct : ∀ fields, (∀ name ∈ valueNames fields, name ≠ "") → P (.struct fields)) :
    Inherited (Everywhere P) := by
  have hnumber : ∀ word, (Schema.uint word).Everywhere P := by
    intro word
    exact List.forall_mem_singleton.mpr (huint word)
  constructor
  case byte => exact hnumber _
  case address => exact List.forall_mem_singleton.mpr (hfixed 32)
  case magic => exact fun data => List.forall_mem_singleton.mpr (hmagic data)
  case chainItem => exact everywhere_custom_iff.mpr ⟨hchain, hnumber _⟩
  case modeItem => exact everywhere_custom_iff.mpr ⟨hmode, hnumber _⟩
  case trimmedItem =>
    refine everywhere_custom_iff.mpr ⟨htrimmed, everywhere_struct_iff.mpr ⟨?_, ?_⟩⟩
    · exact hstruct _ (by decide)
    · simp [uint, hnumber]
  case rawWindow => exact fun omitIfEmpty => List.forall_mem_singleton.mpr (hwindow none omitIfEmpty)
  case window => exact fun hs => everywhere_embedded_iff.mpr ⟨hwindow _ false, hs⟩
  case struct => exact fun _ hne hf => everywhere_struct_iff.mpr ⟨hstruct _ hne, hf⟩

end Nodes

theorem inherited_admissible : Inherited Admissible where
  byte := rfl
  address := rfl
  magic _ := rfl
  chainItem := rfl
  modeItem := rfl
  trimmedItem := rfl
  rawWindow _ := rfl
  window h := h
  struct _ _ hf := admissible_struct_iff.mpr hf

theorem refusesDeclared_chainItem : chainItem.RefusesDeclared := by
  intro v fault h
  replace h : chainToRaw v = .error fault := h
  unfold chainToRaw at h
  split at h
  · split at h
    · cases h
    · cases h
      exact Or.inr rfl
  · cases h
    exact Or.inl rfl

theorem refusesDeclared_modeItem : modeItem.RefusesDeclared := by
  intro v fault h
  replace h : modeToRaw v = .error fault := h
  unfold modeToRaw at h
  split at h
  · cases h
  · cases h
    exact Or.inr rfl

theorem refusesDeclared_trimmedItem : trimmedItem.RefusesDeclared := by
  intro v fault h
  replace h : trimmedToRaw v = .error fault := h
  unfold trimmedToRaw at h
  split at h
  · cases h
  · cases h
    exact Or.inl rfl

theorem inherited_isProper : Inherited (Everywhere IsProper) :=
  inherited_everywhere (fun _ => trivial) (fun _ => trivial) (fun _ => trivial) trivial trivial
    trivial (fun layout omitIfEmpty => show (0 : Int) < 2 by decide) (fun _ hnames => hnames)

theorem inherited_refusesDeclared : Inherited (Everywhere RefusesDeclared) :=
  inherited_everywhere (fun _ => trivial) (fun _ => trivial) (fun _ => trivial)
    refusesDeclared_chainItem refusesDeclared_modeItem refusesDeclared_trimmedItem
    (fun _ _ => trivial) (fun _ _ => trivial)

/-! ## What the writer accepts -/

/-- **A value is written exactly when it conforms to the schema**, to as many bytes as it takes up.
What does not conform is a violation of the schema or a number out of range, wherever in the value
it stands, unless the message would have to show an integer of too many digits. -/
theorem encode_iff_conforms :
    (∀ {s : Schema} {v : Value}, s.Admissible → s.Everywhere IsProper →
      ((∃ data, encode s v = .ok data) ↔ ∃ n, s.Conforms v n)) ∧
    (∀ {s : Schema} {v : Value} {data : Bytes} {n : Nat}, s.Everywhere IsProper →
      s.Conforms v n → encode s v = .ok data → data.length = n) ∧
    (∀ {s : Schema} {v : Value}, s.Admissible → s.Everywhere IsProper →
      s.Everywhere RefusesDeclared → (¬ ∃ n, s.Conforms v n) →
      ∃ fault, encode s v = .error fault ∧ fault.cause.OfWriting) ∧
    (∀ {s : Schema}, Composed s →
      s.Admissible ∧ s.Everywhere IsProper ∧ s.Everywhere RefusesDeclared) := by
  have hencode : ∀ {s : Schema} {v : Value}, s.Admissible → encode s v = s.write v := by
    intro s v hs
    unfold encode
    rw [hs]
  have hiff : ∀ {s : Schema} {v : Value}, s.Admissible → s.Everywhere IsProper →
      ((∃ data, encode s v = .ok data) ↔ ∃ n, s.Conforms v n) := by
    intro s v hs hp
    rw [hencode hs]
    constructor
    · intro h
      obtain ⟨data, hw⟩ := h
      exact ⟨data.length, conforms_of_write hp hw⟩
    · intro h
      obtain ⟨n, hc⟩ := h
      obtain ⟨data, hw, -⟩ := write_of_conforms hc hp
      exact ⟨data, hw⟩
  refine ⟨hiff, ?_, ?_, ?_⟩
  · intro s v data n hp hc h
    obtain ⟨written, hw, hlen⟩ := write_of_conforms hc hp
    rw [(encode_eq_ok_iff.mp h).2] at hw
    cases hw
    exact hlen
  · intro s v hs hp hr hc
    cases h : encode s v with
    | ok data => exact absurd ((hiff hs hp).mp ⟨data, h⟩) hc
    | error fault =>
      rw [hencode hs] at h
      exact ⟨fault, rfl, failsWith_write hp hr v fault h⟩
  · intro s hs
    exact ⟨hs.inherits inherited_admissible, hs.inherits inherited_isProper,
      hs.inherits inherited_refusesDeclared⟩

/-- Routes by kind, then a window of more chains, then a payload that may be absent. -/
def routes : Schema :=
  .struct
    [("kind", .union byte [(1, "none", .nothing), (2, "some", .sequence (some ⟨1, .big⟩) chainItem)]),
      ("rest", window (some (.sequence none chainItem)) false), ("payload", window none true)]

theorem nodes_routes : routes.nodes =
    [routes,
      .union byte [(1, "none", .nothing), (2, "some", .sequence (some ⟨1, .big⟩) chainItem)],
      byte, .nothing, .sequence (some ⟨1, .big⟩) chainItem, chainItem, uint 2,
      window (some (.sequence none chainItem)) false, .sequence none chainItem, chainItem, uint 2,
      window none true] := rfl

theorem refusesDeclared_routes : routes.Everywhere RefusesDeclared := by
  have hchain := refusesDeclared_chainItem
  rw [Everywhere, nodes_routes]
  simp only [List.forall_mem_cons]
  exact ⟨trivial, trivial, trivial, trivial, trivial, hchain, trivial, trivial, trivial, hchain,
    trivial, trivial, List.forall_mem_nil _⟩

/-- The fields of a map may come in any order and among others. A chain that there is none of, deep
inside the value, is a number out of range. -/
theorem encode_routes :
    let chains (names : List Value) : Value := .map
      [("payload", .bytes []), ("kind", .variant "some" (.list names)), ("rest", .tuple []),
        ("note", .null)]
    encode routes (chains [.text "Solana", .text "Sui"]) = .ok [2, 2, 0, 1, 0, 21, 0, 0] ∧
    (∃ n, routes.Conforms (chains [.text "Solana", .text "Sui"]) n ∧ n = 8) ∧
    (¬ ∃ n, routes.Conforms (chains [.text "Solana", .text "Nowhere"]) n) ∧
    (∃ fault, encode routes (chains [.text "Solana", .text "Nowhere"]) = .error fault ∧
      fault.cause.OfWriting) ∧
    wormholeTransfer.Everywhere IsProper := by
  obtain ⟨hiff, hlength, hrefuse, hcomposed⟩ := encode_iff_conforms
  intro chains
  have hadmissible : routes.Admissible := rfl
  have hproper : routes.Everywhere IsProper := by decide
  have hdata : encode routes (chains [.text "Solana", .text "Sui"]) =
      .ok [2, 2, 0, 1, 0, 21, 0, 0] := rfl
  obtain ⟨n, hn⟩ := (hiff hadmissible hproper).mp ⟨_, hdata⟩
  have hbad : ¬ ∃ n, routes.Conforms (chains [.text "Solana", .text "Nowhere"]) n := by
    intro h
    obtain ⟨data, hw⟩ := (hiff hadmissible hproper).mpr h
    cases hw
  exact ⟨hdata, ⟨n, hn, (hlength hproper hn hdata).symm⟩, hbad,
    hrefuse hadmissible hproper refusesDeclared_routes hbad,
    (hcomposed Composed.wormholeTransfer).2.1⟩

/-- Without a length field there is nothing to leave out, so empty bytes are written only where the
layout takes them. An integer of too many digits is out of range, but that cannot be said. -/
theorem encode_emptyWithoutLength :
    let s : Schema := .bytes none (some byte) true
    (s.Admissible ∧ s.Everywhere IsProper ∧ (Value.bytes []).isPlainEmpty = true ∧
      ¬ ∃ data, encode s (.bytes []) = .ok data) ∧
    ∃ fault, encode byte (.int Number.digitBound) = .error fault ∧ fault.kind = .invalidValue := by
  refine ⟨⟨rfl, by decide, rfl, ?_⟩, ?_⟩
  · intro h
    obtain ⟨data, hw⟩ := h
    cases hw
  · have hwide : ¬ Number.digitBound < 256 ^ 1 := by
      have hpow : 256 ^ 1 ≤ 256 ^ Number.writableBytes := Nat.pow_le_pow_right (by decide) (by decide)
      exact Nat.not_lt.mpr (Nat.le_trans hpow Number.pow_writableBytes_le)
    refine ⟨⟨.building, [], .outOfRange Number.digitBound 8⟩, ?_, ?_⟩
    · show (Word.write _ _) = _
      exact if_neg fun h => hwide h.2
    · show Number.kindShowing (Number.decimal Number.digitBound) _ = _
      rw [Number.decimal_of_not_isWritable Number.not_isWritable_digitBound]
      rfl

/-! ## What the reader refuses -/

end TokenBridge.Message
