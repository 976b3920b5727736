import TokenBridge.Proofs.Attestation.Signers
import TokenBridge.Proofs.Curve.Points

/-!
# Recovery always has a result

Signatures come from the wire, where any bytes are a signature. Recovering the signer of one answers
a signer or says why there is none; which of the two it is depends on the numbers of the signature
(`WellFormed`) and on the key that they lead to (`recoverAddress_eq_signer_iff`). There is no result
only where the recovery id is shown and has too many digits, which one byte never has.

A key with the coordinates zero is taken for the point at infinity. That is right because these are
the coordinates of no other key (`coordinates_ne_zero_iff`), and every other key has an address,
since its coordinates are below the size of the field.
-/

namespace TokenBridge

/-! ## Addresses of keys -/

namespace Address

theorem ofValues_natCast {x y : Nat} (hx : x < 256 ^ 32) (hy : y < 256 ^ 32) :
    ofValues (.int x) (.int y) = .ok (ofCoordinates x y) := by
  have hwrite {n : Nat} (hn : n < 256 ^ 32) :
      Value.toUintBytes 32 (.int n) = .ok (Bytes.bigEndian 32 n) :=
    Value.uintBytes_eq_ok_iff.mpr ⟨Int.natCast_nonneg n, hn, rfl⟩
  rw [ofValues, hwrite hx, hwrite hy]
  rfl

end Address

namespace Attestation

/-! ## Recovery ids -/

theorem parityOf?_eq_some_iff {id : Int} {parity : Nat} : parityOf? id = some parity ↔
    parity = 0 ∧ (id = 0 ∨ id = 27) ∨ parity = 1 ∧ (id = 1 ∨ id = 28) := by
  unfold parityOf?
  generalize hcounted : (if 27 ≤ id then id - 27 else id) = n
  have hn : n = 0 ∧ (id = 0 ∨ id = 27) ∨ n = 1 ∧ (id = 1 ∨ id = 28) ∨
      (n ≠ 0 ∧ n ≠ 1) ∧ id ≠ 0 ∧ id ≠ 27 ∧ id ≠ 1 ∧ id ≠ 28 := by
    split at hcounted
    · omega
    · omega
  rcases hn with ⟨rfl, hid⟩ | ⟨rfl, hid⟩ | ⟨hne, hid⟩
  · show some 0 = some parity ↔ _
    rw [Option.some.injEq]
    omega
  · show some 1 = some parity ↔ _
    rw [Option.some.injEq]
    omega
  · split
    · exact absurd rfl hne.1
    · exact absurd rfl hne.2
    · constructor
      · intro h
        cases h
      · intro h
        omega

namespace GuardianSignature

/-- The recovery id stands for a parity, both parts are numbers of thirty-two bytes that are in
range, and the first is a coordinate of a point. -/
structure WellFormed (sig : GuardianSignature) : Prop where
  recoveryId : sig.recoveryId = 0 ∨ sig.recoveryId = 1 ∨ sig.recoveryId = 27 ∨ sig.recoveryId = 28
  parts : sig.r.length = 32 ∧ sig.s.length = 32
  r_range : 0 < Bytes.readBigEndian sig.r ∧ Bytes.readBigEndian sig.r < Curve.order
  s_range : 0 < Bytes.readBigEndian sig.s ∧ Bytes.readBigEndian sig.s < Curve.order
  point : ∃ y, Curve.OnCurve (Bytes.readBigEndian sig.r) y

/-- The key that the numbers of a signature lead to, whether they are in range or not. -/
def key? (sig : GuardianSignature) (digest : Bytes) : Option Curve.Point :=
  (parityOf? sig.recoveryId).bind fun parity =>
    Curve.recover (Bytes.readBigEndian digest)
      ⟨Bytes.readBigEndian sig.r, Bytes.readBigEndian sig.s, parity⟩

variable {sig : GuardianSignature} {digest : Bytes} {key : Curve.Point}

theorem exists_parity_iff : (∃ parity, parityOf? sig.recoveryId = some parity) ↔
    sig.recoveryId = 0 ∨ sig.recoveryId = 1 ∨ sig.recoveryId = 27 ∨ sig.recoveryId = 28 := by
  simp only [parityOf?_eq_some_iff]
  constructor
  · intro h
    obtain ⟨parity, h⟩ := h
    omega
  · intro h
    rcases h with h | h | h | h
    · exact ⟨0, Or.inl ⟨rfl, Or.inl h⟩⟩
    · exact ⟨1, Or.inr ⟨rfl, Or.inl h⟩⟩
    · exact ⟨0, Or.inl ⟨rfl, Or.inr h⟩⟩
    · exact ⟨1, Or.inr ⟨rfl, Or.inr h⟩⟩

theorem onCurve_of_key? {x y : Nat} (h : sig.key? digest = some (.affine x y)) :
    Curve.OnCurve x y ∧ x < 256 ^ 32 ∧ y < 256 ^ 32 := by
  obtain ⟨parity, -, h⟩ := Option.bind_eq_some_iff.mp h
  obtain ⟨hpoint, hx, hy⟩ := Curve.onCurve_of_recover h
  have hprime : Curve.fieldPrime < 256 ^ 32 := by decide
  exact ⟨hpoint, hx.trans hprime, hy.trans hprime⟩

/-- Only the point at infinity goes by the coordinates zero. -/
theorem coordinates_ne_zero_iff (h : sig.key? digest = some key) :
    key.coordinates ≠ (0, 0) ↔ ∃ x y, key = .affine x y := by
  cases key with
  | infinity =>
    constructor
    · intro hne
      exact absurd rfl hne
    · intro h
      obtain ⟨x, y, h⟩ := h
      cases h
  | affine x y =>
    constructor
    · intro _
      exact ⟨x, y, rfl⟩
    · intro _ hzero
      obtain ⟨rfl, rfl⟩ := Prod.mk.inj hzero
      exact Curve.not_onCurve_zero (onCurve_of_key? h).1

theorem WellFormed.recovered (h : sig.WellFormed) (digest : Bytes) :
    ∃ key, sig.key? digest = some key ∧ recoverAddress digest sig = .ok (.ofPoint key) := by
  obtain ⟨parity, hparity⟩ := exists_parity_iff.mpr h.recoveryId
  have hlengths : ¬ (sig.r.length ≠ 32 ∨ sig.s.length ≠ 32) := by
    have := h.parts
    omega
  have hrange : ¬ ¬ (0 < Bytes.readBigEndian sig.r ∧ Bytes.readBigEndian sig.r < Curve.order ∧
      0 < Bytes.readBigEndian sig.s ∧ Bytes.readBigEndian sig.s < Curve.order) :=
    not_not_intro ⟨h.r_range.1, h.r_range.2, h.s_range.1, h.s_range.2⟩
  cases hkey : Curve.recover (Bytes.readBigEndian digest)
      ⟨Bytes.readBigEndian sig.r, Bytes.readBigEndian sig.s, parity⟩ with
  | none => exact absurd h.point (Curve.recover_eq_none_iff.mp hkey)
  | some key =>
    refine ⟨key, Option.bind_eq_some_iff.mpr ⟨parity, hparity, hkey⟩, ?_⟩
    unfold recoverAddress
    rw [hparity]
    unfold recoverUnder
    dsimp only
    rw [if_neg hlengths, if_neg hrange, hkey]

theorem recoverUnder_of_not_wellFormed (h : ¬ sig.WellFormed) {parity : Nat}
    (hparity : parityOf? sig.recoveryId = some parity) (digest : Bytes) :
    ∃ fault, recoverUnder digest sig parity = .failed fault := by
  unfold recoverUnder
  dsimp only
  split
  · exact ⟨_, rfl⟩
  split
  · exact ⟨_, rfl⟩
  rename_i hlengths hrange
  obtain ⟨hr, hr', hs, hs'⟩ := Classical.not_not.mp hrange
  have hpoint : ¬ ∃ y, Curve.OnCurve (Bytes.readBigEndian sig.r) y := fun hpoint =>
    h ⟨exists_parity_iff.mp ⟨parity, hparity⟩, by omega, ⟨hr, hr'⟩, ⟨hs, hs'⟩, hpoint⟩
  rw [Curve.recover_eq_none_iff.mpr hpoint]
  exact ⟨_, rfl⟩

/-- A signature that is not well formed has no signer, and if its recovery id can be shown, a result
says so. -/
theorem failed_of_not_wellFormed (h : ¬ sig.WellFormed) (hid : Number.IsWritable sig.recoveryId)
    (digest : Bytes) : ∃ fault, recoverAddress digest sig = .ok (.failed fault) := by
  unfold recoverAddress
  cases hparity : parityOf? sig.recoveryId with
  | none =>
    rw [Number.decimal_of_isWritable hid]
    exact ⟨_, rfl⟩
  | some parity =>
    obtain ⟨fault, hfault⟩ := recoverUnder_of_not_wellFormed h hparity digest
    exact ⟨fault, congrArg Except.ok hfault⟩

/-- A signature whose recovery id can be shown has a result under every digest. -/
theorem exists_recoverAddress (hid : Number.IsWritable sig.recoveryId) (digest : Bytes) :
    ∃ result, recoverAddress digest sig = .ok result := by
  by_cases hwell : sig.WellFormed
  · obtain ⟨key, -, hanswer⟩ := hwell.recovered digest
    exact ⟨_, hanswer⟩
  · obtain ⟨fault, hfault⟩ := failed_of_not_wellFormed hwell hid digest
    exact ⟨_, hfault⟩

/-- An id of too many digits stands for nothing. -/
theorem recoverAddress_of_long (hid : ¬ Number.IsWritable sig.recoveryId) (digest : Bytes) :
    recoverAddress digest sig = .error (.digits .writing) := by
  have hnone : parityOf? sig.recoveryId = none := by
    cases hparity : parityOf? sig.recoveryId with
    | none => rfl
    | some parity =>
      have hsmall := exists_parity_iff.mp ⟨parity, hparity⟩
      refine absurd ?_ hid
      rcases hsmall with h | h | h | h
      all_goals
        rw [h]
        exact Number.isWritable_of_lt_byte (by decide)
  unfold recoverAddress
  rw [hnone, Number.decimal_of_not_isWritable hid]
  rfl

/-- **A signature has a signer exactly when it is well formed and its key is not the point at
infinity**, and the signer is the account of that key. -/
theorem recoverAddress_eq_signer_iff {address : String} :
    recoverAddress digest sig = .ok (.signer address) ↔
      sig.WellFormed ∧ ∃ key, sig.key? digest = some key ∧ key.coordinates ≠ (0, 0) ∧
        Address.ofValues (.int key.coordinates.1) (.int key.coordinates.2) = .ok address := by
  by_cases hwell : sig.WellFormed
  · obtain ⟨key, hkey, hanswer⟩ := hwell.recovered digest
    rw [hanswer]
    constructor
    · intro h
      cases key with
      | infinity => cases h
      | affine x y =>
        obtain ⟨-, hx, hy⟩ := onCurve_of_key? hkey
        cases h
        exact ⟨hwell, _, hkey, (coordinates_ne_zero_iff hkey).mpr ⟨x, y, rfl⟩,
          Address.ofValues_natCast hx hy⟩
    · intro h
      obtain ⟨-, other, hother, hne, haddress⟩ := h
      obtain rfl : key = other := Option.some.inj (hkey.symm.trans hother)
      obtain ⟨x, y, rfl⟩ := (coordinates_ne_zero_iff hkey).mp hne
      obtain ⟨-, hx, hy⟩ := onCurve_of_key? hkey
      have hsame := (Address.ofValues_natCast hx hy).symm.trans haddress
      exact congrArg (fun address => Except.ok (Recovery.signer address)) (Except.ok.inj hsame)
  · refine iff_of_false (fun h => ?_) fun h => hwell h.1
    by_cases hid : Number.IsWritable sig.recoveryId
    · obtain ⟨fault, hfault⟩ := failed_of_not_wellFormed hwell hid digest
      rw [hfault] at h
      cases h
    · rw [recoverAddress_of_long hid] at h
      cases h

theorem exists_signer_iff : (∃ address, recoverAddress digest sig = .ok (.signer address)) ↔
    sig.WellFormed ∧ ∃ key, sig.key? digest = some key ∧ key.coordinates ≠ (0, 0) := by
  simp only [recoverAddress_eq_signer_iff]
  constructor
  · intro h
    obtain ⟨address, hwell, key, hkey, hne, -⟩ := h
    exact ⟨hwell, key, hkey, hne⟩
  · intro h
    obtain ⟨hwell, key, hkey, hne⟩ := h
    obtain ⟨x, y, rfl⟩ := (coordinates_ne_zero_iff hkey).mp hne
    obtain ⟨-, hx, hy⟩ := onCurve_of_key? hkey
    exact ⟨_, hwell, _, hkey, hne, Address.ofValues_natCast hx hy⟩

end GuardianSignature

/-! ## Reports -/

theorem recoverSignerOf_loosen (sig : GuardianSignature) (body : Bytes) :
    recoverSignerOf sig.loosen.toValue (.bytes body) = recoverSigner sig body := by
  have hrecover : (fun digest : Bytes => sig.loosen.recover (.bytes digest)) =
      (recoverAddress · sig) := funext fun digest => LooseSignature.recover_loosen digest sig
  show (do
    let results ← recoverEach (fun digest : Bytes => sig.loosen.recover (.bytes digest))
      (digestsOf body)
    Except.ok (⟨sig.loosen, digestsOf body, results⟩ : RecoveryReport)) = _
  rw [hrecover]
  rfl

/-- The signatures of a run begin sixty-six bytes apart. -/
theorem readSignatures_eq_map {n : Nat} {data : Bytes} :
    readSignatures n data =
      (List.range n).map fun i => readSignature (data.drop (signatureLength * i)) := by
  induction n generalizing data with
  | zero => rfl
  | succ n ih =>
    rw [readSignatures, ih, List.range_succ_eq_map, List.map_cons, List.map_map]
    congr 1
    apply List.map_congr_left
    intro i _
    rw [List.drop_drop, Function.comp_apply, Nat.mul_succ, Nat.add_comm]

section Frames

variable {data : Bytes} {x : Attestation}

/-- Where the signatures and the body of a frame are. -/
theorem parts_of_parse (h : parse data = .ok x) :
    x.signatures = ((List.range (data.getD 5 0).toNat).map fun i =>
        readSignature (data.drop (6 + 66 * i))) ∧
      x.body = data.drop (6 + 66 * (data.getD 5 0).toNat) := by
  have hcount : (data.drop 5).headD 0 = data.getD 5 0 := by
    rw [List.headD_eq_head?_getD, List.head?_drop, List.getD_eq_getElem?_getD]
  unfold parse at h
  rw [hcount] at h
  split at h
  · cases h
  dsimp only at h
  split at h
  · cases h
  split at h
  · cases h
  · cases h
    rw [readSignatures_eq_map, Nat.mul_comm]
    simp only [List.drop_drop]
    exact ⟨rfl, rfl⟩

/-- The id of a signature that was read is a byte, and so can be shown. -/
theorem isWritable_readSignature (chunk : Bytes) :
    Number.IsWritable (readSignature chunk).recoveryId :=
  Number.isWritable_of_lt_byte ((chunk.drop 65).headD 0).toNat_lt

/-- A report gives one result for each scheme, which is that of the scheme's digest, and has a
summary. -/
theorem report_spec {sig : GuardianSignature} {body : Bytes} {report : RecoveryReport}
    (h : recoverSigner sig body = .ok report) :
    report.results.map Prod.fst = DigestScheme.all ∧
      (∀ scheme result, (scheme, result) ∈ report.results →
        report.signature.recover (.bytes (scheme.digest body)) = .ok result) ∧
      ∃ summary, report.summary = .ok summary := by
  obtain ⟨a, b, ha, hb, rfl⟩ := results_of_report h
  refine ⟨rfl, fun scheme result hmem => ?_, _, rfl⟩
  rw [LooseSignature.recover_loosen]
  rcases List.mem_pair.mp hmem with heq | heq
  · cases heq
    exact ha
  · cases heq
    exact hb

/-- Every signature of a frame is reported on, each at its place. -/
theorem recoverAll_of_parse (h : parse data = .ok x) :
    ∃ report : Nat → RecoveryReport,
      (∀ i, recoverSigner (readSignature (data.drop (6 + 66 * i)))
        (data.drop (6 + 66 * (data.getD 5 0).toNat)) = .ok (report i)) ∧
      recoverAll x = .ok ((List.range (data.getD 5 0).toNat).map report) := by
  obtain ⟨hsignatures, hbody⟩ := parts_of_parse h
  have hreport (i : Nat) := exists_report x.body
    (GuardianSignature.exists_recoverAddress (isWritable_readSignature (data.drop (6 + 66 * i))))
  choose report hreport using hreport
  refine ⟨report, fun i => hbody ▸ hreport i, ?_⟩
  rw [recoverAll, hsignatures, List.mapM_map]
  simp only [Function.comp_def, hreport]
  exact List.mapM_pure

end Frames

/-- **Recovery has a result for every recovery id that can be shown**, and an id that cannot is
refused. The signer of a digest is recovered from every signature that is well formed, unless its key
is the point at infinity, and from no other; where there is none, the result says so. The ids of a
frame are bytes. So all signatures of a frame are reported on, one after another and under every
scheme, and every byte string is a frame or malformed. -/
theorem recovery_total (digest : Bytes) (sig : GuardianSignature) (guardianIndex : Value)
    (data : Bytes) :
    (let outcome := LooseSignature.recover (.bytes digest)
        ⟨guardianIndex, .bytes sig.r, .bytes sig.s, .int sig.recoveryId⟩
     ((∃ address, outcome = .ok (.signer address)) ↔
        sig.WellFormed ∧ ∃ key, sig.key? digest = some key ∧ key.coordinates ≠ (0, 0)) ∧
      (∀ address, outcome = .ok (.signer address) → ∃ key, sig.key? digest = some key ∧
        Address.ofValues (.int key.coordinates.1) (.int key.coordinates.2) = .ok address) ∧
      (Number.IsWritable sig.recoveryId → (¬ ∃ address, outcome = .ok (.signer address)) →
        ∃ fault, outcome = .ok (.failed fault)) ∧
      (¬ Number.IsWritable sig.recoveryId →
        ∃ fault, outcome = .error fault ∧ fault.kind = .invalidValue)) ∧
    ((∃ fault, parse data = .error fault ∧ fault.kind = .malformedAttestation) ∨
      ∃ x reports, parse data = .ok x ∧ recoverAll x = .ok reports ∧
        let count := (data.getD 5 0).toNat
        let body := data.drop (6 + 66 * count)
        (List.range count).mapM (fun i =>
          recoverSignerOf (readSignature (data.drop (6 + 66 * i))).loosen.toValue (.bytes body)) =
            .ok reports ∧
        reports.length = count ∧
        ∀ report ∈ reports, report.results.map Prod.fst = DigestScheme.all ∧
          (∀ scheme result, (scheme, result) ∈ report.results →
            report.signature.recover (.bytes (scheme.digest body)) = .ok result) ∧
          ∃ summary, report.summary = .ok summary) := by
  constructor
  · have hagree : LooseSignature.recover (.bytes digest)
        ⟨guardianIndex, .bytes sig.r, .bytes sig.s, .int sig.recoveryId⟩ =
        recoverAddress digest sig := LooseSignature.recover_loosen digest sig
    dsimp only
    rw [hagree]
    refine ⟨GuardianSignature.exists_signer_iff, ?_, ?_, ?_⟩
    · intro address h
      obtain ⟨-, key, hkey, -, haddress⟩ := GuardianSignature.recoverAddress_eq_signer_iff.mp h
      exact ⟨key, hkey, haddress⟩
    · intro hid h
      obtain ⟨result, hresult⟩ := GuardianSignature.exists_recoverAddress hid digest
      cases result with
      | signer address => exact absurd ⟨address, hresult⟩ h
      | failed fault => exact ⟨fault, hresult⟩
    · intro hid
      exact ⟨_, GuardianSignature.recoverAddress_of_long hid digest, rfl⟩
  · rcases parse_cases data with ⟨-, x, hx⟩ | ⟨-, hfault⟩
    · obtain ⟨report, hreport, hall⟩ := recoverAll_of_parse hx
      refine Or.inr ⟨x, _, hx, hall, ?_, ?_, ?_⟩
      · simp only [recoverSignerOf_loosen, hreport]
        exact List.mapM_pure
      · rw [List.length_map, List.length_range]
      · intro other hmem
        obtain ⟨i, -, rfl⟩ := List.mem_map.mp hmem
        exact report_spec (hreport i)
    · exact Or.inl hfault

/-- A frame with a signature of zeros around a body of one byte. -/
def unsignedFrame : Bytes := [1, 0, 0, 0, 4, 1] ++ List.replicate 66 0 ++ [7]

/-- A signature that a key made leads back to the key, and with an id that is out of use to nothing;
a signature of zeros is reported on under both schemes; and a frame that is cut short is malformed. -/
theorem recovery_total_sample :
    (∃ key, (signatureOf sampleDigest sampleKey 7).key? sampleDigest = some key ∧
      Address.ofValues (.int key.coordinates.1) (.int key.coordinates.2) =
        .ok (addressOfKey sampleKey)) ∧
    (∃ fault, LooseSignature.recover (.bytes [])
      { signatureOf sampleDigest sampleKey 7 with recoveryId := 54 }.loosen =
        .ok (.failed fault)) ∧
    (∃ x report, parse unsignedFrame = .ok x ∧ recoverAll x = .ok [report] ∧
      report.results.map Prod.fst = DigestScheme.all ∧ ∃ summary, report.summary = .ok summary) ∧
    ∃ fault, parse (unsignedFrame.take 71) = .error fault ∧
      fault.kind = .malformedAttestation := by
  have hframes (data : Bytes) :=
    (recovery_total [] (signatureOf sampleDigest sampleKey 7) (.int 7) data).2
  -- for any signature, as those of a key are long to compute
  have haccount {digest : Bytes} {address : String} (sig : GuardianSignature)
      (h : recoverAddress digest sig = .ok (.signer address)) :
      ∃ key, sig.key? digest = some key ∧
        Address.ofValues (.int key.coordinates.1) (.int key.coordinates.2) = .ok address := by
    obtain ⟨⟨-, hsigner, -⟩, -⟩ := recovery_total digest sig (.int sig.guardianIndex) []
    exact hsigner address ((LooseSignature.recover_loosen digest sig).trans h)
  refine ⟨?_, ?_, ?_, ?_⟩
  · exact haccount _ (recoverAddress_signatureOf recoverable_sample 7)
  · obtain ⟨⟨hiff, -, hfailed, -⟩, -⟩ :=
      recovery_total [] { signatureOf sampleDigest sampleKey 7 with recoveryId := 54 } (.int 7) []
    have hid : Number.IsWritable (54 : Nat) := Number.isWritable_of_lt_byte (by decide)
    exact hfailed hid fun h => absurd (hiff.mp h).1.recoveryId (by decide)
  · obtain ⟨y, hy⟩ : ∃ y, parse unsignedFrame = .ok y := ⟨_, rfl⟩
    rcases hframes unsignedFrame with ⟨fault, hfault, -⟩ | ⟨x, reports, hx, hall, -, hcount, hreports⟩
    · rw [hy] at hfault
      cases hfault
    · obtain ⟨report, rfl⟩ := List.length_eq_one_iff.mp hcount
      obtain ⟨hschemes, -, hsummary⟩ := hreports report List.mem_cons_self
      exact ⟨x, report, hx, hall, hschemes, hsummary⟩
  · rcases hframes (unsignedFrame.take 71) with hfault | ⟨x, reports, hx, -⟩
    · exact hfault
    · cases hx

/-- An id of too many digits has no result at all. -/
theorem recovery_total_long : ∃ fault,
    LooseSignature.recover (.bytes []) ⟨.int 0, .bytes [], .bytes [], .int Number.digitBound⟩ =
      .error fault ∧ fault.kind = .invalidValue :=
  ⟨_, (LooseSignature.recover_loosen [] ⟨0, [], [], Number.digitBound⟩).trans
    (GuardianSignature.recoverAddress_of_long Number.not_isWritable_digitBound []), rfl⟩

end Attestation

end TokenBridge
