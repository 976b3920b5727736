import Mathlib.Data.List.Forall2
import TokenBridge.Attestation.Recovery
import TokenBridge.Proofs.Attestation.Framing
import TokenBridge.Proofs.Text.LetterCase

/-!
# Signers are recovered

A signature made by a key is packed with others around a body, read again, and recovered to the
address of the key (`recoverAll_signed`). Of the curve the argument uses only what `Recoverable`
says, that the public key of a signature's key is recovered from the signature; everything between
is about bytes, and each step keeps the numbers as they are. Both parts of a signature are below the
order of the curve and so fit their thirty-two bytes, the parity is a byte, and framing is exact.

Recovery looks at a recovery id only for the parity that it stands for (`parityOf?_add`), so it does
not matter which of the two ways of counting ids a signature uses.
-/

namespace TokenBridge

/-! ## The curve -/

namespace Curve

/-- The signature of a digest under a key has both its parts in range, and the public key is
recovered from it. -/
structure Recoverable (digest key : Bytes) : Prop where
  r_range : 0 < (sign digest key).r ∧ (sign digest key).r < order
  s_range : 0 < (sign digest key).s ∧ (sign digest key).s < order
  recovered : recover (Bytes.readBigEndian digest) (sign digest key) = some (publicKey key)
  finite : (publicKey key).coordinates ≠ (0, 0)

theorem parity_lt_two (digest key : Bytes) : (sign digest key).parity < 2 := by
  unfold sign
  dsimp only
  split
  · exact Nat.mod_lt _ (by decide)
  · show 1 - _ < 2
    omega

theorem order_lt : order < 256 ^ 32 := by decide

end Curve

/-! ## Addresses -/

namespace Address

theorem isPlain_text (account : Bytes) : Text.IsPlain (text account) := by
  -- a digit is plain, and so is its capital
  have hdigit : ∀ n < 16, ∀ check, (checkedChar (Bytes.hexDigit n) check).toNat < 0x80 := by
    intro n hn check
    have hboth : ∀ n < 16, (Bytes.hexDigit n).toUpper.toNat < 0x80 ∧
        (Bytes.hexDigit n).toNat < 0x80 := by decide
    unfold checkedChar
    split
    · exact (hboth n hn).1
    · exact (hboth n hn).2
  intro c hc
  rw [text, String.toList_ofList] at hc
  rcases List.mem_cons.mp hc with rfl | hc
  · decide
  rcases List.mem_cons.mp hc with rfl | hc
  · decide
  rw [checkedDigits, ← List.map_uncurry_zip_eq_zipWith] at hc
  obtain ⟨⟨d, check⟩, hmem, rfl⟩ := List.mem_map.mp hc
  obtain ⟨byte, -, hd⟩ := List.mem_flatMap.mp (List.of_mem_zip hmem).1
  have hbyte := byte.toNat_lt
  rw [Bytes.hexByte, List.mem_pair] at hd
  rcases hd with rfl | rfl
  · exact hdigit _ (by omega) check
  · exact hdigit _ (by omega) check

end Address

namespace Attestation

/-! ## Recovery of one signature -/

theorem parityOf?_natCast {n : Nat} (h : n < 2) : parityOf? n = some n := by
  obtain rfl | rfl : n = 0 ∨ n = 1 := by omega
  · rfl
  · rfl

/-- An id that counts from twenty-seven stands for the same parity. -/
theorem parityOf?_add {n : Nat} (h : n < 2) : parityOf? (n + 27) = some n := by
  obtain rfl | rfl : n = 0 ∨ n = 1 := by omega
  · rfl
  · rfl

/-- The signature is another, or it is that other with its recovery id counted from
twenty-seven. -/
def Renumbers (sig other : GuardianSignature) : Prop :=
  other = sig ∨ other = { sig with recoveryId := sig.recoveryId + 27 }

theorem DigestScheme.length_digest {scheme : DigestScheme} {body : Bytes} :
    (scheme.digest body).length = 32 := by
  cases scheme with
  | doubleKeccak => exact Keccak.length_digest _
  | ethSigned => exact Keccak.length_digest _

/-- The signature that a key makes of a digest. -/
def signatureOf (digest key : Bytes) (guardianIndex : Int) : GuardianSignature where
  guardianIndex
  r := Bytes.bigEndian 32 (Curve.sign digest key).r
  s := Bytes.bigEndian 32 (Curve.sign digest key).s
  recoveryId := (Curve.sign digest key).parity

theorem signDigest_eq_ok_iff {digest key : Bytes} {guardianIndex : Int} {sig : GuardianSignature} :
    signDigest digest key guardianIndex = .ok sig ↔
      digest.length = 32 ∧ key.length = 32 ∧ sig = signatureOf digest key guardianIndex := by
  unfold signDigest
  by_cases hdigest : digest.length = 32
  · by_cases hkey : key.length = 32
    · rw [if_neg (by omega), if_neg (by omega)]
      constructor
      · intro h
        cases h
        exact ⟨hdigest, hkey, rfl⟩
      · intro h
        rw [h.2.2]
        rfl
    · rw [if_neg (by omega), if_pos hkey]
      constructor
      · intro h
        cases h
      · intro h
        exact absurd h.2.1 hkey
  · rw [if_pos hdigest]
    constructor
    · intro h
      cases h
    · intro h
      exact absurd h.1 hdigest

/-- The id is looked at for its parity and for nothing else. -/
theorem recoverAddress_of_renumbers {sig other : GuardianSignature} {n : Nat} (hn : n < 2)
    (hid : sig.recoveryId = n) (h : Renumbers sig other) (digest : Bytes) :
    recoverAddress digest other = recoverAddress digest sig := by
  rcases h with rfl | rfl
  · rfl
  · unfold recoverAddress
    simp only [hid, parityOf?_natCast hn, parityOf?_add hn, recoverUnder]

/-- A signature recovers to the address of the key that made it. -/
theorem recoverAddress_signatureOf {digest key : Bytes} (h : Curve.Recoverable digest key)
    (guardianIndex : Int) :
    recoverAddress digest (signatureOf digest key guardianIndex) =
      .ok (.signer (addressOfKey key)) := by
  have hid : parityOf? (signatureOf digest key guardianIndex).recoveryId =
      some (Curve.sign digest key).parity :=
    parityOf?_natCast (Curve.parity_lt_two digest key)
  have hr : Bytes.readBigEndian (signatureOf digest key guardianIndex).r =
      (Curve.sign digest key).r :=
    Bytes.readBigEndian_bigEndian (Nat.lt_trans h.r_range.2 Curve.order_lt)
  have hs : Bytes.readBigEndian (signatureOf digest key guardianIndex).s =
      (Curve.sign digest key).s :=
    Bytes.readBigEndian_bigEndian (Nat.lt_trans h.s_range.2 Curve.order_lt)
  have hlengths : ¬ ((signatureOf digest key guardianIndex).r.length ≠ 32 ∨
      (signatureOf digest key guardianIndex).s.length ≠ 32) := by
    simp [signatureOf]
  have hrange : ¬ ¬ (0 < (Curve.sign digest key).r ∧ (Curve.sign digest key).r < Curve.order ∧
      0 < (Curve.sign digest key).s ∧ (Curve.sign digest key).s < Curve.order) :=
    not_not_intro ⟨h.r_range.1, h.r_range.2, h.s_range.1, h.s_range.2⟩
  unfold recoverAddress
  rw [hid]
  unfold recoverUnder
  dsimp only
  rw [if_neg hlengths, hr, hs, if_neg hrange, h.recovered]
  -- a key that is not the point at infinity has an address
  have hfinite := h.finite
  unfold addressOfKey
  cases hk : Curve.publicKey key with
  | infinity =>
    rw [hk] at hfinite
    exact absurd rfl hfinite
  | affine x y => rfl

/-! ## Reports -/

section Reports

variable {sig other : GuardianSignature} {body : Bytes} {report : RecoveryReport}

/-- There is a result for each digest, and it is the one of that digest. -/
theorem recoverEach_eq_ok_iff {recover : Bytes → Except Fault Recovery}
    {digests : List (DigestScheme × Bytes)} {results : List (DigestScheme × Recovery)} :
    recoverEach recover digests = .ok results ↔
      List.Forall₂ (fun entry result => result.1 = entry.1 ∧ recover entry.2 = .ok result.2)
        digests results := by
  unfold recoverEach
  rw [mapM_eq_ok_iff_forall₂]
  refine iff_of_eq (congrArg (List.Forall₂ · digests results) ?_)
  funext entry result
  rw [eq_iff_iff, bind_eq_ok_iff]
  constructor
  · intro h
    obtain ⟨found, hfound, h⟩ := h
    cases h
    exact ⟨rfl, hfound⟩
  · intro h
    exact ⟨result.2, h.2, by rw [← h.1]⟩

theorem recoverSigner_eq_ok_iff : recoverSigner sig body = .ok report ↔
    ∃ results, recoverEach (recoverAddress · sig) (digestsOf body) = .ok results ∧
      report = ⟨sig.loosen, digestsOf body, results⟩ := by
  unfold recoverSigner
  rw [bind_eq_ok_iff]
  simp only [Except.ok.injEq, eq_comm]

/-- A report holds what comes of the digest of each scheme. -/
theorem results_of_report (h : recoverSigner sig body = .ok report) :
    ∃ a b, recoverAddress (DigestScheme.doubleKeccak.digest body) sig = .ok a ∧
      recoverAddress (DigestScheme.ethSigned.digest body) sig = .ok b ∧
      report = ⟨sig.loosen, digestsOf body, [(.doubleKeccak, a), (.ethSigned, b)]⟩ := by
  obtain ⟨results, hresults, rfl⟩ := recoverSigner_eq_ok_iff.mp h
  obtain ⟨⟨first, a⟩, _, ⟨hfirst, ha⟩, hlast, rfl⟩ :=
    List.forall₂_cons_left_iff.mp (recoverEach_eq_ok_iff.mp hresults)
  obtain ⟨⟨second, b⟩, _, ⟨hsecond, hb⟩, hnone, rfl⟩ := List.forall₂_cons_left_iff.mp hlast
  obtain rfl := List.forall₂_nil_left_iff.mp hnone
  dsimp only at hfirst hsecond
  subst hfirst hsecond
  exact ⟨a, b, ha, hb, rfl⟩

theorem lookup_results (h : recoverSigner sig body = .ok report) (scheme : DigestScheme) :
    ∃ result, recoverAddress (scheme.digest body) sig = .ok result ∧
      report.results.lookup scheme = some result := by
  obtain ⟨a, b, ha, hb, rfl⟩ := results_of_report h
  cases scheme with
  | doubleKeccak => exact ⟨a, ha, rfl⟩
  | ethSigned => exact ⟨b, hb, rfl⟩

/-- A signature whose recovery always has a result is reported on. -/
theorem exists_report (body : Bytes) (h : ∀ digest, ∃ result, recoverAddress digest sig = .ok result) :
    ∃ report, recoverSigner sig body = .ok report := by
  obtain ⟨a, ha⟩ := h (DigestScheme.doubleKeccak.digest body)
  obtain ⟨b, hb⟩ := h (DigestScheme.ethSigned.digest body)
  have hresults : recoverEach (recoverAddress · sig) (digestsOf body) =
      .ok [(.doubleKeccak, a), (.ethSigned, b)] :=
    recoverEach_eq_ok_iff.mpr (.cons ⟨rfl, ha⟩ (.cons ⟨rfl, hb⟩ .nil))
  exact ⟨_, recoverSigner_eq_ok_iff.mpr ⟨_, hresults, rfl⟩⟩

theorem report_of_renumbers {n : Nat} (hn : n < 2) (hid : sig.recoveryId = n)
    (hother : Renumbers sig other) (h : recoverSigner sig body = .ok report) :
    ∃ again, recoverSigner other body = .ok again ∧ again.results = report.results := by
  obtain ⟨results, hresults, rfl⟩ := recoverSigner_eq_ok_iff.mp h
  have hsame : (recoverAddress · other) = (recoverAddress · sig) :=
    funext fun digest => recoverAddress_of_renumbers hn hid hother digest
  rw [← hsame] at hresults
  exact ⟨_, recoverSigner_eq_ok_iff.mpr ⟨results, hresults, rfl⟩, rfl⟩

end Reports

/-- The signer under a scheme is found by its address in any letter case. -/
theorem mem_matchingSchemes {report : RecoveryReport} {scheme : DigestScheme}
    {address text : String} (h : report.results.lookup scheme = some (.signer address))
    (hc : Text.lowercase text = Text.lowercase address) :
    scheme ∈ report.matchingSchemes text := by
  obtain ⟨before, after, hresults, -⟩ := List.lookup_eq_some_iff.mp h
  unfold RecoveryReport.matchingSchemes
  refine List.mem_filterMap.mpr ⟨(scheme, .signer address), ?_, ?_⟩
  · rw [hresults]
    exact List.mem_append_right _ List.mem_cons_self
  · exact if_pos hc.symm

/-! ## Signers -/

/-- A guardian that signs a digest of its own choice. -/
structure Signer where
  key : Bytes
  guardianIndex : Int
  scheme : DigestScheme

namespace Signer

/-- The guardian's signature of a body. -/
def sign (signer : Signer) (body : Bytes) : Except Fault GuardianSignature :=
  signDigest (signer.scheme.digest body) signer.key signer.guardianIndex

/-- The guardian can sign the body, and the curve recovers its key from the signature. -/
structure Ready (body : Bytes) (signer : Signer) : Prop where
  key : signer.key.length = 32
  guardianIndex : InByte signer.guardianIndex
  curve : Curve.Recoverable (signer.scheme.digest body) signer.key

/-- The signature that the guardian makes of a body. -/
def signature (body : Bytes) (signer : Signer) : GuardianSignature :=
  signatureOf (signer.scheme.digest body) signer.key signer.guardianIndex

variable {body : Bytes} {signer : Signer}

theorem sign_eq_ok_iff {sig : GuardianSignature} :
    signer.sign body = .ok sig ↔ signer.key.length = 32 ∧ sig = signer.signature body := by
  rw [sign, signDigest_eq_ok_iff]
  exact and_iff_right DigestScheme.length_digest

/-- The signature fits the wire, and still does when its recovery id counts from twenty-seven. -/
theorem Ready.fits (h : signer.Ready body) {sig : GuardianSignature}
    (hs : Renumbers (signer.signature body) sig) : sig.Shaped ∧ sig.InRange := by
  have hparity := Curve.parity_lt_two (signer.scheme.digest body) signer.key
  have hid : (signer.signature body).recoveryId =
      ((Curve.sign (signer.scheme.digest body) signer.key).parity : Int) := rfl
  have hplain : InByte (signer.signature body).recoveryId := by
    rw [hid]
    exact ⟨by omega, by omega⟩
  have hcounted : InByte ((signer.signature body).recoveryId + 27) := by
    rw [hid]
    exact ⟨by omega, by omega⟩
  rcases hs with rfl | rfl
  · exact ⟨⟨Bytes.length_bigEndian .., Bytes.length_bigEndian ..⟩, h.guardianIndex, hplain⟩
  · exact ⟨⟨Bytes.length_bigEndian .., Bytes.length_bigEndian ..⟩, h.guardianIndex, hcounted⟩

theorem exists_recoverAddress (body digest : Bytes) :
    ∃ result, recoverAddress digest (signer.signature body) = .ok result := by
  have hid : parityOf? (signer.signature body).recoveryId =
      some (Curve.sign (signer.scheme.digest body) signer.key).parity :=
    parityOf?_natCast (Curve.parity_lt_two _ _)
  unfold recoverAddress
  rw [hid]
  exact ⟨_, rfl⟩

/-- There is a report on the signature, and it names the signer. -/
theorem Ready.reported (h : signer.Ready body) :
    ∃ report, recoverSigner (signer.signature body) body = .ok report ∧
      report.signature.guardianIndex = .int signer.guardianIndex ∧
      report.results.lookup signer.scheme = some (.signer (addressOfKey signer.key)) := by
  obtain ⟨report, hreport⟩ := exists_report body (signer.exists_recoverAddress body)
  obtain ⟨result, hresult, hlookup⟩ := lookup_results hreport signer.scheme
  rw [signature, recoverAddress_signatureOf h.curve] at hresult
  cases hresult
  obtain ⟨_, -, rfl⟩ := recoverSigner_eq_ok_iff.mp hreport
  exact ⟨_, hreport, rfl, hlookup⟩

end Signer

/-! ## Signed attestations -/

section Signed

variable {body : Bytes} {version guardianSet : Int} {signers : List Signer}

/-- Signatures of ready signers fit a frame, whichever way their recovery ids are counted. -/
theorem fits_of_ready (hversion : InByte version)
    (hset : 0 ≤ guardianSet ∧ guardianSet ≤ 2 ^ 32 - 1)
    (hcount : 1 ≤ signers.length ∧ signers.length ≤ 255)
    (hready : ∀ signer ∈ signers, signer.Ready body) {sigs : List GuardianSignature}
    (hs : List.Forall₂ (fun signer => Renumbers (signer.signature body)) signers sigs) :
    Shaped ⟨version, guardianSet, sigs, body⟩ ∧ InRange ⟨version, guardianSet, sigs, body⟩ := by
  rw [hs.length_eq] at hcount
  have hfits : ∀ sig ∈ sigs, sig.Shaped ∧ sig.InRange := by
    clear hcount
    induction hs with
    | nil => exact fun sig hm => absurd hm List.not_mem_nil
    | cons hsig _ ih =>
      obtain ⟨hsigner, hready⟩ := List.forall_mem_cons.mp hready
      exact List.forall_mem_cons.mpr ⟨hsigner.fits hsig, ih hready⟩
  exact ⟨⟨hcount.1, hcount.2, fun sig hm => (hfits sig hm).1⟩,
    ⟨hversion, hset, fun sig hm => (hfits sig hm).2⟩⟩

theorem recoverAll_eq_ok_iff {sigs : List GuardianSignature} {reports : List RecoveryReport} :
    recoverAll ⟨version, guardianSet, sigs, body⟩ = .ok reports ↔
      List.Forall₂ (fun sig report => recoverSigner sig body = .ok report) sigs reports :=
  mapM_eq_ok_iff_forall₂

/-- Every signature of ready signers is reported on, and each report names its signer. -/
theorem exists_reports (hready : ∀ signer ∈ signers, signer.Ready body) :
    ∃ reports, recoverAll ⟨version, guardianSet, signers.map (·.signature body), body⟩ =
        .ok reports ∧
      List.Forall₂ (fun signer report =>
          recoverSigner (signer.signature body) body = .ok report ∧
          report.signature.guardianIndex = .int signer.guardianIndex ∧
          report.results.lookup signer.scheme = some (.signer (addressOfKey signer.key)))
        signers reports := by
  simp only [recoverAll_eq_ok_iff]
  induction signers with
  | nil => exact ⟨[], .nil, .nil⟩
  | cons signer signers ih =>
    obtain ⟨hsigner, hready⟩ := List.forall_mem_cons.mp hready
    obtain ⟨report, hreport⟩ := hsigner.reported
    obtain ⟨reports, hall, hnamed⟩ := ih hready
    exact ⟨report :: reports, .cons hreport.1 hall, .cons hreport hnamed⟩

/-- Counting recovery ids from twenty-seven changes no result. -/
theorem reports_of_renumbers {sigs : List GuardianSignature} {reports : List RecoveryReport}
    (hs : List.Forall₂ (fun signer => Renumbers (signer.signature body)) signers sigs)
    (h : List.Forall₂ (fun signer report => recoverSigner (signer.signature body) body = .ok report)
      signers reports) :
    ∃ again, recoverAll ⟨version, guardianSet, sigs, body⟩ = .ok again ∧
      again.map (·.results) = reports.map (·.results) := by
  simp only [recoverAll_eq_ok_iff]
  induction hs generalizing reports with
  | nil =>
    obtain rfl := List.forall₂_nil_left_iff.mp h
    exact ⟨[], .nil, rfl⟩
  | cons hsig _ ih =>
    obtain ⟨report, rest, hreport, hrest, rfl⟩ := List.forall₂_cons_left_iff.mp h
    obtain ⟨first, hfirst, hsame⟩ := report_of_renumbers (Curve.parity_lt_two _ _) rfl hsig hreport
    obtain ⟨again, hagain, hothers⟩ := ih hrest
    exact ⟨first :: again, .cons hfirst hagain, by rw [List.map_cons, List.map_cons, hsame, hothers]⟩

/-- **Whoever signs is recovered**: signatures of a body are packed, read again and recovered to the
addresses of the keys that made them, in the order in which they were made. Each report carries the
guardian's index, and finds the signer under the scheme that was used by the address in any letter
case. What is recovered is the same where some of the recovery ids are counted from twenty-seven. -/
theorem recoverAll_signed (hversion : InByte version)
    (hset : 0 ≤ guardianSet ∧ guardianSet ≤ 2 ^ 32 - 1)
    (hcount : 1 ≤ signers.length ∧ signers.length ≤ 255)
    (hready : ∀ signer ∈ signers, signer.Ready body) :
    ∃ sigs, signers.mapM (fun signer => signer.sign body) = .ok sigs ∧
      (∃ data, serialize ⟨version, guardianSet, sigs, body⟩ = .ok data ∧
        parse data = .ok ⟨version, guardianSet, sigs, body⟩) ∧
      ∃ reports, recoverAll ⟨version, guardianSet, sigs, body⟩ = .ok reports ∧
      List.Forall₂ (fun signer report =>
          report.signature.guardianIndex = .int signer.guardianIndex ∧
          report.results.lookup signer.scheme = some (.signer (addressOfKey signer.key)) ∧
          ∀ text, Text.SameLetters text (addressOfKey signer.key) →
            signer.scheme ∈ report.matchingSchemes text)
        signers reports ∧
      ∀ others, List.Forall₂ Renumbers sigs others →
        (∃ data, serialize ⟨version, guardianSet, others, body⟩ = .ok data ∧
          parse data = .ok ⟨version, guardianSet, others, body⟩) ∧
        ∃ again, recoverAll ⟨version, guardianSet, others, body⟩ = .ok again ∧
          again.map (·.results) = reports.map (·.results) := by
  have hsign : signers.mapM (fun signer => signer.sign body) =
      .ok (signers.map fun signer => signer.signature body) :=
    (mapM_eq_ok_iff fun _ _ => Signer.sign_eq_ok_iff).mpr
      ⟨fun signer hm => (hready signer hm).key, rfl⟩
  have hown : List.Forall₂ (fun signer => Renumbers (signer.signature body)) signers
      (signers.map fun signer => signer.signature body) :=
    List.forall₂_map_right_iff.mpr (List.forall₂_same.mpr fun signer _ => Or.inl rfl)
  have hwire : ∀ {sigs : List GuardianSignature},
      List.Forall₂ (fun signer => Renumbers (signer.signature body)) signers sigs →
      ∃ data, serialize ⟨version, guardianSet, sigs, body⟩ = .ok data ∧
        parse data = .ok ⟨version, guardianSet, sigs, body⟩ := by
    intro sigs hs
    obtain ⟨hshaped, hrange⟩ := fits_of_ready hversion hset hcount hready hs
    exact parse_of_serialize hshaped hrange
  obtain ⟨reports, hreports, hnamed⟩ := exists_reports hready
  refine ⟨_, hsign, hwire hown, reports, hreports, ?_, ?_⟩
  · refine hnamed.imp fun signer report h => ⟨h.2.1, h.2.2, fun text htext => ?_⟩
    exact mem_matchingSchemes h.2.2 (htext.lowercase_eq (Address.isPlain_text _))
  · intro others hothers
    rw [List.forall₂_map_left_iff] at hothers
    exact ⟨hwire hothers, reports_of_renumbers hothers (hnamed.imp fun _ _ h => h.1)⟩

end Signed

/-! ### A guardian that signs twice -/

section Sample

-- hashes and points are computed to the end
set_option maxRecDepth 100000

/-- A private key. -/
def sampleKey : Bytes := Bytes.bigEndian 32 2

/-- The digest that guardians sign of the empty body. -/
def sampleDigest : Bytes :=
  Bytes.bigEndian 32 0x10ca3eff73ebec87d2394fc58560afeab86dac7a21f5e402ea0a55e5c8a6758f

theorem digest_sample : DigestScheme.doubleKeccak.digest [] = sampleDigest := by
  have hbody : Keccak.digest [] = Bytes.bigEndian 32
      0xc5d2460186f7233c927e7db2dcc703c0e500b653ca82273b7bfad8045d85a470 := by decide +kernel
  rw [DigestScheme.digest, hbody]
  decide +kernel

-- one keyed hash after the other, as each is a long computation
theorem nonce_sample : Curve.nonce sampleDigest sampleKey =
    0x4fcf54c5e2ebe15467d91c91601451aeb6c77b1bbd29da3a7b4c18682c289726 := by
  have hk1 : Sha256.keyed (List.replicate 32 0)
        (List.replicate 32 1 ++ 0 :: sampleKey ++ sampleDigest) = Bytes.bigEndian 32
      0xdce8d90ed18e8972fa73f5d1965c343e3c1bdd572fca5e7602d4dfe95165888c := by decide +kernel
  have hv1 : Sha256.keyed (Bytes.bigEndian 32
        0xdce8d90ed18e8972fa73f5d1965c343e3c1bdd572fca5e7602d4dfe95165888c)
        (List.replicate 32 1) = Bytes.bigEndian 32
      0x90d49ccbc6a0090e893ddcdb60e685595a93246b2e72d09bf7c1d440e02755b4 := by decide +kernel
  have hk2 : Sha256.keyed (Bytes.bigEndian 32
        0xdce8d90ed18e8972fa73f5d1965c343e3c1bdd572fca5e7602d4dfe95165888c)
        (Bytes.bigEndian 32
          0x90d49ccbc6a0090e893ddcdb60e685595a93246b2e72d09bf7c1d440e02755b4 ++
          1 :: sampleKey ++ sampleDigest) = Bytes.bigEndian 32
      0x077795bcd597c4b802ee6cd6180eb29ebf4a96e43a805c053efa39884ec4b992 := by decide +kernel
  have hv2 : Sha256.keyed (Bytes.bigEndian 32
        0x077795bcd597c4b802ee6cd6180eb29ebf4a96e43a805c053efa39884ec4b992)
        (Bytes.bigEndian 32
          0x90d49ccbc6a0090e893ddcdb60e685595a93246b2e72d09bf7c1d440e02755b4) =
      Bytes.bigEndian 32
      0x6ddf16725d205cb76a924c6023fad5fefe22e158dcdf86be01568c712b3d2b81 := by decide +kernel
  have hlast : Sha256.keyed (Bytes.bigEndian 32
        0x077795bcd597c4b802ee6cd6180eb29ebf4a96e43a805c053efa39884ec4b992)
        (Bytes.bigEndian 32
          0x6ddf16725d205cb76a924c6023fad5fefe22e158dcdf86be01568c712b3d2b81) =
      Bytes.bigEndian 32
      0x4fcf54c5e2ebe15467d91c91601451aeb6c77b1bbd29da3a7b4c18682c289726 := by decide +kernel
  simp only [Curve.nonce, hk1, hv1, hk2, hv2, hlast]
  exact Bytes.readBigEndian_bigEndian (by decide)

theorem sign_sample : Curve.sign sampleDigest sampleKey =
    ⟨0xef2a1d437e227047be80d2dc736141eba5c1d797dbbeb6e21cf5b82a45fff866,
      0x219a27a19139b5c1593e88cbd4e7cabbef23d26ded12f7a3e904d09e911cd599, 1⟩ := by
  rw [Curve.sign, nonce_sample]
  decide +kernel

theorem recoverable_sample : Curve.Recoverable sampleDigest sampleKey := by
  constructor
  case r_range => rw [sign_sample]; decide
  case s_range => rw [sign_sample]; decide
  case recovered => rw [sign_sample]; decide +kernel
  case finite => decide +kernel

theorem ready_sample {guardianIndex : Int} (h : InByte guardianIndex) :
    Signer.Ready [] ⟨sampleKey, guardianIndex, .doubleKeccak⟩ := by
  refine ⟨Bytes.length_bigEndian .., h, ?_⟩
  rw [digest_sample]
  exact recoverable_sample

/-- A guardian with two numbers signs the empty body, and both signatures come back as its own. -/
theorem recoverAll_sample :
    let signers : List Signer := [⟨sampleKey, 0, .doubleKeccak⟩, ⟨sampleKey, 255, .doubleKeccak⟩]
    ∃ sigs, signers.mapM (fun signer => signer.sign []) = .ok sigs ∧
      (∃ data, serialize ⟨1, 2 ^ 32 - 1, sigs, []⟩ = .ok data ∧
        parse data = .ok ⟨1, 2 ^ 32 - 1, sigs, []⟩) ∧
      ∃ reports, recoverAll ⟨1, 2 ^ 32 - 1, sigs, []⟩ = .ok reports ∧
      List.Forall₂ (fun signer report =>
          report.signature.guardianIndex = .int signer.guardianIndex ∧
          report.results.lookup signer.scheme = some (.signer (addressOfKey signer.key)))
        signers reports := by
  intro signers
  have hversion : InByte 1 := by decide
  have hset : (0 : Int) ≤ 2 ^ 32 - 1 ∧ (2 ^ 32 - 1 : Int) ≤ 2 ^ 32 - 1 := by decide
  have hcount : 1 ≤ signers.length ∧ signers.length ≤ 255 := by decide
  have hready : ∀ signer ∈ signers, signer.Ready [] :=
    List.forall_mem_cons.mpr
      ⟨ready_sample (by decide), List.forall_mem_singleton.mpr (ready_sample (by decide))⟩
  obtain ⟨sigs, hsigs, hwire, reports, hreports, hnamed, -⟩ :=
    recoverAll_signed hversion hset hcount hready
  exact ⟨sigs, hsigs, hwire, reports, hreports, hnamed.imp fun _ _ h => ⟨h.1, h.2.1⟩⟩

end Sample

end Attestation

end TokenBridge
