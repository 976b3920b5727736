import Mathlib.Data.List.DropRight
import TokenBridge.Proofs.Attestation.Recovery
import TokenBridge.Proofs.Text.Hexadecimal

/-!
# An address is that of one account

The case of the letters in an address is a check on its digits. It is taken from a hash, but which
hash has no say in what the address is for: **whatever the hash, the text spells the account**
(`Address.spells_checkedDigits`), so putting it into lower case leaves the account's digits and
nothing of the hash. Two accounts have different digits, and so different addresses, also for a reader
who does not look at case.

That is what the search for a signer rests on. It compares addresses in lower case, and therefore
**finds the schemes under which the recovered key belongs to the account**, however the address that is
searched for is written.
-/

namespace TokenBridge

open HexText (Spells)

/-! ## Addresses -/

namespace Address

variable {account other hash : Bytes}

/-- The text of an account, its letters in the case that a given hash asks for. -/
def textUnder (hash account : Bytes) : String :=
  String.ofList ('0' :: 'x' :: checkedDigits account hash)

theorem text_eq_textUnder (account : Bytes) : text account = textUnder (checkHash account) account :=
  rfl

theorem toLower_checkedChar {n : Nat} (h : n < 16) (check : Nat) :
    (checkedChar (Bytes.hexDigit n) check).toLower = Bytes.hexDigit n := by
  have hcapital : ∀ n < 16, (Bytes.hexDigit n).toUpper.toLower = Bytes.hexDigit n := by decide
  unfold checkedChar
  split
  · exact hcapital n h
  · exact HexText.toLower_hexDigit h

/-- **Whatever the hash, the digits spell the account**, if the hash has a digit for each. -/
theorem spells_checkedDigits : ∀ {account hash : Bytes}, account.length ≤ hash.length →
    Spells (checkedDigits account hash) account
  | [], _, _ => Spells.nil_iff.mpr rfl
  | byte :: account, [], h => absurd h (Nat.not_succ_le_zero _)
  | byte :: account, check :: hash, h => by
    have ih : Spells (checkedDigits account hash) account :=
      spells_checkedDigits (Nat.le_of_succ_le_succ h)
    obtain ⟨hhigh, hlow⟩ := HexText.halves_lt byte
    refine Spells.cons_cons_iff.mpr ⟨byte, account, rfl, ?_, ?_, ih⟩
    · exact HexText.digit?_eq_some_iff.mpr ⟨hhigh, toLower_checkedChar hhigh _⟩
    · exact HexText.digit?_eq_some_iff.mpr ⟨hlow, toLower_checkedChar hlow _⟩

theorem length_textUnder (h : account.length ≤ hash.length) :
    (textUnder hash account).length = 2 * account.length + 2 := by
  rw [textUnder, String.length_ofList, List.length_cons, List.length_cons,
    (spells_checkedDigits h).length_eq]

/-- The text of an account without the check. -/
def plainText (account : Bytes) : String := "0x" ++ Bytes.hex account

theorem toList_plainText (account : Bytes) :
    (plainText account).toList = '0' :: 'x' :: account.flatMap Bytes.hexByte := by
  simp [plainText, Bytes.hex]

/-- The digits of an account are written small. -/
theorem toLower_digits (account : Bytes) :
    (account.flatMap Bytes.hexByte).map Char.toLower = account.flatMap Bytes.hexByte :=
  Spells.written

/-- A text with the letters of an account is plain, and its lower case is that of the account. -/
theorem lowercase_of_sameLetters {text : String} (h : Text.SameLetters text (plainText account)) :
    Text.lowercase text = plainText account := by
  have hplain : Text.IsPlain (plainText account) := by
    intro c hc
    rw [toList_plainText] at hc
    rcases List.mem_cons.mp hc with rfl | hc
    · decide
    rcases List.mem_cons.mp hc with rfl | hc
    · decide
    exact Spells.written.isPlain c hc
  rw [h.lowercase_eq hplain, Text.lowercase_of_isPlain hplain, toList_plainText, List.map_cons,
    List.map_cons, toLower_digits, show '0'.toLower = '0' from rfl, show 'x'.toLower = 'x' from rfl,
    ← toList_plainText, String.ofList_toList]

theorem sameLetters_textUnder (h : account.length ≤ hash.length) :
    Text.SameLetters (textUnder hash account) (plainText account) := by
  have hchecked : (checkedDigits account hash).map Char.toLower = account.flatMap Bytes.hexByte :=
    spells_checkedDigits h
  rw [Text.SameLetters, textUnder, String.toList_ofList, toList_plainText]
  simp only [List.map_cons, hchecked, toLower_digits]

/-- **In lower case nothing of the hash is left.** -/
theorem lowercase_textUnder (h : account.length ≤ hash.length) :
    Text.lowercase (textUnder hash account) = plainText account :=
  lowercase_of_sameLetters (sameLetters_textUnder h)

theorem plainText_inj : plainText account = plainText other ↔ account = other := by
  constructor
  · intro h
    have hlists := congrArg String.toList h
    rw [toList_plainText, toList_plainText] at hlists
    obtain ⟨-, hlists⟩ := List.cons.inj hlists
    obtain ⟨-, hdigits⟩ := List.cons.inj hlists
    have hspells : Spells (account.flatMap Bytes.hexByte) other := by
      rw [hdigits]
      exact Spells.written
    exact Spells.written.unique hspells
  · intro h
    rw [h]

theorem length_accountOfKey (key : Bytes) : (accountOfKey key).length = 20 := by
  rw [accountOfKey, List.length_drop, Keccak.length_digest]

theorem accountOfKey_eq_rtake (key : Bytes) : accountOfKey key = (Keccak.digest key).rtake 20 := by
  rw [accountOfKey, List.rtake, Keccak.length_digest]

theorem lowercase_ofCoordinates (x y : Nat) : Text.lowercase (ofCoordinates x y) =
    plainText (accountOfKey (Bytes.bigEndian 32 x ++ Bytes.bigEndian 32 y)) := by
  rw [ofCoordinates, text_eq_textUnder]
  apply lowercase_textUnder
  rw [length_accountOfKey, checkHash, Keccak.length_digest]
  decide

end Address

namespace Attestation

variable {sig : GuardianSignature} {body : Bytes} {scheme : DigestScheme} {report : RecoveryReport}

/-! ## Signers -/

/-- The signer of a digest is the account of an affine point. -/
theorem GuardianSignature.recoverAddress_eq_iff {digest : Bytes} {address : String} :
    recoverAddress digest sig = .ok (.signer address) ↔
      sig.WellFormed ∧ ∃ x y, sig.key? digest = some (.affine x y) ∧
        Address.ofCoordinates x y = address := by
  rw [GuardianSignature.recoverAddress_eq_signer_iff]
  apply and_congr_right
  intro _
  constructor
  · intro h
    obtain ⟨key, hkey, hne, haddress⟩ := h
    obtain ⟨x, y, rfl⟩ := (GuardianSignature.coordinates_ne_zero_iff hkey).mp hne
    obtain ⟨-, hx, hy⟩ := GuardianSignature.onCurve_of_key? hkey
    have hsame := (Address.ofValues_natCast hx hy).symm.trans haddress
    exact ⟨x, y, hkey, Except.ok.inj hsame⟩
  · intro h
    obtain ⟨x, y, hkey, rfl⟩ := h
    obtain ⟨-, hx, hy⟩ := GuardianSignature.onCurve_of_key? hkey
    exact ⟨_, hkey, (GuardianSignature.coordinates_ne_zero_iff hkey).mpr ⟨x, y, rfl⟩,
      Address.ofValues_natCast hx hy⟩

/-- The numbers of a signature lead back to the public key of the key that made it. -/
theorem key?_signatureOf {digest key : Bytes} (h : Curve.Recoverable digest key)
    (guardianIndex : Int) :
    (signatureOf digest key guardianIndex).key? digest = some (Curve.publicKey key) := by
  have hr : Bytes.readBigEndian (signatureOf digest key guardianIndex).r =
      (Curve.sign digest key).r :=
    Bytes.readBigEndian_bigEndian (Nat.lt_trans h.r_range.2 Curve.order_lt)
  have hs : Bytes.readBigEndian (signatureOf digest key guardianIndex).s =
      (Curve.sign digest key).s :=
    Bytes.readBigEndian_bigEndian (Nat.lt_trans h.s_range.2 Curve.order_lt)
  refine Option.bind_eq_some_iff.mpr
    ⟨_, parityOf?_natCast (Curve.parity_lt_two digest key), ?_⟩
  rw [hr, hs]
  exact h.recovered

theorem mem_matchingSchemes_iff (h : recoverSigner sig body = .ok report) {text : String} :
    scheme ∈ report.matchingSchemes text ↔
      ∃ found, recoverAddress (scheme.digest body) sig = .ok (.signer found) ∧
        Text.lowercase found = Text.lowercase text := by
  constructor
  · intro hmatched
    obtain ⟨⟨other, result⟩, hmem, hmatch⟩ := List.mem_filterMap.mp hmatched
    have hresult := (report_spec h).2.1 _ _ hmem
    obtain ⟨_, _, -, -, rfl⟩ := results_of_report h
    rw [LooseSignature.recover_loosen] at hresult
    cases result with
    | signer found =>
      dsimp only at hmatch
      split at hmatch
      · rename_i hcase
        cases hmatch
        exact ⟨found, hresult, hcase⟩
      · cases hmatch
    | failed fault => cases hmatch
  · intro hfound
    obtain ⟨found, hfound, hcase⟩ := hfound
    obtain ⟨result, hresult, hlookup⟩ := lookup_results h scheme
    obtain rfl := Except.ok.inj (hresult.symm.trans hfound)
    exact mem_matchingSchemes hlookup hcase.symm

/-- The schemes are found in the order in which they were tried. -/
theorem matchingSchemes_sublist (report : RecoveryReport) (text : String) :
    (report.matchingSchemes text).Sublist (report.results.map Prod.fst) := by
  unfold RecoveryReport.matchingSchemes
  induction report.results with
  | nil => exact List.Sublist.slnil
  | cons entry results ih =>
    obtain ⟨scheme, result⟩ := entry
    rw [List.filterMap_cons, List.map_cons]
    split
    · exact ih.cons _
    · rename_i found hfound
      -- what is found for an entry is the scheme of the entry
      have hscheme : found = scheme := by
        cases result with
        | signer address =>
          dsimp only at hfound
          split at hfound
          · exact (Option.some.inj hfound).symm
          · cases hfound
        | failed fault => cases hfound
      rw [hscheme]
      exact ih.cons_cons _

/-- The signers that an account's address is found for are the keys of the account. -/
theorem mem_matchingSchemes_account_iff (hreport : recoverSigner sig body = .ok report)
    {account : Bytes} {text : String} (h : Text.SameLetters text (Address.plainText account)) :
    scheme ∈ report.matchingSchemes text ↔
      (∃ found, report.results.lookup scheme = some (.signer found)) ∧
      ∃ x y, sig.key? (scheme.digest body) = some (.affine x y) ∧
        (Keccak.digest (Bytes.bigEndian 32 x ++ Bytes.bigEndian 32 y)).rtake 20 = account := by
  have haccount (x y : Nat) :
      Text.lowercase (Address.ofCoordinates x y) = Text.lowercase text ↔
        (Keccak.digest (Bytes.bigEndian 32 x ++ Bytes.bigEndian 32 y)).rtake 20 = account := by
    rw [Address.lowercase_ofCoordinates, Address.lowercase_of_sameLetters h, Address.plainText_inj,
      Address.accountOfKey_eq_rtake]
  obtain ⟨result, hresult, hlookup⟩ := lookup_results hreport scheme
  rw [mem_matchingSchemes_iff hreport, hresult, hlookup]
  simp only [Option.some.injEq, Except.ok.injEq]
  constructor
  · intro h
    obtain ⟨found, rfl, hcase⟩ := h
    obtain ⟨-, x, y, hkey, rfl⟩ := GuardianSignature.recoverAddress_eq_iff.mp hresult
    exact ⟨⟨_, rfl⟩, x, y, hkey, (haccount x y).mp hcase⟩
  · intro h
    obtain ⟨⟨found, rfl⟩, x, y, hkey, hdigest⟩ := h
    obtain ⟨hwell, -⟩ := GuardianSignature.recoverAddress_eq_iff.mp hresult
    have hfound := GuardianSignature.recoverAddress_eq_iff.mpr ⟨hwell, x, y, hkey, rfl⟩
    exact ⟨_, Except.ok.inj (hresult.symm.trans hfound), (haccount x y).mpr hdigest⟩

/-- **An address is that of one account.** Under any hash it has forty-two characters, which in lower
case are the digits of the account, so no other account has an address that differs at most in case.
In whichever case an account's address is given, the schemes that are found for it are those under
which the signer is recovered and the last twenty bytes of the hash of the recovered key are the
account, each once and in the order of the schemes. -/
theorem address_identifies_account {account : Bytes} (h : account.length = 20) :
    (∀ hash : Bytes, hash.length = 32 →
      (Address.textUnder hash account).length = 42 ∧
      Text.lowercase (Address.textUnder hash account) = "0x" ++ Bytes.hex account) ∧
    Address.checksum account = .ok (Address.textUnder (Address.checkHash account) account) ∧
    (∀ other hash hash' : Bytes, other.length = 20 → hash.length = 32 → hash'.length = 32 →
      (Text.lowercase (Address.textUnder hash account) =
        Text.lowercase (Address.textUnder hash' other) ↔ account = other)) ∧
    ∀ (sig : GuardianSignature) (body : Bytes),
      (Number.IsWritable sig.recoveryId → ∃ report, recoverSigner sig body = .ok report) ∧
      ∀ report, recoverSigner sig body = .ok report →
      (∀ text, Text.SameLetters text ("0x" ++ Bytes.hex account) → ∀ scheme,
        scheme ∈ report.matchingSchemes text ↔
          (∃ found, report.results.lookup scheme = some (.signer found)) ∧
          ∃ x y, sig.key? (scheme.digest body) = some (.affine x y) ∧
            (Keccak.digest (Bytes.bigEndian 32 x ++ Bytes.bigEndian 32 y)).rtake 20 = account) ∧
      ∀ text, (report.matchingSchemes text).Nodup ∧
        (report.matchingSchemes text).Sublist DigestScheme.all := by
  have hfits {account hash : Bytes} (h : account.length = 20) (hhash : hash.length = 32) :
      account.length ≤ hash.length := by
    omega
  refine ⟨?spelled, ?checked, ?apart, fun sig body => ⟨?reported, fun report hreport =>
    ⟨?matched, ?ordered⟩⟩⟩
  case spelled =>
    intro hash hhash
    rw [Address.length_textUnder (hfits h hhash), h]
    exact ⟨rfl, Address.lowercase_textUnder (hfits h hhash)⟩
  case checked => exact if_pos h
  case apart =>
    intro other hash hash' hother hhash hhash'
    rw [Address.lowercase_textUnder (hfits h hhash), Address.lowercase_textUnder (hfits hother hhash'),
      Address.plainText_inj]
  case reported =>
    intro hid
    exact exists_report _ (GuardianSignature.exists_recoverAddress hid)
  case matched =>
    intro text htext scheme
    exact mem_matchingSchemes_account_iff hreport htext
  case ordered =>
    intro text
    have hsublist : (report.matchingSchemes text).Sublist DigestScheme.all := by
      rw [← (report_spec hreport).1]
      exact matchingSchemes_sublist _ text
    have hall : DigestScheme.all.Nodup := by decide
    exact ⟨hall.sublist hsublist, hsublist⟩

section Sample

-- a hash and a point are computed to the end
set_option maxRecDepth 100000

/-- The account of the key that signs. -/
def sampleAccount : Bytes := Bytes.bigEndian 20 0x2b5ad5c4795c026514f8317c7a215e218dccd6cf

theorem publicKey_sample : Curve.publicKey sampleKey = .affine
    0xc6047f9441ed7d6d3045406e95c07cd85c778e4b8cef3ca7abac09b95c709ee5
    0x1ae168fea63dc339a3c58419466ceaeef7f632653266d0e1236431a950cfe52a := by decide +kernel

theorem account_sample : (Keccak.digest
    (Bytes.bigEndian 32 0xc6047f9441ed7d6d3045406e95c07cd85c778e4b8cef3ca7abac09b95c709ee5 ++
      Bytes.bigEndian 32 0x1ae168fea63dc339a3c58419466ceaeef7f632653266d0e1236431a950cfe52a)).rtake
        20 = sampleAccount := by decide +kernel

/-- A signature of the empty body is found by the address of its key's account, given in capitals. -/
theorem address_identifies_account_sample :
    sampleAccount.length = 20 ∧ ∃ report,
      recoverSigner (signatureOf sampleDigest sampleKey 7) [] = .ok report ∧
      .doubleKeccak ∈ report.matchingSchemes "0X2B5AD5C4795C026514F8317C7A215E218DCCD6CF" := by
  have hlength : sampleAccount.length = 20 := Bytes.length_bigEndian ..
  have hletters : Text.SameLetters "0X2B5AD5C4795C026514F8317C7A215E218DCCD6CF"
      ("0x" ++ Bytes.hex sampleAccount) := by
    unfold Text.SameLetters
    decide
  have hkey := key?_signatureOf recoverable_sample 7
  rw [publicKey_sample] at hkey
  have hid : Number.IsWritable (signatureOf sampleDigest sampleKey 7).recoveryId :=
    Number.isWritable_of_lt_byte (Nat.lt_of_lt_of_le (Curve.parity_lt_two _ _) (by decide))
  obtain ⟨-, -, -, hreports⟩ := address_identifies_account hlength
  obtain ⟨hreported, hspec⟩ := hreports (signatureOf sampleDigest sampleKey 7) []
  obtain ⟨report, hreport⟩ := hreported hid
  obtain ⟨result, hresult, hlookup⟩ := lookup_results hreport .doubleKeccak
  rw [digest_sample, recoverAddress_signatureOf recoverable_sample] at hresult
  cases hresult
  obtain ⟨hmatched, -⟩ := hspec report hreport
  refine ⟨hlength, report, hreport,
    (hmatched _ hletters _).mpr ⟨⟨_, hlookup⟩, _, _, ?_, account_sample⟩⟩
  rw [digest_sample]
  exact hkey

end Sample

end Attestation

end TokenBridge
