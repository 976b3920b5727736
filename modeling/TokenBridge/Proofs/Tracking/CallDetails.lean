import TokenBridge.Proofs.Tracking.Answers

/-!
# What the details of a call say

The Axelar network words what it knows of a call in a number of ways: its status in words that the
library may have others for, and its error as a text, as a map with a message, or as a map with
another error inside it. The relations of this file say which status the details have and what went
wrong by them, case by case and without the program that finds it out; and **each of them is what the
program finds** (`hasStatus_iff`, `hasMessage_iff`, `wentWrong_iff`), so that details say one thing
only. The record of a call is put together from the two (`HasRecord`).
-/

namespace TokenBridge.Tracking.Axelar

/-! ## Statuses -/

/-- The statuses that the network words in one way and the library in another. -/
def rewordings : List (String × String) :=
  [("executed", "destination_executed"), ("approved", "destination_gateway_approved"),
    ("called", "source_gateway_called")]

/-- The status of a call by its details: what they say in the wording of the library, and the empty
text where they say nothing or something that counts as false. -/
inductive HasStatus (details : Details) : String → Prop
  | reworded {said status : String} : details.lookup "status" = some (.text said) →
      (said, status) ∈ rewordings → HasStatus details status
  | said {v : Value} : details.lookup "status" = some v → v.truthy = true →
      (∀ rewording ∈ rewordings, v ≠ .text rewording.1) → HasStatus details v.plainText
  | none : ¬ HasTruthy details "status" → HasStatus details ""

variable {details : Details}

theorem reworded?_eq {said : String} : ((reworded? details said).map CallStatus.text).getD said =
    (rewordings.lookup said).getD said := by
  unfold reworded?
  by_cases herror : said = "error" ∧ (member details "error").truthy = true
  · rw [if_pos herror, herror.1]
    rfl
  rw [if_neg herror]
  by_cases hexecuted : said = "executed"
  · rw [if_pos hexecuted, hexecuted]
    rfl
  rw [if_neg hexecuted]
  by_cases happroved : said = "approved"
  · rw [if_pos happroved, happroved]
    rfl
  rw [if_neg happroved]
  by_cases hcalled : said = "called"
  · rw [if_pos hcalled, hcalled]
    rfl
  rw [if_neg hcalled]
  have hkept : rewordings.lookup said = none := by
    simp only [rewordings, List.lookup_cons, beq_eq_false_iff_ne.mpr hexecuted,
      beq_eq_false_iff_ne.mpr happroved, beq_eq_false_iff_ne.mpr hcalled, List.lookup_nil]
  rw [hkept]
  by_cases hexecuting : said = "executing"
  · rw [if_pos hexecuting, hexecuting]
    rfl
  · rw [if_neg hexecuting]
    rfl

theorem lookup_rewordings {said status : String} (h : (said, status) ∈ rewordings) :
    rewordings.lookup said = some status := by
  have hall : ∀ rewording ∈ rewordings, rewordings.lookup rewording.1 = some rewording.2 := by
    decide
  exact hall _ h

theorem statusOf_reworded {said status : String}
    (hsaid : details.lookup "status" = some (.text said)) (hmem : (said, status) ∈ rewordings) :
    statusOf details = status := by
  rw [statusOf, member, hsaid, Option.getD_some]
  dsimp only
  rw [reworded?_eq, lookup_rewordings hmem]
  rfl

theorem statusOf_said {v : Value} (hv : details.lookup "status" = some v)
    (htruthy : v.truthy = true) (hkept : ∀ rewording ∈ rewordings, v ≠ .text rewording.1) :
    statusOf details = v.plainText := by
  rw [statusOf, member, hv, Option.getD_some]
  split
  · rename_i said
    have hnone : rewordings.lookup said = none := by
      rw [List.lookup_eq_none_iff]
      intro rewording hmem
      exact bne_iff_ne.mpr fun heq => hkept rewording hmem (congrArg Value.text heq)
    rw [reworded?_eq, hnone]
    rfl
  · rw [if_pos htruthy]

theorem statusOf_none (hnone : ¬ HasTruthy details "status") : statusOf details = "" := by
  have hfalsy : ¬ (member details "status").truthy = true := mt truthy_member_iff.mp hnone
  unfold statusOf
  split
  · rename_i said hsaid
    rw [hsaid] at hfalsy
    have hempty : said = "" := by simpa [Value.truthy] using hfalsy
    rw [reworded?_eq, hempty]
    rfl
  · rw [if_neg hfalsy]

theorem hasStatus_iff {status : String} : HasStatus details status ↔ statusOf details = status := by
  constructor
  · intro h
    cases h with
    | reworded hsaid hmem => exact statusOf_reworded hsaid hmem
    | said hv htruthy hkept => exact statusOf_said hv htruthy hkept
    | none hnone => exact statusOf_none hnone
  · rintro rfl
    by_cases htruthy : HasTruthy details "status"
    · obtain ⟨v, hv, hvt⟩ := htruthy
      by_cases hmem : ∃ rewording ∈ rewordings, v = .text rewording.1
      · obtain ⟨rewording, hmem, rfl⟩ := hmem
        rw [statusOf_reworded hv hmem]
        exact .reworded hv hmem
      · have hkept : ∀ rewording ∈ rewordings, v ≠ .text rewording.1 :=
          fun rewording h heq => hmem ⟨rewording, h, heq⟩
        rw [statusOf_said hv hvt hkept]
        exact .said hv hvt hkept
    · rw [statusOf_none htruthy]
      exact .none htruthy

/-! ## Errors -/

/-- The message of an error inside another: a text that is not empty, or what a map has for one. -/
inductive HasInnerMessage (entries : Value.Entries) : String → Prop
  | text {s : String} : entries.lookup "error" = some (.text s) → s ≠ "" →
      HasInnerMessage entries s
  | map {inner : Value.Entries} {v : Value} : entries.lookup "error" = some (.map inner) →
      inner.lookup "message" = some v → v.truthy = true → HasInnerMessage entries v.plainText

/-- The message of an error: a text is its own, a map has that of the error inside it or else one of
its own, and all others are errors without a message. -/
inductive HasMessage : Value → String → Prop
  | text {s : String} : HasMessage (.text s) s
  | inner {entries : Value.Entries} {message : String} : HasInnerMessage entries message →
      HasMessage (.map entries) message
  | own {entries : Value.Entries} {v : Value} : (∀ message, ¬ HasInnerMessage entries message) →
      entries.lookup "message" = some v → v.truthy = true → HasMessage (.map entries) v.plainText
  | silent {entries : Value.Entries} : (∀ message, ¬ HasInnerMessage entries message) →
      ¬ HasTruthy entries "message" → HasMessage (.map entries) "unknown error"
  | other {v : Value} : (∀ s, v ≠ .text s) → (∀ entries, v ≠ .map entries) →
      HasMessage v "unknown error"

theorem messageIn_eq_some_iff {entries : Value.Entries} {message : String} :
    messageIn entries = some message ↔
      ∃ v, entries.lookup "message" = some v ∧ v.truthy = true ∧ v.plainText = message := by
  unfold messageIn
  constructor
  · intro h
    split at h
    · rename_i htruthy
      obtain ⟨v, hv, hvt⟩ := truthy_member_iff.mp htruthy
      rw [member, hv, Option.getD_some] at h
      exact ⟨v, hv, hvt, Option.some.inj h⟩
    · cases h
  · rintro ⟨v, hv, hvt, rfl⟩
    rw [if_pos (truthy_member_iff.mpr ⟨v, hv, hvt⟩), member, hv, Option.getD_some]

theorem messageIn_eq_none_iff {entries : Value.Entries} :
    messageIn entries = none ↔ ¬ HasTruthy entries "message" := by
  rw [← truthy_member_iff, messageIn]
  split
  · rename_i htruthy
    simp [htruthy]
  · rename_i hfalsy
    simp [hfalsy]

theorem hasInnerMessage_iff {entries : Value.Entries} {message : String} :
    HasInnerMessage entries message ↔ innerMessage? (member entries "error") = some message := by
  constructor
  · intro h
    cases h with
    | text hs hne =>
      rw [member, hs, Option.getD_some]
      exact if_neg (by simpa using hne)
    | map hinner hv hvt =>
      rw [member, hinner, Option.getD_some]
      exact messageIn_eq_some_iff.mpr ⟨_, hv, hvt, rfl⟩
  · intro h
    cases herror : entries.lookup "error" with
    | none =>
      rw [member, herror] at h
      cases h
    | some error =>
      rw [member, herror, Option.getD_some] at h
      cases error with
      | text s =>
        simp only [innerMessage?] at h
        split at h
        · cases h
        · rename_i hne
          cases h
          exact .text herror (by simpa using hne)
      | map inner =>
        obtain ⟨v, hv, hvt, rfl⟩ := messageIn_eq_some_iff.mp h
        exact .map herror hv hvt
      | _ => cases h

theorem innerMessage?_eq_none_iff {entries : Value.Entries} :
    innerMessage? (member entries "error") = none ↔
      ∀ message, ¬ HasInnerMessage entries message := by
  simp only [Option.eq_none_iff_forall_ne_some, hasInnerMessage_iff, ne_eq]

theorem hasMessage_iff {v : Value} {message : String} :
    HasMessage v message ↔ errorMessage v = message := by
  constructor
  · intro h
    cases h with
    | text => rfl
    | inner h =>
      rw [errorMessage, hasInnerMessage_iff.mp h]
      rfl
    | own hinner hv hvt =>
      rw [errorMessage, innerMessage?_eq_none_iff.mpr hinner,
        messageIn_eq_some_iff.mpr ⟨_, hv, hvt, rfl⟩]
      rfl
    | silent hinner hmessage =>
      rw [errorMessage, innerMessage?_eq_none_iff.mpr hinner, messageIn_eq_none_iff.mpr hmessage]
      rfl
    | other htext hmap =>
      cases v with
      | text s => exact absurd rfl (htext s)
      | map entries => exact absurd rfl (hmap entries)
      | _ => rfl
  · rintro rfl
    cases v with
    | text s => exact .text
    | map entries =>
      rw [errorMessage]
      cases hinner : innerMessage? (member entries "error") with
      | some message => exact .inner (hasInnerMessage_iff.mpr hinner)
      | none =>
        have hno := innerMessage?_eq_none_iff.mp hinner
        cases hmessage : messageIn entries with
        | some message =>
          obtain ⟨v, hv, hvt, rfl⟩ := messageIn_eq_some_iff.mp hmessage
          exact .own hno hv hvt
        | none => exact .silent hno (messageIn_eq_none_iff.mp hmessage)
    | _ => exact .other nofun nofun

/-- What went wrong with a call by its details. -/
inductive WentWrong (details : Details) : String → Prop
  | error {v : Value} {message : String} : details.lookup "error" = some v → v.truthy = true →
      HasMessage v message → WentWrong details message
  | fee : ¬ HasTruthy details "error" → HasTruthy details "is_insufficient_fee" →
      WentWrong details "Insufficient gas"

theorem wentWrong_iff {message : String} :
    WentWrong details message ↔ ∃ error, errorOf? details = some error ∧ error.message = message := by
  constructor
  · intro h
    cases h with
    | error hv hvt hmessage =>
      have herror : (member details "error").truthy = true :=
        truthy_member_iff.mpr ⟨_, hv, hvt⟩
      refine ⟨_, if_pos herror, ?_⟩
      rw [member, hv, Option.getD_some]
      exact hasMessage_iff.mp hmessage
    | fee hnone hfee =>
      rw [← truthy_member_iff] at hnone hfee
      exact ⟨_, (if_neg hnone).trans (if_pos hfee), rfl⟩
  · intro h
    obtain ⟨error, herror, rfl⟩ := h
    unfold errorOf? at herror
    by_cases hsome : (member details "error").truthy = true
    · obtain ⟨v, hv, hvt⟩ := truthy_member_iff.mp hsome
      have hmember : member details "error" = v := by simp [member, hv]
      simp only [hsome, if_true, Option.some.injEq] at herror
      rw [← herror, hmember]
      exact .error hv hvt (hasMessage_iff.mpr rfl)
    · by_cases hfee : (member details "is_insufficient_fee").truthy = true
      · simp only [hsome, hfee, if_true] at herror
        cases herror
        exact .fee (mt truthy_member_iff.mpr hsome) (truthy_member_iff.mp hfee)
      · simp only [hsome, hfee] at herror
        cases herror

/-! ## Records -/

/-- The record of a call whose transaction has this page: the status and, if something went wrong,
what it was and where the page is. -/
inductive HasRecord (details : Details) (page : String) : StatusRecord → Prop
  | healthy {said : String} : (∀ message, ¬ WentWrong details message) → HasStatus details said →
      HasRecord details page ⟨.text said, .bool false, .null, .null, .null⟩
  | failed {said message : String} : WentWrong details message → HasStatus details said →
      HasRecord details page
        ⟨.text said, .bool true, .text ("Axelar error: " ++ message), .text page, .text "Axelarscan"⟩

theorem exists_hasRecord (details : Details) {explorers : Config.Table} {query : Query}
    {page : String}
    (hpage : explorerUrl explorers query.network query.tx = .ok page) :
    ∃ record, HasRecord details page record ∧ recordOf explorers query details = .ok record := by
  refine ⟨_, ?_, recordOf_of_page hpage⟩
  have hstatus : HasStatus details (statusOf details) := hasStatus_iff.mpr rfl
  cases herror : errorOf? details with
  | none =>
    refine .healthy (fun message hwrong => ?_) hstatus
    obtain ⟨error, hsome, -⟩ := wentWrong_iff.mp hwrong
    rw [herror] at hsome
    cases hsome
  | some error => exact .failed (wentWrong_iff.mpr ⟨error, herror, rfl⟩) hstatus

end TokenBridge.Tracking.Axelar
