import TokenBridge.Attestation.Digest

/-!
# What a signature is for

A signature is made of a hash, so it is for whatever has that hash. What is hashed of a message is
its marker, its length and the message, and where the length ends and the message begins is not
marked: the length `1` before a message that begins with the digit `0` looks like the length `10`.
Two messages are told apart all the same, since **a longer message has a longer preimage**
(`length_personalPreimage_lt`), and messages of one length have their lengths in the same bytes.

So nothing but the hash itself can mix up two messages, two bodies, or a body signed one way and a
body signed the other. Each statement about equal digests is an equivalence that names the two byte
strings which would have one hash (`Keccak.Collide`): that there are such byte strings at all is
true of every hash, and says nothing; that these would be two of them does.
-/

namespace TokenBridge

namespace Keccak

/-- The byte strings differ, and have the same hash. -/
def Collide (a b : Bytes) : Prop := a ≠ b ∧ digest a = digest b

/-- Equal hashes come from equal byte strings or from a collision. -/
theorem digest_eq_iff {a b : Bytes} : digest a = digest b ↔ a = b ∨ Collide a b := by
  constructor
  · intro h
    by_cases heq : a = b
    · exact Or.inl heq
    · exact Or.inr ⟨heq, h⟩
  · intro h
    rcases h with rfl | h
    · rfl
    · exact h.2

end Keccak

namespace Attestation

/-! ## Personal messages -/

/-- Greater numbers have no fewer digits. -/
theorem length_decimalText_le {m n : Nat} (h : m ≤ n) :
    (decimalText m).length ≤ (decimalText n).length := by
  have hpos : 0 < (Nat.toDigits 10 n).length := Nat.length_toDigits_pos
  have hbound : n < 10 ^ (Nat.toDigits 10 n).length :=
    (Nat.length_toDigits_le_iff (by decide) hpos).mp (Nat.le_refl _)
  rw [decimalText, decimalText, List.length_map, List.length_map]
  exact (Nat.length_toDigits_le_iff (by decide) hpos).mpr (Nat.lt_of_le_of_lt h hbound)

theorem length_personalPreimage (message : Bytes) : (personalPreimage message).length =
    personalMarker.length + (decimalText message.length).length + message.length := by
  rw [personalPreimage, List.length_append, List.length_append]

/-- **A longer message has a longer preimage.** -/
theorem length_personalPreimage_lt {message other : Bytes} (h : message.length < other.length) :
    (personalPreimage message).length < (personalPreimage other).length := by
  have hdigits := length_decimalText_le (Nat.le_of_lt h)
  rw [length_personalPreimage, length_personalPreimage]
  omega

/-- **The preimage of a message is that of no other.** -/
theorem personalPreimage_inj {message other : Bytes} :
    personalPreimage message = personalPreimage other ↔ message = other := by
  constructor
  · intro h
    have hsame : (personalPreimage message).length = (personalPreimage other).length :=
      congrArg List.length h
    have hlength : message.length = other.length := by
      rcases Nat.lt_trichotomy message.length other.length with hlt | heq | hgt
      · have := length_personalPreimage_lt hlt
        omega
      · exact heq
      · have := length_personalPreimage_lt hgt
        omega
    rw [personalPreimage, personalPreimage, hlength] at h
    exact List.append_cancel_left h
  · intro h
    rw [h]

theorem personalHash_eq_iff {message other : Bytes} : personalHash message = personalHash other ↔
    message = other ∨ Keccak.Collide (personalPreimage message) (personalPreimage other) := by
  rw [personalHash, personalHash, Keccak.digest_eq_iff, personalPreimage_inj]

/-! ## Bodies -/

namespace DigestScheme

variable {scheme other : DigestScheme} {body body' : Bytes}

/-- What is hashed of a body at last. -/
def preimage (scheme : DigestScheme) (body : Bytes) : Bytes :=
  match scheme with
  | .doubleKeccak => Keccak.digest body
  | .ethSigned => personalPreimage (Keccak.digest body)

theorem digest_eq (scheme : DigestScheme) (body : Bytes) :
    scheme.digest body = Keccak.digest (scheme.preimage body) := by
  cases scheme with
  | doubleKeccak => rfl
  | ethSigned => rfl

/-- A personal message is longer than a hash. -/
theorem digest_ne_personalPreimage : Keccak.digest body ≠ personalPreimage (Keccak.digest body') := by
  intro h
  have hlength := congrArg List.length h
  have hmarker : personalMarker.length = 26 := by decide
  rw [length_personalPreimage, Keccak.length_digest, Keccak.length_digest, hmarker] at hlength
  omega

/-- **What is hashed at last tells the schemes apart**, and the hashes of the bodies. -/
theorem preimage_eq_iff : scheme.preimage body = other.preimage body' ↔
    scheme = other ∧ Keccak.digest body = Keccak.digest body' := by
  cases scheme with
  | doubleKeccak =>
    cases other with
    | doubleKeccak => simp [preimage]
    | ethSigned => simp [preimage, digest_ne_personalPreimage]
  | ethSigned =>
    cases other with
    | doubleKeccak => simp [preimage, digest_ne_personalPreimage.symm]
    | ethSigned => simp [preimage, personalPreimage_inj]

/-- The byte strings that collide when the bodies have one digest: the bodies themselves, or else what
is hashed of them at last. -/
def suspects (scheme : DigestScheme) (body : Bytes) (other : DigestScheme) (body' : Bytes) :
    Bytes × Bytes :=
  if scheme.preimage body = other.preimage body' then (body, body')
  else (scheme.preimage body, other.preimage body')

theorem digest_eq_iff : scheme.digest body = other.digest body' ↔
    (scheme = other ∧ body = body') ∨
      Keccak.Collide (suspects scheme body other body').1 (suspects scheme body other body').2 := by
  rw [digest_eq, digest_eq, suspects]
  split
  · rename_i hpreimage
    obtain ⟨hscheme, hbody⟩ := preimage_eq_iff.mp hpreimage
    rw [hpreimage, eq_self, true_iff]
    rcases Keccak.digest_eq_iff.mp hbody with heq | hcollide
    · exact Or.inl ⟨hscheme, heq⟩
    · exact Or.inr hcollide
  · rename_i hpreimage
    rw [Keccak.digest_eq_iff]
    constructor
    · intro h
      rcases h with heq | hcollide
      · exact absurd heq hpreimage
      · exact Or.inr hcollide
    · intro h
      rcases h with ⟨rfl, rfl⟩ | hcollide
      · exact absurd rfl hpreimage
      · exact Or.inr hcollide

/-- A body signed one way and a body signed the other have one digest only by a collision. -/
theorem digest_across_iff : doubleKeccak.digest body = ethSigned.digest body' ↔
    Keccak.Collide (Keccak.digest body) (personalPreimage (Keccak.digest body')) := by
  rw [digest_eq, digest_eq, Keccak.digest_eq_iff]
  exact or_iff_right digest_ne_personalPreimage

end DigestScheme

/-- **Only a collision of the hash makes one signature be for two things.** Personal messages have one
hash, and bodies one digest, exactly if they are the same or if the byte strings that are named here
collide; between the two schemes it takes a collision in any case. -/
theorem signed_apart :
    (∀ message other, personalPreimage message = personalPreimage other ↔ message = other) ∧
    (∀ message other, personalHash message = personalHash other ↔
      message = other ∨ Keccak.Collide (personalPreimage message) (personalPreimage other)) ∧
    (∀ scheme body other body', DigestScheme.digest scheme body = DigestScheme.digest other body' ↔
      (scheme = other ∧ body = body') ∨
        Keccak.Collide (DigestScheme.suspects scheme body other body').1
          (DigestScheme.suspects scheme body other body').2) ∧
    ∀ body body', DigestScheme.doubleKeccak.digest body = DigestScheme.ethSigned.digest body' ↔
      Keccak.Collide (Keccak.digest body) (personalPreimage (Keccak.digest body')) :=
  ⟨fun _ _ => personalPreimage_inj, fun _ _ => personalHash_eq_iff,
    fun _ _ _ _ => DigestScheme.digest_eq_iff, fun _ _ => DigestScheme.digest_across_iff⟩

end Attestation

end TokenBridge
