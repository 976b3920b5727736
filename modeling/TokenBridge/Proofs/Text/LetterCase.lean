import TokenBridge.Text.Lowercase

/-!
# The letter case of plain text

Lower case follows Unicode, where a letter may have a small form of two characters or one that
depends on its neighbours. Plain text has none of these letters: **each of its characters goes to a
small letter by itself** (`lowercase_of_isPlain`), so texts of the same letters have the same lower
case, in whichever case the letters are given (`SameLetters.lowercase_eq`).

Of texts of any letters it is true that **a lower-case form is its own** (`lowercase_lowercase`): no
small letter is a capital again, and what stands around it has no say any more.
-/

namespace TokenBridge.Text

/-- Every character is an ASCII character. -/
def IsPlain (text : String) : Prop := ∀ c ∈ text.toList, c.toNat < 0x80

/-- The texts differ at most in which of their letters are capitals. -/
def SameLetters (a b : String) : Prop := a.toList.map Char.toLower = b.toList.map Char.toLower

theorem toLower_lt_iff {c : Char} : c.toLower.toNat < 0x80 ↔ c.toNat < 0x80 := by
  unfold Char.toLower
  split
  · rename_i h
    have hle : c.val.toNat ≤ 0x5a := UInt32.le_iff_toNat_le.mp h.2
    have hsum : (c.val + ('a'.val - 'A'.val)).toNat = (c.val.toNat + 32) % 2 ^ 32 :=
      UInt32.toNat_add ..
    show (c.val + ('a'.val - 'A'.val)).toNat < 0x80 ↔ c.val.toNat < 0x80
    omega
  · exact Iff.rfl

theorem lowerFrom_of_isPlain {cs : List Char} :
    ∀ {before : List Char}, (∀ c ∈ cs, c.toNat < 0x80) → lowerFrom before cs = cs.map Char.toLower := by
  induction cs with
  | nil => intro before _; rfl
  | cons c cs ih =>
    intro before h
    obtain ⟨hc, hcs⟩ := List.forall_mem_cons.mp h
    -- neither of the letters that are treated apart is plain
    have hsigma : c ≠ 'Σ' := fun he => absurd hc (by rw [he]; decide)
    have hdotted : c ≠ '\u0130' := fun he => absurd hc (by rw [he]; decide)
    rw [lowerFrom, ih hcs, if_neg hsigma, if_neg hdotted, lowerChar, if_pos hc]
    rfl

/-- **The lower case of plain text is that of its characters.** -/
theorem lowercase_of_isPlain {text : String} (h : IsPlain text) :
    lowercase text = String.ofList (text.toList.map Char.toLower) := by
  rw [lowercase, lowerFrom_of_isPlain h]

namespace SameLetters

variable {a b : String}

theorem isPlain (h : SameLetters a b) (hb : IsPlain b) : IsPlain a := by
  intro c hc
  have hmem : c.toLower ∈ b.toList.map Char.toLower := by
    rw [← h]
    exact List.mem_map_of_mem hc
  obtain ⟨d, hd, heq⟩ := List.mem_map.mp hmem
  rw [← toLower_lt_iff, ← heq, toLower_lt_iff]
  exact hb d hd

theorem lowercase_eq (h : SameLetters a b) (hb : IsPlain b) : lowercase a = lowercase b := by
  rw [lowercase_of_isPlain (h.isPlain hb), lowercase_of_isPlain hb]
  exact congrArg String.ofList h

end SameLetters

/-! ## Lower case twice -/

/-- A character that lower-casing leaves alone, whatever stands around it. -/
structure IsSmall (c : Char) : Prop where
  not_sigma : c ≠ 'Σ'
  not_dotted : c ≠ '\u0130'
  lowerChar_eq : lowerChar c = c

theorem lowerFrom_of_isSmall {cs : List Char} :
    ∀ {before : List Char}, (∀ c ∈ cs, IsSmall c) → lowerFrom before cs = cs := by
  induction cs with
  | nil => intro before _; rfl
  | cons c cs ih =>
    intro before h
    obtain ⟨hc, hcs⟩ := List.forall_mem_cons.mp h
    rw [lowerFrom, ih hcs, if_neg hc.not_sigma, if_neg hc.not_dotted, hc.lowerChar_eq]
    rfl

namespace CapitalRun

variable {run other : CapitalRun} {c d : Char}

/-- The first and the last small letter of a run. -/
def smallFirst (run : CapitalRun) : Nat := (run.first + run.shift).toNat

def smallLast (run : CapitalRun) : Nat := (run.last + run.shift).toNat

/-- The small letters of a run are characters. -/
def lands (run : CapitalRun) : Bool :=
  decide (-run.shift ≤ run.first) && (run.smallLast.blt 0xd800 ||
    Nat.blt 0xdfff run.smallFirst && run.smallLast.blt 0x110000)

/-- The small letters of a run are beside another run, or fall between its capitals. -/
def misses (run other : CapitalRun) : Bool :=
  run.smallLast.blt other.first || other.last.blt run.smallFirst ||
    other.step == 2 && (run.step == 2 || run.first == run.last) &&
      (run.smallFirst - other.first) % 2 == 1

theorem holds_iff : run.holds c = true ↔
    run.first ≤ c.toNat ∧ c.toNat ≤ run.last ∧ (c.toNat - run.first) % run.step = 0 := by
  simp [holds, and_assoc]

theorem toNat_small (hrun : run.lands = true) (hc : run.holds c = true) :
    ((Char.ofNat (c.toNat + run.shift).toNat).toNat : Int) = c.toNat + run.shift := by
  obtain ⟨hfirst, hlast, -⟩ := holds_iff.mp hc
  simp only [lands, smallFirst, smallLast, Bool.and_eq_true, Bool.or_eq_true, decide_eq_true_eq,
    Nat.blt_eq] at hrun
  obtain ⟨hlow, hhigh⟩ := hrun
  have hvalid : (c.toNat + run.shift).toNat.isValidChar := by
    unfold Nat.isValidChar
    omega
  have hscalar : (Char.ofNat (c.toNat + run.shift).toNat).toNat = (c.toNat + run.shift).toNat := by
    unfold Char.ofNat
    rw [dif_pos hvalid]
    rfl
  omega

theorem not_holds_of_misses (hrun : run.lands = true) (h : run.misses other = true)
    (hc : run.holds c = true) (hd : (d.toNat : Int) = c.toNat + run.shift) :
    other.holds d = false := by
  have hlow : -run.shift ≤ run.first := by
    simp only [lands, Bool.and_eq_true, decide_eq_true_eq] at hrun
    exact hrun.1
  simp only [misses, smallFirst, smallLast, Bool.and_eq_true, Bool.or_eq_true, beq_iff_eq,
    Nat.blt_eq, and_assoc, or_assoc] at h
  rw [← Bool.not_eq_true, holds_iff]
  intro hother
  obtain ⟨hfirst, hlast, hstep⟩ := holds_iff.mp hc
  obtain ⟨hfirst', hlast', hstep'⟩ := hother
  rcases h with h | h | ⟨htwo, hown, hodd⟩
  · omega
  · omega
  · rw [htwo] at hstep'
    rcases hown with hown | hown
    · rw [hown] at hstep
      omega
    · omega

end CapitalRun

/-- The small letters of every run are characters, no capitals, and none is the dotted capital. -/
theorem misses_capitalRuns {run : CapitalRun} (h : run ∈ capitalRuns) :
    run.lands = true ∧ run.misses ⟨0x130, 0x130, 1, 0⟩ = true ∧
      ∀ other ∈ capitalRuns, run.misses other = true := by
  have hall : (capitalRuns.all fun run => run.lands && run.misses ⟨0x130, 0x130, 1, 0⟩ &&
      capitalRuns.all run.misses) = true := by decide +kernel
  have hrun := List.all_eq_true.mp hall run h
  simp only [Bool.and_eq_true, and_assoc] at hrun
  exact ⟨hrun.1, hrun.2.1, List.all_eq_true.mp hrun.2.2⟩

theorem capital_sigma : ∃ run ∈ capitalRuns, run.holds 'Σ' = true := by decide +kernel

/-- A character that no run holds and that is not dotted is left alone. -/
theorem isSmall_of_not_holds {c : Char} (h : ∀ run ∈ capitalRuns, run.holds c = false)
    (hdotted : c ≠ '\u0130') : IsSmall c := by
  refine ⟨?_, hdotted, ?_⟩
  · intro hsigma
    obtain ⟨run, hrun, hheld⟩ := capital_sigma
    rw [← hsigma, h run hrun] at hheld
    cases hheld
  · unfold lowerChar
    split
    · have hascii : (⟨0x41, 0x5a, 1, 32⟩ : CapitalRun).holds c = false := h _ List.mem_cons_self
      unfold Char.toLower
      split
      · rename_i hcapital
        have hlow : 0x41 ≤ c.val.toNat := UInt32.le_iff_toNat_le.mp hcapital.1
        have hhigh : c.val.toNat ≤ 0x5a := UInt32.le_iff_toNat_le.mp hcapital.2
        rw [← Bool.not_eq_true, CapitalRun.holds_iff] at hascii
        exact absurd ⟨hlow, hhigh, Nat.mod_one _⟩ hascii
      · rfl
    · have hnone : capitalRuns.find? (·.holds c) = none := by
        refine List.find?_eq_none.mpr fun run hrun => ?_
        rw [h run hrun]
        exact Bool.false_ne_true
      rw [hnone]

/-- The letters of ASCII are in a run of their own, so that no character is treated apart. -/
theorem lowerChar_eq_of_runs (c : Char) : lowerChar c = match capitalRuns.find? (·.holds c) with
    | some run => Char.ofNat (c.toNat + run.shift).toNat
    | none => c := by
  have hascii : ∀ n < 0x80, (Char.ofNat n).toLower =
      match capitalRuns.find? (·.holds (Char.ofNat n)) with
      | some run => Char.ofNat ((Char.ofNat n).toNat + run.shift).toNat
      | none => Char.ofNat n := by decide +kernel
  unfold lowerChar
  split
  · rename_i hc
    have hchar := hascii c.toNat hc
    rwa [Char.ofNat_toNat] at hchar
  · rfl

theorem isSmall_lowerChar {c : Char} (hdotted : c ≠ '\u0130') : IsSmall (lowerChar c) := by
  rw [lowerChar_eq_of_runs]
  cases hfound : capitalRuns.find? (·.holds c) with
  | none =>
    refine isSmall_of_not_holds (fun run hrun => ?_) hdotted
    simpa using List.find?_eq_none.mp hfound run hrun
  | some run =>
    obtain ⟨hlands, hmissesDotted, hmisses⟩ :=
      misses_capitalRuns (List.mem_of_find?_eq_some hfound)
    have hheld : run.holds c = true :=
      List.find?_some (p := fun run : CapitalRun => run.holds c) hfound
    have hsmall := CapitalRun.toNat_small hlands hheld
    refine isSmall_of_not_holds (fun other hother => ?_) ?_
    · exact CapitalRun.not_holds_of_misses hlands (hmisses other hother) hheld hsmall
    · intro hdot
      have hnot := CapitalRun.not_holds_of_misses hlands hmissesDotted hheld hsmall
      dsimp only at hdot
      rw [hdot] at hnot
      exact absurd hnot (by decide)

theorem isSmall_lowerFrom {cs : List Char} :
    ∀ {before : List Char}, ∀ c ∈ lowerFrom before cs, IsSmall c := by
  have hsmall (c : Char) (h : lowerChar c = c) (hsigma : c ≠ 'Σ') (hdotted : c ≠ '\u0130') :
      IsSmall c := ⟨hsigma, hdotted, h⟩
  induction cs with
  | nil => intro before c hc; cases hc
  | cons first cs ih =>
    intro before c hc
    rw [lowerFrom] at hc
    rcases List.mem_append.mp hc with hc | hc
    · split at hc
      · -- either small sigma
        rw [List.mem_singleton] at hc
        subst hc
        split
        · exact hsmall _ (by decide +kernel) (by decide) (by decide)
        · exact hsmall _ (by decide +kernel) (by decide) (by decide)
      · split at hc
        · rcases List.mem_cons.mp hc with rfl | hc
          · exact hsmall _ (by decide +kernel) (by decide) (by decide)
          · rw [List.mem_singleton] at hc
            subst hc
            exact hsmall _ (by decide +kernel) (by decide) (by decide)
        · rename_i hdotted
          rw [List.mem_singleton] at hc
          subst hc
          exact isSmall_lowerChar hdotted
    · exact ih c hc

/-- **A lower-case form is its own.** -/
theorem lowercase_lowercase (text : String) : lowercase (lowercase text) = lowercase text := by
  unfold lowercase
  rw [String.toList_ofList, lowerFrom_of_isSmall isSmall_lowerFrom]

end TokenBridge.Text
