import TokenBridge.HexText
import TokenBridge.Proofs.Outcome
import TokenBridge.Proofs.Text.LetterCase

/-!
# Hexadecimal text

The digits of a byte string are written in one way but read in many: a letter may be a capital, one
marker may stand in front, and white space may stand anywhere. `Spells` is what all of these have in
common, that the digits are those which are written once their letters are small.

**A text is read to the bytes that it spells behind at most one marker, white space aside**
(`parse_eq_ok_iff`), and every other text is refused. The marker is never taken for digits, nor
digits for a marker, because an `x` is no digit; so it is not looked for twice either.
-/

namespace TokenBridge

namespace HexText

/-! ## Digits -/

/-- The characters are the digits of the bytes, each letter in either case. -/
def Spells (digits : List Char) (data : Bytes) : Prop :=
  digits.map Char.toLower = data.flatMap Bytes.hexByte

instance {digits : List Char} {data : Bytes} : Decidable (Spells digits data) :=
  inferInstanceAs (Decidable (_ = _))

theorem hexDigit_lt {n : Nat} (h : n < 16) : (Bytes.hexDigit n).toNat < 0x80 := by
  have hall : ∀ n < 16, (Bytes.hexDigit n).toNat < 0x80 := by decide
  exact hall n h

theorem toLower_hexDigit {n : Nat} (h : n < 16) :
    (Bytes.hexDigit n).toLower = Bytes.hexDigit n := by
  have hall : ∀ n < 16, (Bytes.hexDigit n).toLower = Bytes.hexDigit n := by decide
  exact hall n h

/-- Beyond ASCII there are no digits. -/
theorem digit?_eq_none {c : Char} (h : 0x80 ≤ c.toNat) : digit? c = none := by
  have hbeyond : ∀ last : Char, last.toNat < 0x80 → ¬ c ≤ last := by
    intro last hlast hle
    have hle : c.toNat ≤ last.toNat := hle
    omega
  unfold digit?
  rw [if_neg fun hc => hbeyond '9' (by decide) hc.2, if_neg fun hc => hbeyond 'f' (by decide) hc.2,
    if_neg fun hc => hbeyond 'F' (by decide) hc.2]

/-- **A digit is read to the number that its small form writes.** -/
theorem digit?_eq_some_iff {c : Char} {n : Nat} :
    digit? c = some n ↔ n < 16 ∧ c.toLower = Bytes.hexDigit n := by
  by_cases hc : c.toNat < 0x80
  · have hplain : ∀ k < 0x80, (∀ n ∈ digit? (Char.ofNat k), n < 16) ∧
        ∀ n < 16, digit? (Char.ofNat k) = some n ↔ (Char.ofNat k).toLower = Bytes.hexDigit n := by
      decide +kernel
    obtain ⟨hlt, hdigit⟩ := hplain c.toNat hc
    rw [Char.ofNat_toNat] at hlt hdigit
    constructor
    · intro h
      exact ⟨hlt n h, (hdigit n (hlt n h)).mp h⟩
    · intro h
      exact (hdigit n h.1).mpr h.2
  · rw [digit?_eq_none (by omega)]
    constructor
    · intro h
      cases h
    · intro h
      have hsmall := hexDigit_lt h.1
      rw [← h.2, Text.toLower_lt_iff] at hsmall
      exact absurd hsmall hc

theorem halves_lt (byte : UInt8) : byte.toNat / 16 < 16 ∧ byte.toNat % 16 < 16 := by
  have := byte.toNat_lt
  omega

namespace Spells

variable {digits : List Char} {data : Bytes}

theorem nil_iff : Spells [] data ↔ data = [] := by
  cases data with
  | nil => simp [Spells]
  | cons byte data => simp [Spells, Bytes.hexByte]

/-- Two digits spell a byte. -/
theorem cons_cons_iff {a b : Char} : Spells (a :: b :: digits) data ↔
    ∃ byte rest, data = byte :: rest ∧ digit? a = some (byte.toNat / 16) ∧
      digit? b = some (byte.toNat % 16) ∧ Spells digits rest := by
  cases data with
  | nil => simp [Spells]
  | cons byte rest =>
    obtain ⟨hhigh, hlow⟩ := halves_lt byte
    simp [Spells, Bytes.hexByte, digit?_eq_some_iff, hhigh, hlow, and_assoc]

/-- The digits that are written of bytes spell them. -/
theorem written : ∀ {data : Bytes}, Spells (data.flatMap Bytes.hexByte) data
  | [] => nil_iff.mpr rfl
  | byte :: data => by
    obtain ⟨hhigh, hlow⟩ := halves_lt byte
    exact cons_cons_iff.mpr ⟨byte, data, rfl,
      digit?_eq_some_iff.mpr ⟨hhigh, toLower_hexDigit hhigh⟩,
      digit?_eq_some_iff.mpr ⟨hlow, toLower_hexDigit hlow⟩, written⟩

theorem length_eq (h : Spells digits data) : digits.length = 2 * data.length := by
  have hlength := congrArg List.length h
  rw [List.length_map] at hlength
  rw [hlength]
  clear h hlength
  induction data with
  | nil => rfl
  | cons byte data ih =>
    rw [List.flatMap_cons, List.length_append, ih, List.length_cons]
    simp only [Bytes.hexByte, List.length_cons, List.length_nil]
    omega

theorem isSome_digit? (h : Spells digits data) : ∀ c ∈ digits, (digit? c).isSome := by
  intro c hc
  have hmem : c.toLower ∈ data.flatMap Bytes.hexByte := by
    rw [← h]
    exact List.mem_map_of_mem hc
  obtain ⟨byte, -, hbyte⟩ := List.mem_flatMap.mp hmem
  obtain ⟨hhigh, hlow⟩ := halves_lt byte
  simp only [Bytes.hexByte, List.mem_cons, List.not_mem_nil, or_false] at hbyte
  rcases hbyte with hbyte | hbyte
  · rw [digit?_eq_some_iff.mpr ⟨hhigh, hbyte⟩]
    rfl
  · rw [digit?_eq_some_iff.mpr ⟨hlow, hbyte⟩]
    rfl

theorem isPlain (h : Spells digits data) : ∀ c ∈ digits, c.toNat < 0x80 := by
  intro c hc
  rcases Nat.lt_or_ge c.toNat 0x80 with hplain | hbeyond
  · exact hplain
  · have hdigit := h.isSome_digit? c hc
    rw [digit?_eq_none hbeyond] at hdigit
    cases hdigit

end Spells

/-- The digits of either case. -/
def allDigits : List Char := "0123456789abcdefABCDEF".toList

/-- The digits are plain, and none of them is white space. -/
theorem plain_of_mem_allDigits {c : Char} (h : c ∈ allDigits) :
    c.toNat < 0x80 ∧ Text.isBlank c = false := by
  have hall : (allDigits.all fun c => c.toNat < 0x80 && !Text.isBlank c) = true := by
    decide +kernel
  simpa using List.all_eq_true.mp hall c h

theorem isSome_digit?_iff {c : Char} : (digit? c).isSome ↔ c ∈ allDigits := by
  by_cases hc : c.toNat < 0x80
  · have hplain : ∀ k < 0x80, (digit? (Char.ofNat k)).isSome ↔ Char.ofNat k ∈ allDigits := by
      decide +kernel
    have hchar := hplain c.toNat hc
    rwa [Char.ofNat_toNat] at hchar
  · rw [digit?_eq_none (by omega)]
    constructor
    · intro h
      cases h
    · intro h
      exact absurd (plain_of_mem_allDigits h).1 hc

/-- The byte of two digits. -/
theorem ofNat_halves {high low : Nat} (hhigh : high < 16) (hlow : low < 16) :
    (UInt8.ofNat (16 * high + low)).toNat / 16 = high ∧
      (UInt8.ofNat (16 * high + low)).toNat % 16 = low := by
  rw [UInt8.toNat_ofNat']
  omega

theorem halves_eq (byte : UInt8) :
    UInt8.ofNat (16 * (byte.toNat / 16) + byte.toNat % 16) = byte := by
  rw [show 16 * (byte.toNat / 16) + byte.toNat % 16 = byte.toNat by omega, UInt8.ofNat_toNat]

/-- **Any digits spell bytes, if their number is even.** -/
theorem exists_spells_iff : ∀ {digits : List Char}, (∃ data, Spells digits data) ↔
    digits.length % 2 = 0 ∧ ∀ c ∈ digits, c ∈ allDigits
  | [] => by simp [Spells.nil_iff]
  | [a] => by
    constructor
    · intro h
      obtain ⟨data, h⟩ := h
      have hlength := h.length_eq
      rw [List.length_singleton] at hlength
      omega
    · intro h
      cases h.1
  | a :: b :: digits => by
    have ih := @exists_spells_iff digits
    simp only [Spells.cons_cons_iff, List.length_cons, List.forall_mem_cons,
      ← isSome_digit?_iff, Nat.add_assoc, Nat.add_mod_right]
    simp only [← isSome_digit?_iff] at ih
    constructor
    · intro h
      obtain ⟨data, byte, rest, rfl, ha, hb, h⟩ := h
      obtain ⟨heven, hdigits⟩ := ih.mp ⟨rest, h⟩
      rw [ha, hb]
      exact ⟨heven, rfl, rfl, hdigits⟩
    · intro h
      obtain ⟨heven, ha, hb, hdigits⟩ := h
      obtain ⟨rest, h⟩ := ih.mpr ⟨heven, hdigits⟩
      obtain ⟨high, ha⟩ := Option.isSome_iff_exists.mp ha
      obtain ⟨low, hb⟩ := Option.isSome_iff_exists.mp hb
      obtain ⟨hhigh, hlow⟩ :=
        ofNat_halves (digit?_eq_some_iff.mp ha).1 (digit?_eq_some_iff.mp hb).1
      refine ⟨_, UInt8.ofNat (16 * high + low), rest, rfl, ?_, ?_, h⟩
      · rw [hhigh]
        exact ha
      · rw [hlow]
        exact hb

/-! ## Reading digits -/

theorem readPairs_eq_ok_iff {position : Nat} {digits : List Char} :
    ∀ {data : Bytes}, readPairs position digits = .ok data ↔ Spells digits data := by
  fun_induction readPairs position digits with
  | case1 position =>
    intro data
    rw [Spells.nil_iff, Except.ok.injEq, eq_comm]
  | case2 position a =>
    intro data
    constructor
    · intro h
      cases h
    · intro h
      have hlength := h.length_eq
      rw [List.length_singleton] at hlength
      omega
  | case3 position a b rest ha =>
    intro data
    constructor
    · intro h
      cases h
    · intro h
      obtain ⟨byte, others, -, hhigh, -⟩ := Spells.cons_cons_iff.mp h
      rw [ha] at hhigh
      cases hhigh
  | case4 position a b rest hb =>
    intro data
    constructor
    · intro h
      cases h
    · intro h
      obtain ⟨byte, others, -, -, hlow, -⟩ := Spells.cons_cons_iff.mp h
      rw [hb] at hlow
      cases hlow
  | case5 position a b rest high low hb ha ih =>
    intro data
    rw [bind_eq_ok_iff, Spells.cons_cons_iff]
    constructor
    · intro h
      obtain ⟨others, hothers, h⟩ := h
      cases h
      obtain ⟨hhigh, hlow⟩ :=
        ofNat_halves (digit?_eq_some_iff.mp ha).1 (digit?_eq_some_iff.mp hb).1
      refine ⟨_, others, rfl, ?_, ?_, ih.mp hothers⟩
      · rw [hhigh]
        exact ha
      · rw [hlow]
        exact hb
    · intro h
      obtain ⟨byte, others, rfl, hhigh, hlow, hothers⟩ := h
      obtain rfl : high = byte.toNat / 16 := Option.some.inj (ha.symm.trans hhigh)
      obtain rfl : low = byte.toNat % 16 := Option.some.inj (hb.symm.trans hlow)
      exact ⟨others, ih.mpr hothers, by rw [halves_eq]⟩

/-- Digits spell no other bytes. -/
theorem Spells.unique {digits : List Char} {data other : Bytes} (h : Spells digits data)
    (ho : Spells digits other) : data = other := by
  have hread : readPairs 0 digits = .ok data := readPairs_eq_ok_iff.mpr h
  rw [readPairs_eq_ok_iff.mpr ho] at hread
  exact (Except.ok.inj hread).symm

theorem readDigits_eq_ok_iff {digits : List Char} {data : Bytes} :
    readDigits digits = .ok data ↔ Spells digits data := by
  unfold readDigits
  split
  · rename_i position hfound
    constructor
    · intro h
      cases h
    · intro h
      obtain ⟨hlt, hbeyond, -⟩ := List.findIdx?_eq_some_iff_getElem.mp hfound
      have hplain := h.isPlain _ (List.getElem_mem hlt)
      rw [decide_eq_true_eq] at hbeyond
      omega
  · exact readPairs_eq_ok_iff

/-! ## Markers and white space -/

/-- What may stand in front of the digits: nothing, or a zero and an `x` of either case. -/
def markers : List (List Char) := [[], ['0', 'x'], ['0', 'X']]

/-- The characters of a marker are plain, and none of them is white space. -/
theorem plain_of_mem_marker {marker : List Char} (h : marker ∈ markers) {c : Char}
    (hc : c ∈ marker) : c.toNat < 0x80 ∧ Text.isBlank c = false := by
  have hall : (markers.all fun marker => marker.all fun c =>
      c.toNat < 0x80 && !Text.isBlank c) = true := by decide +kernel
  simpa using List.all_eq_true.mp (List.all_eq_true.mp hall marker h) c hc

theorem exists_marker (cs : List Char) : ∃ marker ∈ markers, cs = marker ++ dropMarker cs := by
  unfold dropMarker
  split
  · exact ⟨['0', 'x'], by decide, rfl⟩
  · exact ⟨['0', 'X'], by decide, rfl⟩
  · exact ⟨[], by decide, rfl⟩

/-- Digits have no marker in front of them. -/
theorem Spells.dropMarker_eq {digits : List Char} {data : Bytes} (h : Spells digits data) :
    dropMarker digits = digits := by
  unfold dropMarker
  split
  · have := h.isSome_digit? 'x' (by simp)
    cases this
  · have := h.isSome_digit? 'X' (by simp)
    cases this
  · rfl

/-- **Digits are looked for behind a marker, if there is one, and else at once.** -/
theorem spells_dropMarker_iff {cs : List Char} {data : Bytes} : Spells (dropMarker cs) data ↔
    ∃ marker ∈ markers, ∃ digits, cs = marker ++ digits ∧ Spells digits data := by
  constructor
  · intro h
    obtain ⟨marker, hmarker, heq⟩ := exists_marker cs
    exact ⟨marker, hmarker, _, heq, h⟩
  · intro h
    obtain ⟨marker, hmarker, digits, rfl, h⟩ := h
    simp only [markers, List.mem_cons, List.not_mem_nil, or_false] at hmarker
    rcases hmarker with rfl | rfl | rfl
    · rw [List.nil_append, h.dropMarker_eq]
      exact h
    · exact h
    · exact h

/-- The text is the characters with white space put in anywhere. -/
inductive Spaced : List Char → List Char → Prop
  | nil : Spaced [] []
  | char {c : Char} {cs text : List Char} : Spaced cs text → Spaced (c :: cs) (c :: text)
  | blank {c : Char} {cs text : List Char} :
    Text.isBlank c = true → Spaced cs text → Spaced cs (c :: text)

theorem Spaced.clean_eq {cs text : List Char} (h : Spaced cs text) : clean text = clean cs := by
  induction h with
  | nil => rfl
  | char _ ih => simp only [clean, List.filter_cons] at ih ⊢; rw [ih]
  | blank hc _ ih => simp only [clean, List.filter_cons, hc] at ih ⊢; exact ih

/-- There is no white space in a marker and digits. -/
theorem Spells.clean_eq {marker digits : List Char} {data : Bytes} (hmarker : marker ∈ markers)
    (h : Spells digits data) : clean (marker ++ digits) = marker ++ digits := by
  unfold clean
  rw [List.filter_eq_self]
  intro c hc
  rcases List.mem_append.mp hc with hc | hc
  · rw [(plain_of_mem_marker hmarker hc).2]
    rfl
  · rw [(plain_of_mem_allDigits (isSome_digit?_iff.mp (h.isSome_digit? c hc))).2]
    rfl

/-! ## Reading texts -/

/-- The text is refused, with a violation of its form. -/
def Refused (text : String) : Prop :=
  ∃ fault, parse text = .error fault ∧ fault.kind = .schemaViolation

variable {text : String} {data : Bytes}

/-- **A text is read to the bytes that it spells behind at most one marker, white space aside.** -/
theorem parse_eq_ok_iff : parse text = .ok data ↔
    ∃ marker ∈ markers, ∃ digits, clean text.toList = marker ++ digits ∧ Spells digits data := by
  rw [parse, readDigits_eq_ok_iff, spells_dropMarker_iff]

theorem failsOnly_readPairs {position : Nat} {digits : List Char} :
    FailsOnly (fun fault => fault.kind = .schemaViolation) (readPairs position digits) := by
  fun_induction readPairs position digits with
  | case1 => exact failsOnly_ok
  | case2 | case3 | case4 => exact failsOnly_error rfl
  | case5 position a b rest high low hb ha ih =>
    apply failsOnly_bind ih
    intro others _
    exact failsOnly_ok

theorem refused_iff : Refused text ↔ ∀ data, parse text ≠ .ok data := by
  have hfails : FailsOnly (fun fault => fault.kind = .schemaViolation) (parse text) := by
    unfold parse readDigits
    split
    · exact failsOnly_error rfl
    · exact failsOnly_readPairs
  unfold Refused
  cases hparse : parse text with
  | ok data => simp
  | error fault => simpa using hfails fault hparse

theorem parse_of_spaced {marker digits : List Char} (hmarker : marker ∈ markers)
    (h : Spells digits data) (hspaced : Spaced (marker ++ digits) text.toList) :
    parse text = .ok data := by
  refine parse_eq_ok_iff.mpr ⟨marker, hmarker, digits, ?_, h⟩
  rw [hspaced.clean_eq, h.clean_eq hmarker]

/-- Only one marker is passed over, and the `x` of another is no digit. -/
theorem refused_of_two_markers {first second rest : List Char}
    (hfirst : first ∈ markers ∧ first ≠ []) (hsecond : second ∈ markers ∧ second ≠ [])
    (h : clean text.toList = first ++ second ++ rest) : Refused text := by
  have hletter : ∀ marker ∈ markers, marker ≠ [] →
      (marker.any fun x => (digit? x).isNone) = true := by decide
  have hdrop : dropMarker (first ++ (second ++ rest)) = second ++ rest := by
    obtain ⟨hmarker, hne⟩ := hfirst
    simp only [markers, List.mem_cons, List.not_mem_nil, or_false] at hmarker
    rcases hmarker with rfl | rfl | rfl
    · exact absurd rfl hne
    · rfl
    · rfl
  refine refused_iff.mpr fun data hparse => ?_
  rw [parse, h, List.append_assoc, hdrop, readDigits_eq_ok_iff] at hparse
  obtain ⟨x, hx, hnone⟩ := List.any_eq_true.mp (hletter second hsecond.1 hsecond.2)
  have hdigit := hparse.isSome_digit? x (List.mem_append_left _ hx)
  rw [Option.isNone_iff_eq_none.mp hnone] at hdigit
  cases hdigit

theorem refused_of_odd (h : (clean text.toList).length % 2 = 1) : Refused text := by
  refine refused_iff.mpr fun data hparse => ?_
  obtain ⟨marker, hmarker, digits, heq, hspells⟩ := parse_eq_ok_iff.mp hparse
  have heven : ∀ marker ∈ markers, marker.length % 2 = 0 := by decide
  have hmarkerLength := heven marker hmarker
  have hdigitsLength := hspells.length_eq
  rw [heq, List.length_append] at h
  omega

theorem refused_of_beyond {c : Char} (hc : c ∈ text.toList) (hblank : Text.isBlank c = false)
    (hbeyond : 0x80 ≤ c.toNat) : Refused text := by
  refine refused_iff.mpr fun data hparse => ?_
  obtain ⟨marker, hmarker, digits, heq, hspells⟩ := parse_eq_ok_iff.mp hparse
  have hmem : c ∈ clean text.toList := List.mem_filter.mpr ⟨hc, by rw [hblank]; rfl⟩
  rw [heq] at hmem
  rcases List.mem_append.mp hmem with hmem | hmem
  · have := (plain_of_mem_marker hmarker hmem).1
    omega
  · have := hspells.isPlain c hmem
    omega

/-- **The texts that are read are those that spell bytes**: an even number of digits of either case,
behind one marker or none, with white space anywhere. Their bytes are the ones that are spelled, and
every other text is refused; among these are, white space aside, the texts with a second marker, with
an odd number of characters and with a character beyond ASCII. -/
theorem parse_iff_spelled :
    (∀ digits, (∃ data, Spells digits data) ↔
      digits.length % 2 = 0 ∧ ∀ c ∈ digits, c ∈ "0123456789abcdefABCDEF".toList) ∧
    ∀ text,
      (∀ data, parse text = .ok data ↔
        ∃ marker ∈ markers, ∃ digits, clean text.toList = marker ++ digits ∧ Spells digits data) ∧
      (Refused text ↔ ∀ data, parse text ≠ .ok data) ∧
      (∀ data, ∀ marker ∈ markers, ∀ digits, Spells digits data →
        Spaced (marker ++ digits) text.toList → parse text = .ok data) ∧
      (∀ first ∈ markers, first ≠ [] → ∀ second ∈ markers, second ≠ [] → ∀ rest,
        clean text.toList = first ++ second ++ rest → Refused text) ∧
      ((clean text.toList).length % 2 = 1 → Refused text) ∧
      ∀ c ∈ text.toList, Text.isBlank c = false → 0x80 ≤ c.toNat → Refused text := by
  refine ⟨fun digits => exists_spells_iff, fun text =>
    ⟨fun data => parse_eq_ok_iff, refused_iff, ?spaced, ?twoMarkers, refused_of_odd, ?beyond⟩⟩
  case spaced =>
    intro data marker hmarker digits h hspaced
    exact parse_of_spaced hmarker h hspaced
  case twoMarkers =>
    intro first hfirst hne second hsecond hne' rest h
    exact refused_of_two_markers ⟨hfirst, hne⟩ ⟨hsecond, hne'⟩ h
  case beyond =>
    intro c hc hblank hbeyond
    exact refused_of_beyond hc hblank hbeyond

/-- White space of three kinds stands inside the marker, inside a digit pair and at the end. The other
texts are refused for a second marker, for a digit too many and for Arabic digits. -/
theorem parse_iff_spelled_spaced :
    parse "0\nX0\u20030fF " = .ok [0x00, 0xff] ∧ Refused "0x 0X00" ∧ Refused "0x000" ∧
      Refused "\u0661\u0661" := by
  obtain ⟨-, htexts⟩ := parse_iff_spelled
  have hspells : Spells "00fF".toList [0x00, 0xff] := by decide
  have hspaced : Spaced "0X00fF".toList "0\nX0\u20030fF ".toList :=
    .char (.blank (by decide) (.char (.char (.blank (by decide) (.char (.char (.char
      (.blank (by decide) .nil))))))))
  obtain ⟨-, -, hread, -⟩ := htexts "0\nX0\u20030fF "
  obtain ⟨-, -, -, htwice, -⟩ := htexts "0x 0X00"
  obtain ⟨-, -, -, -, hodd, -⟩ := htexts "0x000"
  obtain ⟨-, -, -, -, -, hbeyond⟩ := htexts "\u0661\u0661"
  exact ⟨hread _ ['0', 'X'] (by decide) _ hspells hspaced,
    htwice ['0', 'x'] (by decide) (by decide) ['0', 'X'] (by decide) (by decide) ['0', '0']
      (by decide),
    hodd (by decide), hbeyond '\u0661' (by decide) (by decide) (by decide)⟩

end HexText

end TokenBridge
