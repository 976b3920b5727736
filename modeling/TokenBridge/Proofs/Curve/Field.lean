import Mathlib.Data.List.Prime
import Mathlib.FieldTheory.Finite.Basic
import Mathlib.NumberTheory.LucasPrimality
import Mathlib.Tactic.LinearCombination
import Mathlib.Tactic.NormNum.Prime
import TokenBridge.Bytes
import TokenBridge.Curve.Point

/-!
# The field of the curve

Powers are what the curve computes most: the inverse of a number and its square root are powers of
it. `natCast_powerMod` says once what the loop over the bits of an exponent computes, as an equation
between elements of `ZMod m`, where nothing is left of the reductions in between.

That the inverse is one and the square root is one depends on `fieldPrime` being a prime number
(`prime_fieldPrime`). It is proved to be one by Lucas's test, whose certificate needs the primes that
divide its predecessor, and for the large ones of these a certificate in turn; the powers of the
certificates are computed by the loop that the curve uses.
-/

namespace TokenBridge.Curve

/-! ## Powers -/

section Powers

variable {m base exponent : Nat}

theorem powerMod_lt {fuel acc : Nat} (hacc : acc < m) : powerMod m fuel base exponent acc < m := by
  induction fuel generalizing base exponent acc with
  | zero => exact hacc
  | succ fuel ih =>
    rw [powerMod]
    apply ih
    split
    · exact Nat.mod_lt _ (Nat.zero_lt_of_lt hacc)
    · exact hacc

/-- The loop takes a bit off the exponent and squares the base. -/
theorem natCast_powerMod {fuel acc : Nat} (h : exponent < 2 ^ fuel) :
    (powerMod m fuel base exponent acc : ZMod m) = acc * (base : ZMod m) ^ exponent := by
  induction fuel generalizing base exponent acc with
  | zero =>
    obtain rfl : exponent = 0 := by omega
    rw [powerMod, pow_zero, mul_one]
  | succ fuel ih =>
    have hhalf : exponent / 2 < 2 ^ fuel := by
      rw [Nat.pow_succ] at h
      omega
    have hsquare : ((base * base % m : Nat) : ZMod m) ^ (exponent / 2) =
        (base : ZMod m) ^ (2 * (exponent / 2)) := by
      rw [ZMod.natCast_mod, Nat.cast_mul, pow_mul, pow_two]
    rw [powerMod, ih hhalf, hsquare]
    rcases Nat.mod_two_eq_zero_or_one exponent with heven | hodd
    · have hexponent : 2 * (exponent / 2) = exponent := by omega
      rw [if_neg (by omega), hexponent]
    · have hexponent : 2 * (exponent / 2) + 1 = exponent := by omega
      rw [if_pos hodd, ZMod.natCast_mod, Nat.cast_mul, mul_assoc, ← pow_succ', hexponent]

theorem power_lt (hm : 1 < m) : power m base exponent < m :=
  powerMod_lt hm

theorem natCast_power (h : exponent < 2 ^ 256) :
    (power m base exponent : ZMod m) = (base : ZMod m) ^ exponent := by
  rw [power, natCast_powerMod h, Nat.cast_one, one_mul, ZMod.natCast_mod]

theorem power_eq_one_iff (hm : 1 < m) (h : exponent < 2 ^ 256) :
    power m base exponent = 1 ↔ (base : ZMod m) ^ exponent = 1 := by
  have hcast : (1 : ZMod m) = (1 : Nat) := Nat.cast_one.symm
  rw [← natCast_power h, hcast, ZMod.natCast_eq_natCast_iff', Nat.mod_eq_of_lt (power_lt hm),
    Nat.mod_eq_of_lt hm]

end Powers

/-! ## Primality -/

/-- What Lucas's test of a number needs: an element of the largest order, and the primes that
multiply to the number less one, each as often as it divides it. -/
structure Certificate where
  number : Nat
  root : Nat
  factors : List Nat

namespace Certificate

/-- The number passes the test, and the factors are among those that are known. -/
def Holds (known : List Nat) (c : Certificate) : Prop :=
  (1 < c.number ∧ c.number < 2 ^ 256) ∧ c.factors.prod = c.number - 1 ∧
    (∀ q ∈ c.factors, q ∈ known) ∧ power c.number c.root (c.number - 1) = 1 ∧
    ∀ q ∈ c.factors, power c.number c.root ((c.number - 1) / q) ≠ 1

instance {known : List Nat} {c : Certificate} : Decidable (c.Holds known) :=
  inferInstanceAs (Decidable ((1 < c.number ∧ c.number < 2 ^ 256) ∧
    c.factors.prod = c.number - 1 ∧ (∀ q ∈ c.factors, q ∈ known) ∧
    power c.number c.root (c.number - 1) = 1 ∧
    ∀ q ∈ c.factors, power c.number c.root ((c.number - 1) / q) ≠ 1))

theorem Holds.prime {known : List Nat} {c : Certificate} (h : c.Holds known)
    (hknown : ∀ q ∈ known, q.Prime) : c.number.Prime := by
  obtain ⟨⟨hone, hlt⟩, hprod, hfactors, hfull, hparts⟩ := h
  refine lucas_primality c.number c.root ?_ ?_
  · exact (power_eq_one_iff hone (by omega)).mp hfull
  · intro q hq hdvd
    rw [← hprod] at hdvd
    have hmem : q ∈ c.factors :=
      mem_list_primes_of_dvd_prod hq.prime (fun r hr => (hknown r (hfactors r hr)).prime) hdvd
    have hpart : (c.number - 1) / q < 2 ^ 256 :=
      Nat.lt_of_le_of_lt (Nat.div_le_self _ _) (by omega)
    exact fun h => hparts q hmem ((power_eq_one_iff hone hpart).mpr h)

/-- Each number passes the test, with factors that are known or numbers before it. -/
def Chain (known : List Nat) : List Certificate → Prop
  | [] => True
  | c :: rest => c.Holds known ∧ Chain (c.number :: known) rest

instance decidableChain : ∀ (known : List Nat) (chain : List Certificate),
    Decidable (Chain known chain)
  | _, [] => isTrue trivial
  | known, c :: rest =>
    have := decidableChain (c.number :: known) rest
    inferInstanceAs (Decidable (c.Holds known ∧ Chain (c.number :: known) rest))

theorem Chain.prime {chain : List Certificate} : ∀ {known : List Nat}, Chain known chain →
    (∀ q ∈ known, q.Prime) → ∀ c ∈ chain, c.number.Prime := by
  induction chain with
  | nil => exact fun _ _ c hc => absurd hc List.not_mem_nil
  | cons first rest ih =>
    intro known h hknown
    obtain ⟨hfirst, hrest⟩ := h
    have hprime := hfirst.prime hknown
    exact List.forall_mem_cons.mpr
      ⟨hprime, ih hrest (List.forall_mem_cons.mpr ⟨hprime, hknown⟩)⟩

end Certificate

/-- The primes below a hundred thousand that the certificates need. -/
def smallPrimes : List Nat :=
  [2, 3, 5, 7, 11, 29, 31, 53, 971, 1373, 1627, 2621, 2657, 4423, 5323, 7723, 13441, 20113, 24809,
    41201, 96557]

/-- The certificates that lead from small primes to the size of the field. -/
def fieldCertificates : List Certificate :=
  [⟨1206781, 10, [2, 2, 3, 5, 20113]⟩,
    ⟨7240687, 3, [2, 3, 1206781]⟩,
    ⟨13331831, 13, [2, 5, 971, 1373]⟩,
    ⟨107590001, 3, [2, 2, 2, 2, 5, 5, 5, 5, 7, 29, 53]⟩,
    ⟨173378833005251801, 6, [2, 2, 2, 5, 5, 2621, 24809, 13331831]⟩,
    ⟨22149492674086928081353, 5, [2, 2, 2, 3, 5323, 173378833005251801]⟩,
    ⟨132896956044521568488119, 6, [2, 3, 22149492674086928081353]⟩,
    ⟨255515944373312847190720520512484175977, 3,
      [2, 2, 2, 7, 7, 11, 1627, 2657, 4423, 41201, 96557, 7240687, 107590001]⟩,
    ⟨205115282021455665897114700593932402728804164701536103180137503955397371, 10,
      [2, 3, 5, 29, 29, 31, 7723, 132896956044521568488119,
        255515944373312847190720520512484175977]⟩,
    ⟨fieldPrime, 3, [2, 3, 7, 13441,
      205115282021455665897114700593932402728804164701536103180137503955397371]⟩]

theorem prime_of_mem_smallPrimes : ∀ q ∈ smallPrimes, q.Prime := by
  simp only [smallPrimes, List.forall_mem_cons]
  norm_num

theorem chain_fieldCertificates : Certificate.Chain smallPrimes fieldCertificates := by
  decide +kernel

/-- **The size of the field is a prime number.** -/
theorem prime_fieldPrime : fieldPrime.Prime := by
  have hmem : fieldPrime ∈ fieldCertificates.map Certificate.number := by simp [fieldCertificates]
  obtain ⟨c, hc, hnumber⟩ := List.mem_map.mp hmem
  rw [← hnumber]
  exact chain_fieldCertificates.prime prime_of_mem_smallPrimes c hc

/-! ## The field -/

/-- The elements that coordinates stand for. -/
abbrev Element : Type := ZMod fieldPrime

instance : Fact fieldPrime.Prime := ⟨prime_fieldPrime⟩

theorem natCast_subtract (a b : Nat) : (subtract a b : Element) = a - b := by
  have hle : b % fieldPrime ≤ a + fieldPrime :=
    Nat.le_trans (Nat.mod_lt b prime_fieldPrime.pos).le (Nat.le_add_left _ _)
  rw [subtract, ZMod.natCast_mod, Nat.cast_sub hle, ZMod.natCast_mod, Nat.cast_add,
    ZMod.natCast_self, add_zero]

theorem natCast_ne_zero {a : Nat} (hne : a ≠ 0) (hlt : a < fieldPrime) : (a : Element) ≠ 0 := by
  intro h
  exact hne (Nat.eq_zero_of_dvd_of_lt ((ZMod.natCast_eq_zero_iff a fieldPrime).mp h) hlt)

/-- What is computed as the inverse of an element is its inverse. -/
theorem inverse_mul {a : Nat} (h : (a : Element) ≠ 0) : (inverse fieldPrime a : Element) * a = 1 := by
  have hexponent : fieldPrime - 2 + 1 = fieldPrime - 1 := by decide
  rw [inverse, natCast_power (by decide), ← pow_succ, hexponent]
  exact ZMod.pow_card_sub_one_eq_one h

/-- The power that is taken for a square root is one of every square. -/
theorem root_mul_root {c : Nat} {y : Element} (h : (c : Element) = y * y) :
    (power fieldPrime c ((fieldPrime + 1) / 4) : Element) *
      power fieldPrime c ((fieldPrime + 1) / 4) = c := by
  have hexponent : 2 * ((fieldPrime + 1) / 4 + (fieldPrime + 1) / 4) = fieldPrime + 1 := by decide
  rw [natCast_power (by decide), ← pow_add, h, ← pow_two, ← pow_mul, hexponent, pow_succ,
    ZMod.pow_card, pow_two]

end TokenBridge.Curve
