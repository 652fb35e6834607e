import Mathlib.Data.Nat.Prime.Basic
import Mathlib.Data.List.Prime
import Mathlib.NumberTheory.LucasPrimality

/-! # Primality certificates

  A number is prime if some root has order one less than the number. To check the
  order it is enough to know the prime factors of the predecessor, so a chain of
  such numbers, each with a root and with factors that come later in the chain or
  are small, certifies all of them. The check is a computation on numbers. -/

namespace Lib.Pratt

/-! ### Powers -/

/-- The binary digits of `n`, the lowest of `w` first. -/
def digits : ℕ → ℕ → List Bool
  | 0, _ => []
  | w + 1, n => (n % 2 == 1) :: digits w (n / 2)

/-- `a` to the number with these digits, modulo `m`. -/
def power (m a : ℕ) : List Bool → ℕ
  | [] => 1 % m
  | b :: bs =>
    let half := power m a bs
    half * half * (bif b then a else 1) % m

theorem power_digits (m a : ℕ) {w n : ℕ} (hn : n < 2 ^ w) :
    power m a (digits w n) = a ^ n % m := by
  induction w generalizing n with
  | zero =>
    have hzero : n = 0 := by omega
    rw [hzero, Nat.pow_zero]
    rfl
  | succ w ih =>
    have hhalf : n / 2 < 2 ^ w := by
      rw [Nat.pow_succ] at hn
      omega
    have hsquare : ∀ b : ℕ, a ^ (n / 2) % m * (a ^ (n / 2) % m) * b % m =
        a ^ (n / 2 * 2) * b % m := by
      intro b
      rw [Nat.pow_mul, Nat.pow_two, Nat.mul_mod, ← Nat.mul_mod (a ^ (n / 2)), ← Nat.mul_mod]
    simp only [digits, power, ih hhalf, hsquare]
    -- The last digit decides whether the base is multiplied in.
    by_cases hodd : n % 2 = 1
    · have hsum : n / 2 * 2 + 1 = n := by omega
      have hpow : a ^ (n / 2 * 2) * a = a ^ n := by rw [← pow_succ, hsum]
      rw [hodd]
      show a ^ (n / 2 * 2) * a % m = a ^ n % m
      rw [hpow]
    · have heven : n % 2 = 0 := by omega
      have hsum : n / 2 * 2 = n := by omega
      rw [heven]
      show a ^ (n / 2 * 2) * 1 % m = a ^ n % m
      rw [Nat.mul_one, hsum]

/-! ### Small primes -/

/-- Trial division by the numbers up to the square root, and a few more. -/
def small (p : ℕ) : Bool :=
  1 < p && (List.range (2 ^ (p.log2 / 2 + 1))).all fun d => d < 2 || p ≤ d || p % d != 0

theorem prime_of_small {p : ℕ} (h : small p = true) : p.Prime := by
  simp only [small, Bool.and_eq_true, List.all_eq_true, List.mem_range, Bool.or_eq_true,
    decide_eq_true_eq, bne_iff_ne] at h
  obtain ⟨hone, hdivisors⟩ := h
  by_cases hp : p.Prime
  · exact hp
  · have hfactor := Nat.minFac_prime (n := p) (by omega)
    have htwo := hfactor.two_le
    have hsq := Nat.minFac_sq_le_self (by omega) hp
    have hdvd := Nat.mod_eq_zero_of_dvd (Nat.minFac_dvd p)
    -- The least factor is at most the square root, so trial division meets it.
    have hbound : p.minFac < 2 ^ (p.log2 / 2 + 1) := by
      apply lt_of_pow_lt_pow_left₀ 2 (Nat.zero_le _)
      calc p.minFac ^ 2 ≤ p := hsq
        _ < 2 ^ (p.log2 + 1) := Nat.lt_log2_self
        _ ≤ 2 ^ ((p.log2 / 2 + 1) * 2) := Nat.pow_le_pow_right (by omega) (by omega)
        _ = (2 ^ (p.log2 / 2 + 1)) ^ 2 := Nat.pow_mul _ _ _
    have hproper : p.minFac < p := by
      rw [Nat.pow_two] at hsq
      have hmul := Nat.mul_le_mul_right p.minFac htwo
      omega
    rcases hdivisors p.minFac hbound with (hlow | hhigh) | hne
    · omega
    · omega
    · exact absurd hdvd hne

/-! ### Chains -/

/-- A number, a root, and the prime factors of the number's predecessor. -/
structure Link where
  number : ℕ
  root : ℕ
  factors : List ℕ

/-- The power of the root modulo the number. -/
def Link.power (l : Link) (n : ℕ) : ℕ :=
  Pratt.power l.number l.root (digits (l.number.log2 + 1) n)

/-- The root has the order it should have: no proper divisor of the predecessor
    will do. -/
def Link.certifies (l : Link) : Bool :=
  1 < l.number && l.factors.prod + 1 == l.number && l.power (l.number - 1) == 1 &&
    l.factors.all fun q => l.power ((l.number - 1) / q) != 1

/-- Every factor is small or a number further down the chain. -/
def valid : List Link → Bool
  | [] => true
  | l :: ls =>
    l.certifies && (l.factors.all fun q => (ls.any fun l' => l'.number == q) || small q) &&
      valid ls

theorem Link.certifies_prime {l : Link} (hfactors : ∀ q ∈ l.factors, q.Prime)
    (h : l.certifies = true) : l.number.Prime := by
  simp only [certifies, Bool.and_eq_true, decide_eq_true_eq, beq_iff_eq, List.all_eq_true,
    bne_iff_ne] at h
  obtain ⟨⟨⟨hone, hprod⟩, hroot⟩, horder⟩ := h
  have hpower : ∀ n, n ≤ l.number - 1 → ((l.root : ZMod l.number) ^ n = 1 ↔ l.power n = 1) := by
    intro n hn
    have hlt : l.number < 2 ^ (l.number.log2 + 1) := Nat.lt_log2_self
    have hmod : 1 % l.number = 1 := Nat.mod_eq_of_lt hone
    rw [Link.power, power_digits _ _ (by omega), ← Nat.cast_pow, ← Nat.cast_one,
      ZMod.natCast_eq_natCast_iff, Nat.ModEq, hmod]
  apply lucas_primality l.number (l.root : ZMod l.number)
  · exact (hpower _ (Nat.le_refl _)).mpr hroot
  · intro q hq hdvd
    -- A prime divisor of the predecessor is one of the factors.
    have hpred : l.number - 1 = l.factors.prod := by omega
    rw [hpred] at hdvd
    obtain ⟨f, hf, hqf⟩ := (Prime.dvd_prod_iff hq.prime).mp hdvd
    obtain rfl := (Nat.prime_dvd_prime_iff_eq hq (hfactors f hf)).mp hqf
    intro hone'
    exact horder q hf ((hpower _ (Nat.div_le_self _ _)).mp hone')

/-- All numbers of a valid chain are prime. -/
theorem prime_of_valid {ls : List Link} (h : valid ls = true) :
    ∀ l ∈ ls, l.number.Prime := by
  induction ls with
  | nil =>
    intro l hl
    cases hl
  | cons l ls ih =>
    simp only [valid, Bool.and_eq_true, List.all_eq_true, Bool.or_eq_true, List.any_eq_true,
      beq_iff_eq] at h
    obtain ⟨⟨hcertifies, hfactors⟩, hrest⟩ := h
    have hlater := ih hrest
    -- The factors are primes by the induction hypothesis, or small.
    have hl : l.number.Prime := by
      apply Link.certifies_prime _ hcertifies
      intro q hq
      rcases hfactors q hq with ⟨l', hl', rfl⟩ | hsmall
      · exact hlater l' hl'
      · exact prime_of_small hsmall
    intro l' hl'
    rcases List.mem_cons.mp hl' with rfl | hmem
    · exact hl
    · exact hlater l' hmem

end Lib.Pratt
