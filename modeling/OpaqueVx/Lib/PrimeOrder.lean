import Mathlib.GroupTheory.OrderOfElement

/-! # Multiples of an element of prime order

  In an additive commutative group, an element that a prime annihilates: which of
  its multiples vanish, and which are equal. With a cofactor: an element that is
  annihilated by a prime times a small number is killed by a multiple of that
  number only if the number itself kills it. -/

namespace Lib.PrimeOrder

variable {G : Type} [AddCommGroup G] {q : ℕ} {x : G}

theorem nsmul_eq_zero_iff (hq : q.Prime) (hx : q • x = 0) {n : ℕ} :
    n • x = 0 ↔ x = 0 ∨ q ∣ n := by
  by_cases hzero : x = 0
  · simp [hzero]
  · have : Fact q.Prime := ⟨hq⟩
    have horder : addOrderOf x = q := addOrderOf_eq_prime hx hzero
    rw [← addOrderOf_dvd_iff_nsmul_eq_zero, horder]
    simp [hzero]

/-- Different multipliers below the prime give different multiples. -/
theorem nsmul_inj (hq : q.Prime) (hx : q • x = 0) (hne : x ≠ 0) {m n : ℕ} (hm : m < q)
    (hn : n < q) (h : m • x = n • x) : m = n := by
  have : Fact q.Prime := ⟨hq⟩
  have horder : addOrderOf x = q := addOrderOf_eq_prime hx hne
  have hmod := nsmul_inj_mod.mp h
  rw [horder, Nat.mod_eq_of_lt hm, Nat.mod_eq_of_lt hn] at hmod
  exact hmod

/-- Multiplication by a number that the prime does not divide can be undone. -/
theorem nsmul_left_inj (hq : q.Prime) {y : G} (hx : q • x = 0) (hy : q • y = 0) {n : ℕ}
    (hn : ¬ q ∣ n) (h : n • x = n • y) : x = y := by
  have hsub : q • (x - y) = 0 := by rw [nsmul_sub, hx, hy, sub_zero]
  have hzero : n • (x - y) = 0 := by rw [nsmul_sub, h, sub_self]
  rcases (nsmul_eq_zero_iff hq hsub).mp hzero with hxy | hdvd
  · exact sub_eq_zero.mp hxy
  · exact absurd hdvd hn

/-- A multiple of the cofactor kills no more than the cofactor, unless the prime
    divides it. -/
theorem nsmul_cofactor_eq_zero_iff (hq : q.Prime) {c k : ℕ} (hx : (c * q) • x = 0)
    (hk : ¬ q ∣ k) : (c * k) • x = 0 ↔ c • x = 0 := by
  have hannihilates : q • (c • x) = 0 := by
    rw [← mul_nsmul]
    exact hx
  rw [mul_nsmul, nsmul_eq_zero_iff hq hannihilates]
  simp [hk]

end Lib.PrimeOrder
