import Mathlib.Algebra.Group.Basic

/-! # The verification equation of Schnorr signatures

  In an additive commutative group, with a base point that a number `order`
  annihilates. The signer answers a challenge `k` with `s = k * a + r` modulo
  `order`; the verifier subtracts `k` times the public key from `s` times the
  base point and gets the commitment back. -/

namespace Lib.Schnorr

variable {G : Type} [AddCommGroup G] {base : G} {order : ℕ}

/-- Only the residue of a multiplier matters. -/
theorem mod_nsmul (horder : order • base = 0) (n : ℕ) : (n % order) • base = n • base :=
  (nsmul_eq_mod_nsmul n horder).symm

/-- The answer of an honest signer satisfies the verification equation. -/
theorem verification (horder : order • base = 0) (k a r : ℕ) :
    k • (-(a • base)) + ((k * a + r) % order) • base = r • base := by
  have hanswer : ((k * a + r) % order) • base = k • (a • base) + r • base := by
    rw [mod_nsmul horder, add_nsmul, Nat.mul_comm, mul_nsmul]
  rw [hanswer, neg_nsmul, ← add_assoc, neg_add_cancel, zero_add]

end Lib.Schnorr
