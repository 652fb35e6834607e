/-! # Collisions between two runs

  A security argument over a hash function usually ends in "the inputs agree, or
  here is a collision". That some collision exists is true of every compressing
  function and says nothing; what matters is that the two inputs are among those
  the two runs in question computed. A run is therefore described by the list of
  calls it makes, and a pair of runs exhibits a collision when a call of the one
  collides with a call of the other. -/

namespace Lib

variable {Call κ β : Type} (kind : Call → κ) (out : Call → β)

/-- Two calls of the same function on different inputs with the same output. -/
def Collides (a b : Call) : Prop := kind a = kind b ∧ out a = out b ∧ a ≠ b

/-- A call of the first run collides with a call of the second. -/
def Exhibits (xs ys : List Call) : Prop := ∃ a ∈ xs, ∃ b ∈ ys, Collides kind out a b

variable {kind out}

/-- Runs that exhibit no collision call a function with equal outputs on equal
    inputs only. -/
theorem eq_of_not_exhibits {xs ys : List Call} (h : ¬ Exhibits kind out xs ys) {a b : Call}
    (ha : a ∈ xs) (hb : b ∈ ys) (hkind : kind a = kind b) (hout : out a = out b) : a = b := by
  apply Classical.byContradiction
  intro hne
  exact h ⟨a, ha, b, hb, hkind, hout, hne⟩

/-- To show that runs agree or exhibit a collision, assume that they exhibit none. -/
theorem or_exhibits {xs ys : List Call} {P : Prop} (h : ¬ Exhibits kind out xs ys → P) :
    P ∨ Exhibits kind out xs ys := by
  by_cases hex : Exhibits kind out xs ys
  · exact Or.inr hex
  · exact Or.inl (h hex)

end Lib
