import OpaqueVx.Lib.Outcome

/-! # Two runs side by side

  A property of one program under two inputs relates two runs. `Outcome.Rel R`
  says that two calls end alike: both return, with results related by `R`, or
  both fail with the same error, or both abort. `RelM R` says it of stateful
  computations that start in the same state, and adds that they leave the same
  state behind: with a random number generator as the state, the two runs have
  made the same draws.

  The rules follow the way a computation is built. A pair of runs is taken
  through a program step by step, with `bind` where both make a step, and
  `bind_same` where the step does not depend on what differs.
-/

namespace Lib

variable {ε ε' σ α α' β β' : Type}

/-! ### Calls that end alike -/

namespace Outcome

/-- Both calls return related values, or fail with the same error, or abort. -/
inductive Rel (R : α → β → Prop) : Outcome ε α → Outcome ε β → Prop where
  | ok {a : α} {b : β} (h : R a b) : Rel R (.ok a) (.ok b)
  | err (e : ε) : Rel R (.err e) (.err e)
  | panicked : Rel R .panicked .panicked

namespace Rel

variable {R : α → β → Prop} {x : Outcome ε α} {y : Outcome ε β}

theorem refl {R : α → α → Prop} (hR : ∀ a, R a a) (x : Outcome ε α) : Rel R x x := by
  cases x with
  | ok a => exact .ok (hR a)
  | err e => exact .err e
  | panicked => exact .panicked

theorem mono {S : α → β → Prop} (h : Rel R x y) (hRS : ∀ a b, R a b → S a b) : Rel S x y := by
  cases h with
  | ok hab => exact .ok (hRS _ _ hab)
  | err e => exact .err e
  | panicked => exact .panicked

/-- Related results may be used in related ways. -/
theorem bind {S : α' → β' → Prop} {f : α → Outcome ε α'} {g : β → Outcome ε β'}
    (h : Rel R x y) (hfg : ∀ a b, R a b → Rel S (f a) (g b)) : Rel S (x >>= f) (y >>= g) := by
  cases h with
  | ok hab => exact hfg _ _ hab
  | err e => exact .err e
  | panicked => exact .panicked

end Rel

end Outcome

/-! ### Stateful computations -/

/-- From the same state the computations end alike and in the same state. -/
def RelM (R : α → β → Prop) (x : StateT σ (Outcome ε) α) (y : StateT σ (Outcome ε) β) : Prop :=
  ∀ s, Outcome.Rel (fun p q => R p.1 q.1 ∧ p.2 = q.2) (x.run s) (y.run s)

namespace RelM

variable {R : α → β → Prop}

theorem refl {R : α → α → Prop} (hR : ∀ a, R a a) (x : StateT σ (Outcome ε) α) : RelM R x x :=
  fun s => .refl (fun p => ⟨hR p.1, rfl⟩) (x.run s)

theorem mono {S : α → β → Prop} {x : StateT σ (Outcome ε) α} {y : StateT σ (Outcome ε) β}
    (h : RelM R x y) (hRS : ∀ a b, R a b → S a b) : RelM S x y :=
  fun s => (h s).mono fun _ _ hpq => ⟨hRS _ _ hpq.1, hpq.2⟩

theorem pure {a : α} {b : β} (h : R a b) :
    RelM R (pure a : StateT σ (Outcome ε) α) (pure b : StateT σ (Outcome ε) β) :=
  fun _ => .ok ⟨h, rfl⟩

/-- A call that does not touch the state. -/
theorem lift {x : Outcome ε α} {y : Outcome ε β} (h : Outcome.Rel R x y) :
    RelM R (liftM x : StateT σ (Outcome ε) α) (liftM y : StateT σ (Outcome ε) β) := by
  intro s
  cases h with
  | ok hab => exact .ok ⟨hab, rfl⟩
  | err e => exact .err e
  | panicked => exact .panicked

theorem bind {S : α' → β' → Prop} {x : StateT σ (Outcome ε) α} {y : StateT σ (Outcome ε) β}
    {f : α → StateT σ (Outcome ε) α'} {g : β → StateT σ (Outcome ε) β'} (h : RelM R x y)
    (hfg : ∀ a b, R a b → RelM S (f a) (g b)) : RelM S (x >>= f) (y >>= g) := by
  intro s
  rw [StateT.run_bind, StateT.run_bind]
  apply (h s).bind
  intro p q hpq
  obtain ⟨a, s'⟩ := p
  obtain ⟨b, t'⟩ := q
  obtain ⟨hab, rfl⟩ := hpq
  exact hfg a b hab s'

/-- Both runs make the same step; the rest may use its result. -/
theorem bind_same {S : α' → β' → Prop} (x : StateT σ (Outcome ε) α)
    {f : α → StateT σ (Outcome ε) α'} {g : α → StateT σ (Outcome ε) β'}
    (hfg : ∀ a, RelM S (f a) (g a)) : RelM S (x >>= f) (x >>= g) := by
  apply bind (refl (fun _ => rfl) x)
  intro a b hab
  subst hab
  exact hfg a

end RelM

end Lib
