import OpaqueVx.Lib.Outcome

/-! # Which errors a computation reports

  `Outcome.FailsOnly P` says that a call returns a value or one of the errors in `P`,
  and in particular that it does not abort. `FailsOnlyM P` says it of a stateful
  computation, from every state. The rules take a computation apart at its sequencing:
  what follows a call has to be looked at only for the values the call returns, and
  an error that is renamed on its way is looked at under its new name. -/

namespace Lib

variable {ε ε' σ α β : Type}

/-! ### Calls -/

namespace Outcome

/-- The call returns, or reports one of the errors in `P`. -/
def FailsOnly (P : ε → Prop) : Outcome ε α → Prop
  | ok _ => True
  | err e => P e
  | panicked => False

namespace FailsOnly

variable {P : ε → Prop} {x : Outcome ε α}

theorem ok (a : α) : FailsOnly P (.ok a : Outcome ε α) := trivial

theorem of_eq_ok (h : ∃ a, x = .ok a) : FailsOnly P x := by
  obtain ⟨a, rfl⟩ := h
  exact trivial

theorem err {e : ε} (h : P e) : FailsOnly P (.err e : Outcome ε α) := h

theorem mono {Q : ε → Prop} (h : FailsOnly P x) (hPQ : ∀ e, P e → Q e) : FailsOnly Q x := by
  cases x with
  | ok a => trivial
  | err e => exact hPQ e h
  | panicked => exact h

/-- A sequence fails as one of its parts does. -/
theorem bind {f : α → Outcome ε β} (hx : FailsOnly P x)
    (hf : ∀ a, x = .ok a → FailsOnly P (f a)) : FailsOnly P (x >>= f) := by
  cases x with
  | ok a => exact hf a rfl
  | err e => exact hx
  | panicked => exact hx

/-- An error that is renamed is looked at under its new name. -/
theorem mapErr {Q : ε' → Prop} {f : ε → ε'} (h : FailsOnly (fun e => Q (f e)) x) :
    FailsOnly Q (x.mapErr f) := by
  cases x with
  | ok a => trivial
  | err e => exact h
  | panicked => exact h

theorem okOr {e : ε} (h : P e) (o : Option α) : FailsOnly P (Outcome.okOr e o) := by
  cases o with
  | some a => trivial
  | none => exact h

/-- With a single error the two possible ends are known. -/
theorem cases_single {e : ε} (h : FailsOnly (· = e) x) : (∃ a, x = .ok a) ∨ x = .err e := by
  cases x with
  | ok a => exact .inl ⟨a, rfl⟩
  | err e' =>
    have he : e' = e := h
    rw [he]
    exact .inr rfl
  | panicked => exact absurd h id

end FailsOnly

end Outcome

/-! ### Stateful computations -/

/-- From every state the computation returns, or reports one of the errors in `P`. -/
def FailsOnlyM (P : ε → Prop) (x : StateT σ (Outcome ε) α) : Prop :=
  ∀ s, Outcome.FailsOnly P (x.run s)

namespace FailsOnlyM

variable {P : ε → Prop}

theorem pure (a : α) : FailsOnlyM P (pure a : StateT σ (Outcome ε) α) := fun _ => trivial

theorem lift {x : Outcome ε α} (h : Outcome.FailsOnly P x) :
    FailsOnlyM P (liftM x : StateT σ (Outcome ε) α) := by
  intro s
  cases x with
  | ok a => trivial
  | err e => exact h
  | panicked => exact h

theorem bind {x : StateT σ (Outcome ε) α} {f : α → StateT σ (Outcome ε) β}
    (hx : FailsOnlyM P x) (hf : ∀ a, FailsOnlyM P (f a)) : FailsOnlyM P (x >>= f) := by
  intro s
  rw [StateT.run_bind]
  exact (hx s).bind fun p _ => hf p.1 p.2

/-- After a call that does not touch the state, its result is known. -/
theorem lift_bind {x : Outcome ε α} {f : α → StateT σ (Outcome ε) β}
    (hx : Outcome.FailsOnly P x) (hf : ∀ a, x = .ok a → FailsOnlyM P (f a)) :
    FailsOnlyM P ((liftM x : StateT σ (Outcome ε) α) >>= f) := by
  intro s
  rw [StateT.run_bind]
  apply (lift hx s).bind
  intro p hp
  obtain ⟨hx, hs⟩ := run_lift_eq_ok.mp hp
  exact hf p.1 hx p.2

end FailsOnlyM

end Lib
