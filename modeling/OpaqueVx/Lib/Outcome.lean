/-! # Outcomes of fallible computations

  A call of a fallible function ends in one of three ways: it returns a value,
  it returns an error value, or it aborts (an out-of-range slice, a failed
  unwrap, a copy between slices of different lengths). `Outcome` keeps the
  three apart, so that "is an error" and "does not abort" are different
  statements.

  Stateful code runs in `StateT σ (Outcome ε)`: the state is the unread input
  of a parser, or a random number generator.
-/

namespace Lib

variable {ε ε' α β γ : Type}

/-- The result of a call: a value, an error, or an abort. -/
inductive Outcome (ε : Type) (α : Type) where
  | ok (a : α)
  | err (e : ε)
  | panicked
  deriving DecidableEq, Repr

namespace Outcome

/-- Sequencing: errors and aborts end the computation. -/
protected def bind (x : Outcome ε α) (f : α → Outcome ε β) : Outcome ε β :=
  match x with
  | ok a => f a
  | err e => err e
  | panicked => panicked

instance : Monad (Outcome ε) where
  pure := ok
  bind := Outcome.bind

@[simp] theorem pure_eq (a : α) : (pure a : Outcome ε α) = ok a := rfl

@[simp] theorem ok_bind (a : α) (f : α → Outcome ε β) : (ok a >>= f) = f a := rfl

@[simp] theorem err_bind (e : ε) (f : α → Outcome ε β) : (err e >>= f) = err e := rfl

@[simp] theorem panicked_bind (f : α → Outcome ε β) :
    ((panicked : Outcome ε α) >>= f) = panicked := rfl

@[simp] theorem map_ok (f : α → β) (a : α) : (f <$> (ok a : Outcome ε α)) = ok (f a) := rfl

@[simp] theorem map_err (f : α → β) (e : ε) : (f <$> (err e : Outcome ε α)) = err e := rfl

@[simp] theorem map_panicked (f : α → β) :
    (f <$> (panicked : Outcome ε α)) = panicked := rfl

instance : LawfulMonad (Outcome ε) :=
  LawfulMonad.mk' (Outcome ε)
    (by rintro α (_ | _ | _) <;> rfl)
    (by intros; rfl)
    (by rintro α β γ (_ | _ | _) f g <;> rfl)

/-- Inversion of sequencing: a successful run splits into two successful runs. -/
theorem bind_eq_ok {x : Outcome ε α} {f : α → Outcome ε β} {b : β} :
    (x >>= f) = ok b ↔ ∃ a, x = ok a ∧ f a = ok b := by
  cases x with
  | ok a => simp
  | err e => simp
  | panicked => simp

/-- `Result::map_err`. -/
def mapErr (f : ε → ε') : Outcome ε α → Outcome ε' α
  | ok a => ok a
  | err e => err (f e)
  | panicked => panicked

@[simp] theorem mapErr_ok (f : ε → ε') (a : α) : mapErr f (ok a) = ok a := rfl

@[simp] theorem mapErr_err (f : ε → ε') (e : ε) :
    mapErr f (err e : Outcome ε α) = err (f e) := rfl

@[simp] theorem mapErr_panicked (f : ε → ε') :
    mapErr f (panicked : Outcome ε α) = panicked := rfl

theorem mapErr_eq_ok {f : ε → ε'} {x : Outcome ε α} {a : α} :
    mapErr f x = ok a ↔ x = ok a := by
  cases x <;> simp

/-- `Option::ok_or`. -/
def okOr (e : ε) : Option α → Outcome ε α
  | some a => ok a
  | none => err e

@[simp] theorem okOr_some (e : ε) (a : α) : okOr e (some a) = ok a := rfl

@[simp] theorem okOr_none (e : ε) : okOr e (none : Option α) = err e := rfl

theorem okOr_eq_ok {e : ε} {o : Option α} {a : α} :
    okOr e o = ok a ↔ o = some a := by
  cases o <;> simp

/-- A value that is wrapped together with the proof that it passed a check. -/
theorem dite_eq_ok {P : Prop} [Decidable P] {wrap : P → α} {e : ε} {a : α} :
    (if h : P then ok (wrap h) else err e) = ok a ↔ ∃ h, wrap h = a := by
  by_cases h : P
  · simp [h]
  · simp [h]

/-- A value that is wrapped if it does not have to be refused. -/
theorem dite_not_eq_ok {P : Prop} [Decidable P] {wrap : ¬ P → α} {e : ε} {a : α} :
    (if h : P then err e else ok (wrap h)) = ok a ↔ ∃ h, wrap h = a := by
  by_cases h : P
  · simp [h]
  · simp [h]

/-- `Result::unwrap`: an error aborts. -/
def unwrap : Outcome ε α → Outcome ε' α
  | ok a => ok a
  | err _ => panicked
  | panicked => panicked

@[simp] theorem unwrap_ok (a : α) : (unwrap (ok a : Outcome ε α) : Outcome ε' α) = ok a := rfl

theorem unwrap_eq_ok {x : Outcome ε α} {a : α} :
    (unwrap x : Outcome ε' α) = ok a ↔ x = ok a := by
  cases x <;> simp [unwrap]

/-- Calls that all return values with a property, one after the other. -/
theorem mapM_eq_ok {f : α → Outcome ε β} {P : β → Prop} {xs : List α}
    (h : ∀ x ∈ xs, ∃ y, f x = ok y ∧ P y) :
    ∃ ys, xs.mapM f = ok ys ∧ ys.length = xs.length ∧ ∀ y ∈ ys, P y := by
  induction xs with
  | nil => exact ⟨[], by simp, rfl, by simp⟩
  | cons x xs ih =>
    obtain ⟨y, hy, hPy⟩ := h x (by simp)
    obtain ⟨ys, hys, hlen, hPys⟩ := ih fun z hz => h z (List.mem_cons_of_mem x hz)
    refine ⟨y :: ys, by simp [hy, hys], by simp [hlen], ?_⟩
    intro z hz
    cases List.mem_cons.mp hz with
    | inl heq =>
      rw [heq]
      exact hPy
    | inr hmem => exact hPys z hmem

/-- `Result::ok`. -/
def toOption : Outcome ε α → Option α
  | ok a => some a
  | err _ => none
  | panicked => none

theorem toOption_eq_some {x : Outcome ε α} {a : α} : x.toOption = some a ↔ x = ok a := by
  cases x with
  | ok b => simp [toOption]
  | err e => simp [toOption]
  | panicked => simp [toOption]

/-- The call returned an error value. -/
def IsErr (x : Outcome ε α) : Prop := ∃ e, x = err e

instance (x : Outcome ε α) : Decidable x.IsErr :=
  match x with
  | ok a => .isFalse (by simp [IsErr])
  | err e => .isTrue ⟨e, rfl⟩
  | panicked => .isFalse (by simp [IsErr])

end Outcome

/-! ### Stateful computations -/

section state

variable {σ : Type}

/-- Inversion of stateful sequencing. -/
theorem run_bind_eq_ok {x : StateT σ (Outcome ε) α} {f : α → StateT σ (Outcome ε) β}
    {s s'' : σ} {b : β} :
    (x >>= f).run s = .ok (b, s'') ↔
      ∃ a s', x.run s = .ok (a, s') ∧ (f a).run s' = .ok (b, s'') := by
  rw [StateT.run_bind, Outcome.bind_eq_ok]
  constructor
  · rintro ⟨⟨a, s'⟩, hx, hf⟩
    exact ⟨a, s', hx, hf⟩
  · rintro ⟨a, s', hx, hf⟩
    exact ⟨(a, s'), hx, hf⟩

/-- Inversion of a lifted call: it leaves the state as it was. -/
theorem run_lift_eq_ok {x : Outcome ε α} {s s' : σ} {a : α} :
    (liftM x : StateT σ (Outcome ε) α).run s = .ok (a, s') ↔ x = .ok a ∧ s' = s := by
  cases x with
  | ok b => simp [eq_comm]
  | err e => simp
  | panicked => simp

/-- Inversion of sequencing after a lifted call. -/
theorem run_lift_bind_eq_ok {x : Outcome ε α} {f : α → StateT σ (Outcome ε) β} {s s' : σ}
    {b : β} :
    ((liftM x : StateT σ (Outcome ε) α) >>= f).run s = .ok (b, s') ↔
      ∃ a, x = .ok a ∧ (f a).run s = .ok (b, s') := by
  rw [run_bind_eq_ok]
  constructor
  · rintro ⟨a, s₁, hlift, hf⟩
    obtain ⟨hx, rfl⟩ := run_lift_eq_ok.mp hlift
    exact ⟨a, hx, hf⟩
  · rintro ⟨a, hx, hf⟩
    exact ⟨a, s, run_lift_eq_ok.mpr ⟨hx, rfl⟩, hf⟩

/-- `map_err` of a stateful computation. -/
def mapErrM (f : ε → ε') (x : StateT σ (Outcome ε) α) : StateT σ (Outcome ε') α :=
  fun s => (x.run s).mapErr f

@[simp] theorem run_mapErrM (f : ε → ε') (x : StateT σ (Outcome ε) α) (s : σ) :
    (mapErrM f x).run s = (x.run s).mapErr f := rfl

end state

end Lib
