import OpaqueVx.Lib.Outcome

/-! # Interactive programs

  A program that waits for an input, answers it with outputs and waits for the next
  one. It may draw from a generator and it may abort. One program can stand for what
  another is meant to do, up to steps that go wrong: where two programs are related by
  an account of their states that every other step keeps, a run of the first that has no
  such step prints what the second prints. Which steps go wrong may depend on the steps
  before, so the account and the bad steps are about both. -/

namespace Lib

variable {State State' Input Output Gen ε : Type}

/-- How a program answers an input. -/
abbrev Interactive (m : Type → Type) (State Input Output : Type) :=
  State → Input → m (State × List Output)

/-- What a step of a program starts from. -/
structure StepStart (State Input Gen : Type) where
  state : State
  input : Input
  gen : Gen

/-- A step of a run goes wrong after the steps before it. -/
def Encounters (Bad : List (StepStart State Input Gen) → StepStart State Input Gen → Prop)
    (steps : List (StepStart State Input Gen)) : Prop :=
  ∃ past step later, steps = past ++ step :: later ∧ Bad past step

namespace Interactive

/-- The answers to a sequence of inputs. -/
def run {m : Type → Type} [Monad m] (step : Interactive m State Input Output) :
    State → List Input → m (State × List Output)
  | s, [] => pure (s, [])
  | s, i :: is => do
    let (s', out) ← step s i
    let (s'', outs) ← run step s' is
    return (s'', out ++ outs)

/-- What the steps of a run start from, up to where it aborts. -/
def steps (step : Interactive (StateT Gen (Outcome ε)) State Input Output) :
    State → Gen → List Input → List (StepStart State Input Gen)
  | _, _, [] => []
  | s, g, i :: is =>
    ⟨s, i, g⟩ :: match (step s i).run g with
      | .ok ((s', _), g') => steps step s' g' is
      | _ => []

section simulation

variable {step : Interactive (StateT Gen (Outcome ε)) State Input Output}
  {step' : Interactive Id State' Input Output}
  {R : List (StepStart State Input Gen) → State → State' → Prop}
  {Bad : List (StepStart State Input Gen) → StepStart State Input Gen → Prop}

theorem run_cons_eq_ok {s s'' : State} {i : Input} {is : List Input} {g g'' : Gen}
    {outs : List Output} :
    (run step s (i :: is)).run g = .ok ((s'', outs), g'') ↔
      ∃ s' out g' rest, (step s i).run g = .ok ((s', out), g') ∧
        (run step s' is).run g' = .ok ((s'', rest), g'') ∧ outs = out ++ rest := by
  rw [run]
  constructor
  · intro h
    obtain ⟨⟨⟨s', out⟩, g'⟩, hstep, h⟩ := Outcome.bind_eq_ok.mp h
    obtain ⟨⟨⟨s₂, rest⟩, g₂⟩, hrun, h⟩ := Outcome.bind_eq_ok.mp h
    injection h with h
    injection h with hs hg
    injection hs with hs houts
    subst hs hg houts
    exact ⟨s', out, g', rest, hstep, hrun, rfl⟩
  · rintro ⟨s', out, g', rest, hstep, hrun, rfl⟩
    apply Outcome.bind_eq_ok.mpr
    refine ⟨((s', out), g'), hstep, ?_⟩
    apply Outcome.bind_eq_ok.mpr
    exact ⟨((s'', rest), g''), hrun, rfl⟩

/-- The rule from any point of a run. The steps taken so far move into the past. -/
theorem run_simulates_from
    (hstep : ∀ past s t i g s' out g', R past s t → (step s i).run g = .ok ((s', out), g') →
      ¬ Bad past ⟨s, i, g⟩ → (step' t i).2 = out ∧ R (past ++ [⟨s, i, g⟩]) s' (step' t i).1)
    {past : List (StepStart State Input Gen)} {s s'' : State} {t : State'} {is : List Input}
    {g g'' : Gen} {outs : List Output} (hrel : R past s t)
    (hrun : (run step s is).run g = .ok ((s'', outs), g''))
    (hno : ∀ earlier x later, steps step s g is = earlier ++ x :: later →
      ¬ Bad (past ++ earlier) x) :
    (run step' t is).2 = outs ∧ R (past ++ steps step s g is) s'' (run step' t is).1 := by
  induction is generalizing past s t g outs with
  | nil =>
    simp only [run, StateT.run_pure, Outcome.pure_eq, Outcome.ok.injEq, Prod.mk.injEq] at hrun
    obtain ⟨⟨rfl, rfl⟩, rfl⟩ := hrun
    rw [steps, List.append_nil]
    exact ⟨rfl, hrel⟩
  | cons i is ih =>
    obtain ⟨s', out, g', rest, hok, hrest, rfl⟩ := run_cons_eq_ok.mp hrun
    have hsteps : steps step s g (i :: is) = ⟨s, i, g⟩ :: steps step s' g' is := by
      rw [steps, hok]
    have hgood : ¬ Bad past ⟨s, i, g⟩ := by
      have hfirst := hno [] ⟨s, i, g⟩ (steps step s' g' is) hsteps
      rwa [List.append_nil] at hfirst
    obtain ⟨hout, hrel'⟩ := hstep past s t i g s' out g' hrel hok hgood
    have hlater : ∀ earlier x later, steps step s' g' is = earlier ++ x :: later →
        ¬ Bad ((past ++ [⟨s, i, g⟩]) ++ earlier) x := by
      intro earlier x later heq
      rw [List.append_assoc]
      exact hno (⟨s, i, g⟩ :: earlier) x later (by rw [hsteps, heq, List.cons_append])
    obtain ⟨houts, hend⟩ := ih hrel' hrest hlater
    rw [List.append_assoc] at hend
    rw [hsteps]
    refine ⟨?_, hend⟩
    rw [← hout, ← houts]
    rfl

/-- A run without bad steps gives the outputs of the other program. -/
theorem run_simulates
    (hstep : ∀ past s t i g s' out g', R past s t → (step s i).run g = .ok ((s', out), g') →
      ¬ Bad past ⟨s, i, g⟩ → (step' t i).2 = out ∧ R (past ++ [⟨s, i, g⟩]) s' (step' t i).1)
    {s s'' : State} {t : State'} {is : List Input} {g g'' : Gen} {outs : List Output}
    (hrel : R [] s t) (hrun : (run step s is).run g = .ok ((s'', outs), g''))
    (hno : ¬ Encounters Bad (steps step s g is)) :
    (run step' t is).2 = outs ∧ R (steps step s g is) s'' (run step' t is).1 := by
  have hgood : ∀ earlier x later, steps step s g is = earlier ++ x :: later →
      ¬ Bad ([] ++ earlier) x := by
    intro earlier x later heq hbad
    exact hno ⟨earlier, x, later, heq, hbad⟩
  exact run_simulates_from hstep hrel hrun hgood

end simulation

end Interactive

end Lib
