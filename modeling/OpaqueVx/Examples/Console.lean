import Mathlib.Data.Finset.Basic
import OpaqueVx.Lib.Interactive
import OpaqueVx.Primitives

/-! # Consoles

  The loop of the example programs. It prints what it has, offers two options, asks for
  two strings and acts on them. A program is in one of its calls of `readline` whenever
  it waits, and so a state says which one that is. -/

namespace OpaqueVx.Examples

open Lib

/-! ### Text -/

/-- `as_bytes`. -/
def asBytes (s : String) : Bytes := s.toByteArray.data.toList

theorem asBytes_inj {s t : String} : asBytes s = asBytes t ↔ s = t := by
  constructor
  · intro h
    apply String.toByteArray_inj.mp
    apply ByteArray.ext
    exact Array.toList_inj.mp h
  · rintro rfl
    rfl

/-! ### The loop -/

/-- `ReadlineError`. Other errors are known by how they print. -/
inductive ReadlineError where
  | interrupted
  | eof
  | other (debug : String)
  deriving DecidableEq

/-- What `readline` returns. -/
abbrev Readline := Except ReadlineError String

/-- What is printed. The keys of a `HashMap` are printed in no particular order. -/
inductive Printed where
  | line (text : String)
  | prompt (text : String)
  | usernames (keys : Finset String)
  deriving DecidableEq

/-- `handle_error`. -/
def handleError : ReadlineError → Printed
  | .interrupted => .line "CTRL-C"
  | .eof => .line "CTRL-D"
  | .other debug => .line ("Error: " ++ debug)

/-- The option that is chosen. -/
inductive Choice where
  | one
  | two
  deriving DecidableEq

def Choice.ofLine (line : String) : Option Choice :=
  if line = "1" then some .one else if line = "2" then some .two else none

/-- The call of `readline` that a program is in: that of the loop, or one of those of
    `get_two_strings`, which asks for the second string when it has the first. -/
inductive Phase where
  | menu
  | strings (choice : Choice) (string1 : Option String)
  | exited
  deriving DecidableEq

/-- What a program adds to the loop: its state, what it prints of it, the strings that it
    asks for, and what it does with them. -/
structure Console (m : Type → Type) (State : Type) where
  display : State → List Printed
  queries : Choice → String × String
  act : Choice → String → String → State → m (State × List Printed)

namespace Console

variable {m : Type → Type} {State State' : Type} (c : Console m State)

/-- The top of the loop. -/
def menu (s : State) : List Printed :=
  c.display s ++ [.prompt "> "]

/-- The prompt of `get_two_strings`. -/
def query (choice : Choice) (string1 : Option String) : Printed :=
  let (s1, s2) := c.queries choice
  let query := if string1.isNone then s1 else s2
  .prompt (query ++ ": ")

/-- From one call of `readline` to the next. -/
def step [Monad m] : Interactive m (Phase × State) Readline Printed
  | (.exited, s), _ => pure ((.exited, s), [])
  | (.menu, s), .ok line =>
    match Choice.ofLine line with
    | none =>
      pure ((.menu, s), .line "Error: Invalid option (either specify 1 or 2)" :: c.menu s)
    | some choice => pure ((.strings choice none, s), [c.query choice none])
  | (.strings choice none, s), .ok line =>
    pure ((.strings choice (some line), s), [c.query choice (some line)])
  | (.strings choice (some string1), s), .ok line => do
    let (s', out) ← c.act choice string1 line s
    return ((.menu, s'), out ++ c.menu s')
  | (.menu, s), .error err => pure ((.exited, s), [handleError err])
  | (.strings _ _, s), .error err => pure ((.exited, s), [handleError err])

/-- What the program has printed after it has read the lines. -/
def main [Monad m] (s : State) (lines : List Readline) : m (List Printed) := do
  let (_, outs) ← Interactive.run c.step (.menu, s) lines
  return c.menu s ++ outs

/-! ### What a console stands for -/

/-- A step of a run. -/
abbrev Step (State : Type) := StepStart (Phase × State) Readline Rng

/-- What a step acts on. -/
def Step.acts (x : Step State) : Option (Choice × String × String) :=
  match x.state.1, x.input with
  | .strings choice (some string1), .ok string2 => some (choice, string1, string2)
  | _, _ => none

/-- Up to bad steps, one console acts as another: the account of their states is kept by
    every act, and it does not depend on the steps that do not act. -/
structure Refines (c : Console (RngM Empty) State) (d : Console Id State')
    (R : List (Step State) → State → State' → Prop)
    (Bad : List (Step State) → Step State → Prop) : Prop where
  display : ∀ past s t, R past s t → c.display s = d.display t
  queries : c.queries = d.queries
  idle : ∀ past x s t, R past s t → R (past ++ [x]) s t
  act : ∀ past s t choice string1 string2 r s' out r', R past s t →
    (c.act choice string1 string2 s).run r = .ok ((s', out), r') →
    ¬ Bad past ⟨(.strings choice (some string1), s), .ok string2, r⟩ →
    (d.act choice string1 string2 t).2 = out ∧
      R (past ++ [⟨(.strings choice (some string1), s), .ok string2, r⟩]) s'
        (d.act choice string1 string2 t).1

namespace Refines

variable {c : Console (RngM Empty) State} {d : Console Id State'}
  {R : List (Step State) → State → State' → Prop} {Bad : List (Step State) → Step State → Prop}

theorem query_eq (h : c.Refines d R Bad) (choice : Choice) (string1 : Option String) :
    c.query choice string1 = d.query choice string1 := by
  rw [query, query, h.queries]

theorem menu_eq (h : c.Refines d R Bad) {past : List (Step State)} {s : State} {t : State'}
    (hrel : R past s t) : c.menu s = d.menu t := by
  rw [menu, menu, h.display past s t hrel]

/-- One step, wherever the program is. -/
theorem step (h : c.Refines d R Bad) {past : List (Step State)} {phase : Phase} {s : State}
    {t : State'} {line : Readline} {r : Rng} {s' : Phase × State} {out : List Printed} {r' : Rng}
    (hrel : R past s t) (hstep : (c.step (phase, s) line).run r = .ok ((s', out), r'))
    (hno : ¬ Bad past ⟨(phase, s), line, r⟩) :
    (d.step (phase, t) line).2 = out ∧ (d.step (phase, t) line).1.1 = s'.1 ∧
      R (past ++ [⟨(phase, s), line, r⟩]) s'.2 (d.step (phase, t) line).1.2 := by
  have hidle := h.idle past ⟨(phase, s), line, r⟩ s t hrel
  -- A step that does not act keeps the state.
  have hpure : ∀ phase' out', c.step (phase, s) line = pure ((phase', s), out') →
      d.step (phase, t) line = ((phase', t), out') →
      (d.step (phase, t) line).2 = out ∧ (d.step (phase, t) line).1.1 = s'.1 ∧
        R (past ++ [⟨(phase, s), line, r⟩]) s'.2 (d.step (phase, t) line).1.2 := by
    intro phase' out' hc hd
    rw [hc, StateT.run_pure] at hstep
    injection hstep with hstep
    obtain ⟨hs, -⟩ := Prod.mk.inj hstep
    obtain ⟨rfl, rfl⟩ := Prod.mk.inj hs
    rw [hd]
    exact ⟨rfl, rfl, hidle⟩
  cases phase with
  | exited => exact hpure .exited [] rfl rfl
  | menu =>
    cases line with
    | error err => exact hpure .exited [handleError err] rfl rfl
    | ok line =>
      cases hchoice : Choice.ofLine line with
      | none =>
        apply hpure .menu
          (.line "Error: Invalid option (either specify 1 or 2)" :: c.menu s)
        · simp only [Console.step, hchoice]
        · simp only [Console.step, hchoice, h.menu_eq hrel]
          rfl
      | some choice =>
        apply hpure (.strings choice none) [c.query choice none]
        · simp only [Console.step, hchoice]
        · simp only [Console.step, hchoice, h.query_eq]
          rfl
  | strings choice string1 =>
    cases line with
    | error err =>
      cases string1 with
      | none => exact hpure .exited [handleError err] rfl rfl
      | some string1 => exact hpure .exited [handleError err] rfl rfl
    | ok line =>
      cases string1 with
      | none =>
        apply hpure (.strings choice (some line)) [c.query choice (some line)]
        · rfl
        · rw [h.query_eq]
          rfl
      | some string1 =>
        obtain ⟨⟨s₁, out₁⟩, r₁, hact, hend⟩ := run_bind_eq_ok.mp hstep
        simp only [StateT.run_pure, Outcome.pure_eq, Outcome.ok.injEq, Prod.mk.injEq] at hend
        obtain ⟨⟨rfl, rfl⟩, rfl⟩ := hend
        obtain ⟨hout, hrel'⟩ := h.act past s t choice string1 line r s₁ out₁ r₁ hrel hact hno
        refine ⟨?_, rfl, hrel'⟩
        rw [← hout, h.menu_eq hrel']
        rfl

/-- A run that has no bad step prints what the other console prints. -/
theorem main (h : c.Refines d R Bad) {s : State} {t : State'} (hrel : R [] s t)
    {lines : List Readline} {r r' : Rng} {out : List Printed}
    (hrun : (c.main s lines).run r = .ok (out, r'))
    (hno : ¬ Encounters Bad (Interactive.steps c.step (.menu, s) r lines)) :
    d.main t lines = out := by
  obtain ⟨⟨s', outs⟩, r₁, hloop, hend⟩ := run_bind_eq_ok.mp hrun
  simp only [StateT.run_pure, Outcome.pure_eq, Outcome.ok.injEq, Prod.mk.injEq] at hend
  obtain ⟨rfl, rfl⟩ := hend
  let R' : List (Step State) → Phase × State → Phase × State' → Prop :=
    fun past x y => y.1 = x.1 ∧ R past x.2 y.2
  have hstep : ∀ past x y i g x' out' g', R' past x y → (c.step x i).run g = .ok ((x', out'), g') →
      ¬ Bad past ⟨x, i, g⟩ →
      (d.step y i).2 = out' ∧ R' (past ++ [⟨x, i, g⟩]) x' (d.step y i).1 := by
    rintro past ⟨phase, u⟩ ⟨phase', v⟩ i g x' out' g' ⟨hphase, hrel⟩ hok hgood
    obtain rfl : phase' = phase := hphase
    exact h.step hrel hok hgood
  have hstart : R' [] (.menu, s) (.menu, t) := ⟨rfl, hrel⟩
  have hsame := (Interactive.run_simulates hstep hstart hloop hno).1
  rw [h.menu_eq hrel, ← hsame]
  rfl

end Refines

end Console

end OpaqueVx.Examples
