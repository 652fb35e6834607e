import OpaqueVx.Lib.Outcome

/-! # Systems that reply to calls

  A system takes calls one after the other and replies to each. Between two
  calls something else may happen to its state: it is moved, compacted, saved and
  loaded again. Such an operation is transparent when no later reply can tell,
  which is shown with a relation between states: calls on related states get the
  same reply and lead to related states, and the operation leads from a state to
  one that is related to everything the old one was related to.
-/

namespace Lib

variable {State Call Op Reply ε : Type}

/-- What happens to a system: a call, or an operation that nobody asked for. -/
inductive Event (Call Op : Type) where
  | call (c : Call)
  | op (o : Op)

namespace Event

/-- The calls among the events. -/
def calls : List (Event Call Op) → List Call
  | [] => []
  | .call c :: events => c :: calls events
  | .op _ :: events => calls events

end Event

/-- The replies to a sequence of calls. -/
def replies (step : State → Call → State × Reply) : State → List Call → List Reply
  | _, [] => []
  | s, c :: cs => (step s c).2 :: replies step (step s c).1 cs

/-- The replies when operations take place in between. An operation that fails ends
    the run. -/
def runEvents (step : State → Call → State × Reply) (perform : State → Op → Outcome ε State) :
    State → List (Event Call Op) → Outcome ε (List Reply)
  | _, [] => .ok []
  | s, .call c :: events => do
    let later ← runEvents step perform (step s c).1 events
    return (step s c).2 :: later
  | s, .op o :: events => do
    let s ← perform s o
    runEvents step perform s events

/-- Operations that respect a relation under which calls cannot tell states apart
    always succeed and change no reply. -/
theorem runEvents_eq_replies {step : State → Call → State × Reply}
    {perform : State → Op → Outcome ε State} {R : State → State → Prop}
    (hstep : ∀ s t c, R s t → (step s c).2 = (step t c).2 ∧ R (step s c).1 (step t c).1)
    (hop : ∀ s t o, R s t → ∃ s', perform s o = .ok s' ∧ R s' t)
    (events : List (Event Call Op)) {s t : State} (h : R s t) :
    runEvents step perform s events = .ok (replies step t (Event.calls events)) := by
  induction events generalizing s t with
  | nil => rfl
  | cons event events ih =>
    cases event with
    | call c =>
      obtain ⟨hreply, hR⟩ := hstep s t c h
      have hlater := ih hR
      simp only [runEvents, hlater, Outcome.ok_bind, hreply]
      rfl
    | op o =>
      obtain ⟨s', hperform, hR⟩ := hop s t o h
      simp only [runEvents, hperform, Outcome.ok_bind]
      exact ih hR

end Lib
