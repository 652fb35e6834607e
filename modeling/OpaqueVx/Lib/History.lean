import OpaqueVx.Lib.Replies

/-! # Histories

  The history of a system that replies to calls: every call that it took, with the
  reply that it gave. What a system keeps can often be read off its history, and then
  a statement about all states that it reaches is one about histories. The first rule
  below says so: an account of the state that is right at the start, and that each step
  keeps right, is right after every run.

  A step may also be seen as some entries in the history of another system, as one, as
  none or as several. Where the other system can make these entries from a related state,
  every run is seen as a history of the other system. -/

namespace Lib

variable {State Call Reply : Type} (step : State → Call → State × Reply)

/-- The state after a sequence of calls. -/
def after : State → List Call → State
  | s, [] => s
  | s, c :: cs => after (step s c).1 cs

/-- The calls with their replies. -/
def history : State → List Call → List (Call × Reply)
  | _, [] => []
  | s, c :: cs => (c, (step s c).2) :: history (step s c).1 cs

variable {step}

theorem after_append (s : State) (cs ds : List Call) :
    after step s (cs ++ ds) = after step (after step s cs) ds := by
  induction cs generalizing s with
  | nil => rfl
  | cons c cs ih => exact ih _

theorem history_append (s : State) (cs ds : List Call) :
    history step s (cs ++ ds) = history step s cs ++ history step (after step s cs) ds := by
  induction cs generalizing s with
  | nil => rfl
  | cons c cs ih => simp only [List.cons_append, history, after, ih]

/-- Every entry of a history is one step from the state that the calls before it lead
    to. -/
theorem of_mem_history {s : State} {cs : List Call} {c : Call} {r : Reply}
    (h : (c, r) ∈ history step s cs) :
    ∃ earlier later, cs = earlier ++ c :: later ∧ r = (step (after step s earlier) c).2 := by
  induction cs generalizing s with
  | nil => cases h
  | cons d cs ih =>
    rcases List.mem_cons.mp h with heq | hmem
    · injection heq with hc hr
      subst hc
      exact ⟨[], cs, rfl, hr⟩
    · obtain ⟨earlier, later, rfl, hr⟩ := ih hmem
      exact ⟨d :: earlier, later, rfl, hr⟩

/-- An account of the state that is right at the start and that steps keep right. -/
theorem history_invariant {I : List (Call × Reply) → State → Prop}
    (hstep : ∀ past s c, I past s → I (past ++ [(c, (step s c).2)]) (step s c).1)
    {past : List (Call × Reply)} {s : State} (h : I past s) (cs : List Call) :
    I (past ++ history step s cs) (after step s cs) := by
  induction cs generalizing past s with
  | nil =>
    rw [history, List.append_nil]
    exact h
  | cons c cs ih =>
    have hlater := ih (hstep past s c h)
    rw [List.append_assoc] at hlater
    exact hlater

section simulation

variable {State' Call' Reply' : Type} {step' : State' → Call' → State' × Reply'}

variable (step) in
/-- What a run is seen as when each step is seen as some entries of another history. -/
def viewed (view : State → Call → List (Call' × Reply')) : State → List Call →
    List (Call' × Reply')
  | _, [] => []
  | s, c :: cs => view s c ++ viewed view (step s c).1 cs

/-- Steps that are seen as what the other system does make runs that are seen as runs of
    the other system. The calls of the run may be restricted to those with a property. -/
theorem history_simulates {R : State → State' → Prop} {P : Call → Prop}
    {view : State → Call → List (Call' × Reply')}
    (hstep : ∀ s t c, P c → R s t →
      ∃ cs, history step' t cs = view s c ∧ R (step s c).1 (after step' t cs))
    {s : State} {t : State'} (h : R s t) (calls : List Call) (hcalls : ∀ c ∈ calls, P c) :
    ∃ cs, history step' t cs = viewed step view s calls ∧
      R (after step s calls) (after step' t cs) := by
  induction calls generalizing s t with
  | nil => exact ⟨[], rfl, h⟩
  | cons c calls ih =>
    have hc : P c := hcalls c List.mem_cons_self
    obtain ⟨now, hnow, hR⟩ := hstep s t c hc h
    obtain ⟨later, hlater, hend⟩ := ih hR fun d hd => hcalls d (List.mem_cons_of_mem c hd)
    refine ⟨now ++ later, ?_, ?_⟩
    · rw [history_append, hnow, hlater, viewed]
    · rw [after_append]
      exact hend

end simulation

end Lib
