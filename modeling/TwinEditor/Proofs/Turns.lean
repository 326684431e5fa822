/-!
# Runs of turns

A system that moves by turns is a partial function of its state and a turn. Every list of turns is a
run of it: a turn that is impossible when it comes changes nothing. So whatever every possible turn
keeps holds at the end of every run.
-/

namespace TwinEditor

variable {State Turn : Type} {turn? : State → Turn → Option State}

/-- Take turns one after another. A turn that is impossible when it comes changes nothing. -/
def takeTurns (turn? : State → Turn → Option State) (state : State) (turns : List Turn) : State :=
  turns.foldl (fun state turn => (turn? state turn).getD state) state

theorem takeTurns_cons_of_some
    {state next : State}
    {turn : Turn}
    (possible : turn? state turn = some next)
    (turns : List Turn) :
    takeTurns turn? state (turn :: turns) = takeTurns turn? next turns := by
  simp [takeTurns, possible]

theorem takeTurns_cons_of_none
    {state : State}
    {turn : Turn}
    (impossible : turn? state turn = none)
    (turns : List Turn) :
    takeTurns turn? state (turn :: turns) = takeTurns turn? state turns := by
  simp [takeTurns, impossible]

theorem takeTurns_append
    (state : State)
    (turns later : List Turn) :
    takeTurns turn? state (turns ++ later) =
      takeTurns turn? (takeTurns turn? state turns) later :=
  List.foldl_append

/-- What every possible turn keeps, as long as every state on the way is allowed, holds at the end of
every run that it held at the beginning of. -/
theorem takeTurns_induction_of_allowed
    {allowed invariant : State → Prop}
    (kept : ∀ {state turn next}, allowed state → invariant state →
      turn? state turn = some next → invariant next)
    (turns : List Turn)
    {state : State}
    (always : ∀ count, allowed (takeTurns turn? state (turns.take count)))
    (holds : invariant state) :
    invariant (takeTurns turn? state turns) := by
  induction turns generalizing state with
  | nil => exact holds
  | cons turn turns inductionHypothesis =>
      have later (count : Nat) := always (count + 1)
      simp only [List.take_succ_cons] at later
      cases possible : turn? state turn with
      | none =>
          simp only [takeTurns_cons_of_none possible] at later ⊢
          exact inductionHypothesis later holds
      | some next =>
          simp only [takeTurns_cons_of_some possible] at later ⊢
          exact inductionHypothesis later (kept (always 0) holds possible)

/-- What every possible turn keeps holds at the end of every run that it held at the beginning
of. -/
theorem takeTurns_induction
    {invariant : State → Prop}
    (kept : ∀ {state turn next}, invariant state → turn? state turn = some next → invariant next)
    (turns : List Turn)
    {state : State}
    (holds : invariant state) :
    invariant (takeTurns turn? state turns) :=
  @takeTurns_induction_of_allowed _ _ _ (fun _ => True) _ (fun _ => kept) turns _
    (fun _ => trivial) holds

/-- What every possible turn of a run keeps holds at its end if it held at its beginning. -/
theorem takeTurns_induction_of_mem
    {invariant : State → Prop}
    (turns : List Turn)
    (kept : ∀ {state turn next}, turn ∈ turns → invariant state →
      turn? state turn = some next → invariant next)
    {state : State}
    (holds : invariant state) :
    invariant (takeTurns turn? state turns) := by
  induction turns generalizing state with
  | nil => exact holds
  | cons turn turns inductionHypothesis =>
      have later {state : State} (holds : invariant state) :
          invariant (takeTurns turn? state turns) :=
        inductionHypothesis (fun member => kept (List.mem_cons_of_mem turn member)) holds
      cases possible : turn? state turn with
      | none =>
          rw [takeTurns_cons_of_none possible]
          exact later holds
      | some next =>
          rw [takeTurns_cons_of_some possible]
          exact later (kept List.mem_cons_self holds possible)

/-- What holds at the end of a run and not at its beginning came about with one of its turns. -/
theorem exists_turn_of_takeTurns
    {property : State → Prop}
    (turns : List Turn)
    {state : State}
    (absent : ¬ property state)
    (holds : property (takeTurns turn? state turns)) :
    ∃ before turn after next, turns = before ++ turn :: after ∧
      ¬ property (takeTurns turn? state before) ∧
      turn? (takeTurns turn? state before) turn = some next ∧ property next := by
  induction turns generalizing state with
  | nil => exact absurd holds absent
  | cons first turns inductionHypothesis =>
      cases possible : turn? state first with
      | none =>
          rw [takeTurns_cons_of_none possible] at holds
          obtain ⟨before, turn, after, next, rfl, step⟩ := inductionHypothesis absent holds
          refine ⟨first :: before, turn, after, next, rfl, ?_⟩
          rwa [takeTurns_cons_of_none possible]
      | some second =>
          rw [takeTurns_cons_of_some possible] at holds
          by_cases already : property second
          · exact ⟨[], first, turns, second, rfl, absent, possible, already⟩
          · obtain ⟨before, turn, after, next, rfl, step⟩ := inductionHypothesis already holds
            refine ⟨first :: before, turn, after, next, rfl, ?_⟩
            rwa [takeTurns_cons_of_some possible]

end TwinEditor
