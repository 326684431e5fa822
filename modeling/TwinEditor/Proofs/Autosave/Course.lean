import Mathlib.Data.Option.Basic
import TwinEditor.Proofs.Autosave.Pipeline
import TwinEditor.Autosave.Machine

/-!
# Courses of a machine

A course of a machine is a sequence of moves: what its owners ask for, and what happens to it. A
move that is impossible when it comes changes nothing, so that every list of moves is a course
and every state a machine can be in is at the end of one. The main statement says once and for
all what a move can do; whatever holds of all courses follows from it by induction on the list
of moves.
-/

namespace TwinEditor
namespace Autosave

open Store

/-- What may come next for a machine. -/
inductive Move
  | request (request : Request)
  | occurrence (occurrence : Occurrence)

/-- Whether a move hands over a content, or ends a call to the store. -/
def Move.isWeighty : Move → Bool
  | .request (.save _) => true
  | .occurrence (.updateReply ..) => true
  | .occurrence (.fetchReply ..) => true
  | .occurrence (.cancel _) => true
  | _ => false

/-- Whether an effect only tells the owner of the request with a number that nothing was begun. -/
def Effect.isIdle (number : Nat) : Effect → Bool
  | .attempted other .skipped => other == number
  | .resolved other (.error .noConflict) => other == number
  | _ => false

/-- Whether a call to the store is a write. -/
def Task.isWriting : Task → Bool
  | .writing .. => true
  | .fetching _ => false

@[simp] theorem Task.isWriting_writing (purpose : Purpose) (write : Write) :
    (writing purpose write).isWriting = true := rfl

@[simp] theorem Task.isWriting_fetching (resolution : Resolution) :
    (fetching resolution).isWriting = false := rfl

namespace Machine

/-- What a move does, if it is possible now. Only somebody who holds the machine makes requests. -/
def move? (machine : Machine) : Move → Option (Machine × List Effect)
  | .request request => if machine.isHeld then some (machine.request request) else none
  | .occurrence occurrence => machine.occur? occurrence

/-- Make moves one after another: the machine afterwards, and everything it did. -/
def follow : Machine → List Move → Machine × List Effect
  | machine, [] => (machine, [])
  | machine, move :: moves =>
      let (next, effects) := (machine.move? move).getD (machine, [])
      let (last, later) := next.follow moves
      (last, effects ++ later)

@[simp] theorem follow_nil (machine : Machine) : machine.follow [] = (machine, []) := rfl

theorem follow_cons_of_some
    {machine next : Machine}
    {move : Move}
    {effects : List Effect}
    (possible : machine.move? move = some (next, effects))
    (moves : List Move) :
    machine.follow (move :: moves) =
      ((next.follow moves).1, effects ++ (next.follow moves).2) := by
  simp [follow, possible]

theorem follow_cons_of_none
    {machine : Machine}
    {move : Move}
    (impossible : machine.move? move = none)
    (moves : List Move) :
    machine.follow (move :: moves) = machine.follow moves := by
  simp [follow, impossible]

theorem follow_append
    (machine : Machine)
    (moves later : List Move) :
    machine.follow (moves ++ later) =
      (((machine.follow moves).1.follow later).1,
        (machine.follow moves).2 ++ ((machine.follow moves).1.follow later).2) := by
  induction moves generalizing machine with
  | nil => simp
  | cons move moves inductionHypothesis =>
      cases possible : machine.move? move with
      | none =>
          rw [List.cons_append, follow_cons_of_none possible, follow_cons_of_none possible,
            inductionHypothesis]
      | some step =>
          rw [List.cons_append, follow_cons_of_some possible, follow_cons_of_some possible,
            inductionHypothesis, List.append_assoc]

/-- What holds at first and is kept by every possible move holds at the end of every course. -/
theorem follow_induction
    {invariant : Machine → Prop}
    (kept : ∀ {machine move next effects}, invariant machine →
      machine.move? move = some (next, effects) → invariant next)
    (moves : List Move)
    {machine : Machine}
    (holds : invariant machine) :
    invariant (machine.follow moves).1 := by
  induction moves generalizing machine with
  | nil => exact holds
  | cons move moves inductionHypothesis =>
      cases possible : machine.move? move with
      | none =>
          rw [follow_cons_of_none possible]
          exact inductionHypothesis holds
      | some step =>
          rw [follow_cons_of_some possible]
          exact inductionHypothesis (kept holds possible)

/-- The calls that have no answer yet after the interval timer is stopped. -/
def stoppedTasks (machine : Machine) : List (Nat × Task) :=
  machine.tasks.map fun (number, task) => (number, stopTask task)

/-- What a move can do to a machine that is needed: the machine afterwards, and what it does to its
surroundings. The clock, the periods and who holds the machine are left open. -/
inductive Change (machine : Machine) : Move → Machine → List Effect → Prop
  /-- Only timers change. -/
  | quiet
      {move : Move} {next : Machine} {effects : List Effect}
      (light : move.isWeighty = false)
      (pipeline : machine.pipeline.Quieted next.pipeline)
      (tasks : next.tasks = machine.tasks ∨ next.tasks = machine.stoppedTasks)
      (nextNumber : machine.nextNumber ≤ next.nextNumber)
      (idle : ∀ effect ∈ effects, effect.isIdle machine.nextNumber = true) :
      Change machine move next effects
  /-- A content is buffered. -/
  | save
      {next : Machine} (content : String) (due : Nat)
      (pipeline : next.pipeline = machine.pipeline.buffer content due)
      (tasks : next.tasks = machine.tasks)
      (nextNumber : next.nextNumber = machine.nextNumber) :
      Change machine (.request (.save content)) next []
  /-- A write begins. -/
  | launch
      {move : Move} {next : Machine} (purpose : Purpose) (ready : Pipeline) (write : Write)
      (light : move.isWeighty = false)
      (quieted : machine.pipeline.Quieted ready)
      (found : ready.nextWrite? = some write)
      (pipeline : next.pipeline = ready.launch)
      (tasks : next.tasks = (machine.nextNumber, .writing purpose write) :: machine.tasks)
      (nextNumber : next.nextNumber = machine.nextNumber + 1)
      (unresolved : ∀ latest, purpose ≠ .resubmit latest) :
      Change machine move next [.updateCalled machine.nextNumber write]
  /-- A resolution begins. -/
  | fetch
      {next : Machine} (resolution : Resolution)
      (phase : machine.pipeline.phase = .conflict)
      (pipeline : next.pipeline = machine.pipeline)
      (tasks : next.tasks = (machine.nextNumber, .fetching resolution) :: machine.tasks)
      (nextNumber : next.nextNumber = machine.nextNumber + 1) :
      Change machine (.request (.resolve resolution)) next
        [.fetchCalled machine.nextNumber machine.pipeline.project]
  /-- A write is answered. -/
  | land
      {next : Machine} (number : Nat) (purpose : Purpose) (write : Write) (reply : UpdateReply)
      (task : machine.task? number = some (.writing purpose write))
      (running : purpose ≠ .stopped)
      (pipeline : next.pipeline = machine.pipeline.land write.content reply)
      (tasks : next.tasks = (machine.dropTask number).tasks)
      (nextNumber : next.nextNumber = machine.nextNumber) :
      Change machine (.occurrence (.updateReply number reply)) next
        (.announced (.ofReply reply) :: answers purpose number (Event.ofReply reply).attempt)
  /-- The document of the store does not come. -/
  | refuse
      {next : Machine} (number : Nat) (resolution : Resolution) (failure : Failure)
      (task : machine.task? number = some (.fetching resolution))
      (pipeline : next.pipeline = machine.pipeline)
      (tasks : next.tasks = (machine.dropTask number).tasks)
      (nextNumber : next.nextNumber = machine.nextNumber) :
      Change machine (.occurrence (.fetchReply number (.error failure))) next
        [.resolved number (.error failure)]
  /-- The document of the store comes, and there is nothing to write over it. -/
  | adopt
      {next : Machine} (number : Nat) (resolution : Resolution) (latest : Document)
      (task : machine.task? number = some (.fetching resolution))
      (lost : (machine.pipeline.adopt resolution latest).nextWrite? = none)
      (pipeline : next.pipeline = machine.pipeline.adopt resolution latest)
      (tasks : next.tasks = (machine.dropTask number).tasks)
      (nextNumber : next.nextNumber = machine.nextNumber) :
      Change machine (.occurrence (.fetchReply number (.ok latest))) next
        [.resolved number (.ok latest)]
  /-- The document of the store comes, and the buffered content is written over it. -/
  | resubmit
      {next : Machine} (number : Nat) (resolution : Resolution) (latest : Document)
      (write : Write)
      (task : machine.task? number = some (.fetching resolution))
      (found : (machine.pipeline.adopt resolution latest).nextWrite? = some write)
      (pipeline : next.pipeline = (machine.pipeline.adopt resolution latest).launch)
      (tasks : next.tasks =
        (number, .writing (.resubmit latest) write) :: (machine.dropTask number).tasks)
      (nextNumber : next.nextNumber = machine.nextNumber) :
      Change machine (.occurrence (.fetchReply number (.ok latest))) next
        [.updateCalled number write]
  /-- A resolution is given up before the document of the store comes. -/
  | forgo
      {next : Machine} (number : Nat) (resolution : Resolution)
      (task : machine.task? number = some (.fetching resolution))
      (pipeline : next.pipeline = machine.pipeline)
      (tasks : next.tasks = (machine.dropTask number).tasks)
      (nextNumber : next.nextNumber = machine.nextNumber) :
      Change machine (.occurrence (.cancel number)) next []
  /-- A write is given up before it is answered. -/
  | abandon
      {next : Machine} (number : Nat) (purpose : Purpose) (write : Write)
      (task : machine.task? number = some (.writing purpose write))
      (pipeline : next.pipeline = machine.pipeline.abandon)
      (tasks : next.tasks = (machine.dropTask number).tasks)
      (nextNumber : next.nextNumber = machine.nextNumber) :
      Change machine (.occurrence (.cancel number)) next []

/-- An attempt to write, after a step that only changes timers and takes a number. -/
theorem change_of_attemptWrite
    {machine ready next : Machine}
    {move : Move}
    {purpose : Purpose}
    {effects : List Effect}
    (attempted : ready.attemptWrite purpose machine.nextNumber = (next, effects))
    (light : move.isWeighty = false)
    (quieted : machine.pipeline.Quieted ready.pipeline)
    (tasks : ready.tasks = machine.tasks)
    (nextNumber : ready.nextNumber = machine.nextNumber + 1)
    (unresolved : ∀ latest, purpose ≠ .resubmit latest) :
    Change machine move next effects := by
  unfold attemptWrite at attempted
  split at attempted
  case h_1 skipped =>
    obtain ⟨rfl, rfl⟩ := Prod.mk.inj attempted
    refine .quiet light quieted (.inl tasks) (by omega) fun effect member => ?_
    cases purpose with
    | flush =>
        obtain rfl := List.mem_singleton.mp member
        exact beq_self_eq_true _
    | resubmit latest => exact absurd rfl (unresolved latest)
    | debounce | interval | stopped => cases member
  case h_2 write found =>
    obtain ⟨rfl, rfl⟩ := Prod.mk.inj attempted
    exact .launch purpose ready.pipeline write light quieted found rfl
      (by rw [← tasks]) nextNumber unresolved

/-- A request does no more than a change. -/
theorem change_of_requestHeld
    {machine next : Machine}
    {request : Request}
    {effects : List Effect}
    (performed : machine.requestHeld request = (next, effects)) :
    Change machine (.request request) next effects := by
  cases request with
  | save content =>
      obtain ⟨rfl, rfl⟩ := Prod.mk.inj performed
      exact .save content _ rfl rfl rfl
  | start =>
      simp only [requestHeld] at performed
      split at performed
      · obtain ⟨rfl, rfl⟩ := Prod.mk.inj performed
        exact .quiet rfl (.refl _) (.inl rfl) (Nat.le_refl _) (by simp)
      · obtain ⟨rfl, rfl⟩ := Prod.mk.inj performed
        exact .quiet rfl (.setInterval _ _) (.inl rfl) (Nat.le_refl _) (by simp)
  | shutdown =>
      obtain ⟨rfl, rfl⟩ := Prod.mk.inj performed
      exact .quiet rfl (.stopTimers _) (.inr rfl) (Nat.le_refl _) (by simp)
  | flush =>
      cases free : machine.pipeline.isFree
      · simp only [requestHeld, takeNumber, free, Bool.false_eq_true, if_false] at performed
        exact change_of_attemptWrite performed rfl (.refl _) rfl rfl (by simp)
      · simp only [requestHeld, takeNumber, free, if_true] at performed
        exact change_of_attemptWrite performed rfl (.disarm_leaveDebounce _) rfl rfl (by simp)
  | resolve resolution =>
      by_cases phase : machine.pipeline.phase = .conflict
      · simp only [requestHeld, takeNumber, phase, if_true] at performed
        obtain ⟨rfl, rfl⟩ := Prod.mk.inj performed
        exact .fetch resolution phase rfl rfl rfl
      · simp only [requestHeld, takeNumber, phase, if_false] at performed
        obtain ⟨rfl, rfl⟩ := Prod.mk.inj performed
        exact .quiet rfl (.refl _) (.inl rfl) (Nat.le_succ _) (by simp [Effect.isIdle])
  | release =>
      obtain ⟨rfl, rfl⟩ := Prod.mk.inj performed
      exact .quiet rfl (.refl _) (.inl rfl) (Nat.le_refl _) (by simp)

/-- The debounce timer fires once it is due, and attempts a write. -/
theorem occurNeeded?_debounce_eq_some_iff
    {machine next : Machine}
    {effects : List Effect} :
    machine.occurNeeded? .debounce = some (next, effects) ↔
      ∃ due, machine.pipeline.debounce = some due ∧ due ≤ machine.clock ∧
        attemptWrite
          { machine.takeNumber.2 with pipeline := machine.pipeline.disarm.leaveDebounce }
          .debounce machine.nextNumber = (next, effects) := by
  constructor
  · intro occurred
    obtain ⟨due, armed, occurred⟩ := Option.bind_eq_some_iff.mp occurred
    obtain ⟨_, past, occurred⟩ := Option.bind_eq_some_iff.mp occurred
    exact ⟨due, armed, (Option.guard_eq_some' _).mp past, Option.some.inj occurred⟩
  · rintro ⟨due, armed, past, attempted⟩
    exact Option.bind_eq_some_iff.mpr ⟨due, armed,
      Option.bind_eq_some_iff.mpr ⟨(), if_pos past, congrArg some attempted⟩⟩

/-- The interval timer fires once it is due and waits for no answer, and attempts a write. -/
theorem occurNeeded?_tick_eq_some_iff
    {machine next : Machine}
    {effects : List Effect} :
    machine.occurNeeded? .tick = some (next, effects) ↔
      ∃ due, machine.pipeline.interval = some due ∧
        (due ≤ machine.clock ∧ !machine.tickerIsBusy) ∧
        attemptWrite
          { machine.takeNumber.2 with
            pipeline := { machine.pipeline with interval := some (machine.nextTick due) } }
          .interval machine.nextNumber = (next, effects) := by
  constructor
  · intro occurred
    obtain ⟨due, armed, occurred⟩ := Option.bind_eq_some_iff.mp occurred
    obtain ⟨_, past, occurred⟩ := Option.bind_eq_some_iff.mp occurred
    exact ⟨due, armed, (Option.guard_eq_some' _).mp past, Option.some.inj occurred⟩
  · rintro ⟨due, armed, past, attempted⟩
    exact Option.bind_eq_some_iff.mpr ⟨due, armed,
      Option.bind_eq_some_iff.mpr ⟨(), if_pos past, congrArg some attempted⟩⟩

/-- An occurrence does no more than a change. -/
theorem change_of_occurNeeded?
    {machine next : Machine}
    {occurrence : Occurrence}
    {effects : List Effect}
    (possible : machine.occurNeeded? occurrence = some (next, effects)) :
    Change machine (.occurrence occurrence) next effects := by
  cases occurrence with
  | pass milliseconds =>
      obtain ⟨rfl, rfl⟩ := Prod.mk.inj (Option.some.inj possible)
      exact .quiet rfl (.refl _) (.inl rfl) (Nat.le_refl _) (by simp)
  | debounce =>
      obtain ⟨_, _, _, attempted⟩ := occurNeeded?_debounce_eq_some_iff.mp possible
      exact change_of_attemptWrite attempted rfl (.disarm_leaveDebounce _) rfl rfl (by simp)
  | tick =>
      obtain ⟨_, _, _, attempted⟩ := occurNeeded?_tick_eq_some_iff.mp possible
      exact change_of_attemptWrite attempted rfl (.setInterval _ _) rfl rfl (by simp)
  | updateReply number reply =>
      simp only [occurNeeded?] at possible
      split at possible
      · cases possible
      case h_2 purpose write running task =>
        obtain ⟨rfl, rfl⟩ := Prod.mk.inj (Option.some.inj possible)
        exact .land number purpose write reply task running rfl rfl rfl
      · cases possible
  | fetchReply number reply =>
      simp only [occurNeeded?] at possible
      split at possible
      case h_1 resolution task =>
        cases reply with
        | error failure =>
            obtain ⟨rfl, rfl⟩ := Prod.mk.inj (Option.some.inj possible)
            exact .refuse number resolution failure task rfl rfl rfl
        | ok latest =>
            simp only [Option.some.injEq, attemptWrite] at possible
            split at possible
            case h_1 lost =>
              obtain ⟨rfl, rfl⟩ := Prod.mk.inj possible
              exact .adopt number resolution latest task lost rfl rfl rfl
            case h_2 write found =>
              obtain ⟨rfl, rfl⟩ := Prod.mk.inj possible
              exact .resubmit number resolution latest write task found rfl rfl rfl
      · cases possible
  | cancel number =>
      simp only [occurNeeded?] at possible
      split at possible
      case h_1 resolution task =>
        obtain ⟨rfl, rfl⟩ := Prod.mk.inj (Option.some.inj possible)
        exact .forgo number resolution task rfl rfl rfl
      · cases possible
      · cases possible
      case h_4 purpose write _ _ task =>
        obtain ⟨rfl, rfl⟩ := Prod.mk.inj (Option.some.inj possible)
        exact .abandon number purpose write task rfl rfl rfl
      · cases possible

/-- What happens to a machine happens to it while it is needed, and may leave it needed no more. -/
theorem exists_occurNeeded?_of_occur?
    {machine next : Machine}
    {occurrence : Occurrence}
    {effects : List Effect}
    (possible : machine.occur? occurrence = some (next, effects)) :
    ∃ changed, machine.occurNeeded? occurrence = some (changed, effects) ∧
      next = changed.retire := by
  simp only [occur?, Option.bind_eq_bind, Option.bind_eq_some_iff, Option.pure_def,
    Option.some.injEq] at possible
  obtain ⟨⟨changed, made⟩, occurred, same⟩ := possible
  obtain ⟨rfl, rfl⟩ := Prod.mk.inj same
  exact ⟨changed, occurred, rfl⟩

/-- Every possible move is a change of a machine that is needed, after which the machine may
turn out to be needed no more. -/
theorem change_of_move?
    {machine next : Machine}
    {move : Move}
    {effects : List Effect}
    (possible : machine.move? move = some (next, effects)) :
    ∃ changed, Change machine move changed effects ∧ next = changed.retire := by
  cases move with
  | request request =>
      simp only [move?] at possible
      split at possible
      · obtain ⟨rfl, rfl⟩ := Prod.mk.inj (Option.some.inj possible)
        exact ⟨_, change_of_requestHeld rfl, rfl⟩
      · cases possible
  | occurrence occurrence =>
      obtain ⟨changed, occurred, rfl⟩ := exists_occurNeeded?_of_occur? possible
      exact ⟨changed, change_of_occurNeeded? occurred, rfl⟩

end Machine
end Autosave
end TwinEditor
