import TwinEditor.Proofs.Autosave.Purpose

/-!
# How a machine comes to rest

Only a save arms the debounce timer and only a start arms the interval timer, so what happens to a
machine leaves a timer that is stopped as it is. A machine that waits for one write, with its
debounce timer stopped, goes on waiting until the write is answered or given up. With both timers
stopped and no call open, nothing but time goes on.
-/

namespace TwinEditor
namespace Autosave

open Store

/-- Neither timer is armed. -/
structure Pipeline.IsStill (pipeline : Pipeline) : Prop where
  unarmed : pipeline.debounce = none
  untimed : pipeline.interval = none

theorem Pipeline.isStill_stopTimers (pipeline : Pipeline) : pipeline.stopTimers.IsStill :=
  ⟨rfl, rfl⟩

@[simp] theorem Pipeline.abandon_interval (pipeline : Pipeline) :
    pipeline.abandon.interval = pipeline.interval := by
  unfold abandon
  dsimp only
  split <;> rfl

namespace Machine

variable {machine next : Machine} {occurrence : Occurrence} {effects : List Effect}

theorem isStill_retire
    (still : machine.pipeline.IsStill) :
    machine.retire.pipeline.IsStill := by
  unfold retire
  split
  · exact still
  · exact ⟨rfl, rfl⟩

@[simp] theorem attemptWrite_interval (machine : Machine) (purpose : Purpose) (number : Nat) :
    (machine.attemptWrite purpose number).1.pipeline.interval = machine.pipeline.interval := by
  unfold attemptWrite
  split <;> rfl

/-- While a write is in flight, an attempt to write only tells that it was skipped. -/
theorem attemptWrite_of_inFlight
    {purpose : Purpose}
    {number : Nat}
    (attempted : machine.attemptWrite purpose number = (next, effects))
    (inFlight : machine.pipeline.inFlight = true) :
    next = machine ∧ effects = answers purpose number .skipped := by
  simp only [attemptWrite, Pipeline.nextWrite?, Pipeline.isFree, inFlight, Bool.not_true,
    Bool.and_false, Bool.false_eq_true, if_false, Prod.mk.injEq] at attempted
  exact ⟨attempted.1.symm, attempted.2.symm⟩

/-- Nothing that happens to a machine arms its debounce timer. -/
theorem unarmed_of_occurNeeded?
    (possible : machine.occurNeeded? occurrence = some (next, effects))
    (unarmed : machine.pipeline.debounce = none) :
    next.pipeline.debounce = none := by
  have change := change_of_occurNeeded? possible
  cases change with
  | quiet light pipeline => exact pipeline.debounce_eq_none unarmed
  | launch purpose ready write light quieted found pipeline =>
      rw [pipeline]
      exact quieted.debounce_eq_none unarmed
  | land number purpose write reply running stopped pipeline =>
      rw [pipeline]
      cases reply with
      | conflict => rfl
      | saved version => exact unarmed
      | failed failure => exact unarmed
  | refuse number resolution failure waiting pipeline => rwa [pipeline]
  | adopt number resolution latest waiting lost pipeline => rwa [pipeline]
  | resubmit number resolution latest write waiting found pipeline => rwa [pipeline]
  | forgo number resolution waiting pipeline => rwa [pipeline]
  | abandon number purpose write running pipeline => rwa [pipeline, Pipeline.abandon_debounce]

/-- Nothing that happens to a machine arms its interval timer. -/
theorem untimed_of_occurNeeded?
    (possible : machine.occurNeeded? occurrence = some (next, effects))
    (untimed : machine.pipeline.interval = none) :
    next.pipeline.interval = none := by
  cases occurrence with
  | pass milliseconds =>
      obtain ⟨rfl, _⟩ := Prod.mk.inj (Option.some.inj possible)
      exact untimed
  | debounce =>
      obtain ⟨_, _, _, attempted⟩ := occurNeeded?_debounce_eq_some_iff.mp possible
      obtain rfl : _ = next := congrArg Prod.fst attempted
      rw [attemptWrite_interval]
      exact untimed
  | tick =>
      obtain ⟨_, timed, _⟩ := occurNeeded?_tick_eq_some_iff.mp possible
      cases untimed.symm.trans timed
  | updateReply number reply =>
      simp only [occurNeeded?] at possible
      split at possible
      · cases possible
      · obtain ⟨rfl, _⟩ := Prod.mk.inj (Option.some.inj possible)
        cases reply <;> exact untimed
      · cases possible
  | fetchReply number reply =>
      simp only [occurNeeded?] at possible
      split at possible
      · cases reply with
        | error failure =>
            obtain ⟨rfl, _⟩ := Prod.mk.inj (Option.some.inj possible)
            exact untimed
        | ok latest =>
            obtain rfl : _ = next := congrArg Prod.fst (Option.some.inj possible)
            rw [attemptWrite_interval]
            exact untimed
      · cases possible
  | cancel number =>
      simp only [occurNeeded?] at possible
      split at possible
      · obtain ⟨rfl, _⟩ := Prod.mk.inj (Option.some.inj possible)
        exact untimed
      · cases possible
      · cases possible
      · obtain ⟨rfl, _⟩ := Prod.mk.inj (Option.some.inj possible)
        show machine.pipeline.abandon.interval = none
        rw [Pipeline.abandon_interval]
        exact untimed
      · cases possible

/-- The debounce timer stays stopped, whatever happens to the machine. -/
theorem unarmed_of_occur?
    (possible : machine.occur? occurrence = some (next, effects))
    (unarmed : machine.pipeline.debounce = none) :
    next.pipeline.debounce = none := by
  obtain ⟨changed, occurred, rfl⟩ := exists_occurNeeded?_of_occur? possible
  exact retire_debounce_eq_none (unarmed_of_occurNeeded? occurred unarmed)

/-- Both timers stay stopped, whatever happens to the machine. -/
theorem isStill_of_occur?
    (possible : machine.occur? occurrence = some (next, effects))
    (still : machine.pipeline.IsStill) :
    next.pipeline.IsStill := by
  obtain ⟨changed, occurred, rfl⟩ := exists_occurNeeded?_of_occur? possible
  exact isStill_retire
    ⟨unarmed_of_occurNeeded? occurred still.unarmed, untimed_of_occurNeeded? occurred still.untimed⟩

/-- The only call that has no answer yet is found by its number. -/
theorem task?_of_alone
    {number : Nat}
    {task : Task}
    (alone : machine.tasks = [(number, task)])
    (other : Nat) :
    machine.task? other = if number = other then some task else none := by
  by_cases same : number = other <;> simp [task?, alone, same]

/-- The only call that has no answer yet leaves none when it is over. -/
theorem dropTask_of_alone
    {number : Nat}
    {task : Task}
    (alone : machine.tasks = [(number, task)]) :
    (machine.dropTask number).tasks = [] := by
  simp [dropTask, alone]

/-- What can happen to a machine that waits for one write, with its debounce timer stopped. -/
inductive Awaits (machine : Machine) (number : Nat) (purpose : Purpose) (write : Write) :
    Occurrence → Machine → List Effect → Prop
  /-- Time goes on, or the interval timer fires in vain. -/
  | idle {occurrence : Occurrence} {next : Machine}
      (uncancelled : ∀ other, occurrence ≠ .cancel other)
      (tasks : next.tasks = machine.tasks)
      (pending : next.pipeline.pending = machine.pipeline.pending) :
      Awaits machine number purpose write occurrence next []
  | answered {next : Machine} (reply : UpdateReply)
      (unstopped : purpose ≠ .stopped)
      (tasks : next.tasks = [])
      (pending : next.pipeline.pending = (machine.pipeline.land write.content reply).pending) :
      Awaits machine number purpose write (.updateReply number reply) next
        (.announced (.ofReply reply) :: answers purpose number (Event.ofReply reply).attempt)
  | abandoned {next : Machine}
      (fired : purpose ≠ .debounce)
      (tasks : next.tasks = [])
      (pending : next.pipeline.pending = machine.pipeline.pending) :
      Awaits machine number purpose write (.cancel number) next []

/-- A machine that waits for one write, with its debounce timer stopped, goes on waiting until the
write is over. -/
theorem awaits_of_occur?
    {number : Nat}
    {purpose : Purpose}
    {write : Write}
    (alone : machine.tasks = [(number, .writing purpose write)])
    (inFlight : machine.pipeline.inFlight = true)
    (unarmed : machine.pipeline.debounce = none)
    (possible : machine.occur? occurrence = some (next, effects)) :
    machine.Awaits number purpose write occurrence next effects := by
  obtain ⟨changed, occurred, rfl⟩ := exists_occurNeeded?_of_occur? possible
  have found := machine.task?_of_alone alone
  cases occurrence with
  | pass milliseconds =>
      obtain ⟨rfl, rfl⟩ := Prod.mk.inj (Option.some.inj occurred)
      exact .idle (by rintro _ ⟨⟩) (retire_tasks _) (retire_pending _)
  | debounce =>
      obtain ⟨_, armed, _⟩ := occurNeeded?_debounce_eq_some_iff.mp occurred
      cases unarmed.symm.trans armed
  | tick =>
      obtain ⟨_, _, _, attempted⟩ := occurNeeded?_tick_eq_some_iff.mp occurred
      obtain ⟨rfl, rfl⟩ := attemptWrite_of_inFlight attempted inFlight
      exact .idle (by rintro _ ⟨⟩) (retire_tasks _) (retire_pending _)
  | updateReply other reply =>
      have change := change_of_occurNeeded? occurred
      cases change with
      | quiet light => cases light
      | launch purpose ready write light => cases light
      | land _ otherPurpose otherWrite _ running stopped pipeline tasks =>
          rw [found] at running
          split at running
          case isTrue same =>
            subst same
            obtain ⟨rfl, rfl⟩ := Task.writing.inj (Option.some.inj running)
            refine .answered reply stopped ?_ ?_
            · rw [retire_tasks, tasks, dropTask_of_alone alone]
            · rw [retire_pending, pipeline]
          case isFalse => cases running
  | fetchReply other reply =>
      have unfetched : machine.task? other ≠ some (.fetching .reload) ∧
          machine.task? other ≠ some (.fetching .overwrite) := by
        rw [found]
        split <;> simp
      simp only [occurNeeded?] at occurred
      split at occurred
      case h_1 resolution waiting =>
        cases resolution with
        | reload => exact absurd waiting unfetched.1
        | overwrite => exact absurd waiting unfetched.2
      case h_2 => cases occurred
  | cancel other =>
      have change := change_of_occurNeeded? occurred
      cases change with
      | quiet light => cases light
      | launch purpose ready write light => cases light
      | forgo _ resolution waiting =>
          rw [found] at waiting
          split at waiting <;> cases waiting
      | abandon _ otherPurpose otherWrite running pipeline tasks =>
          rw [found] at running
          split at running
          case isTrue same =>
            subst same
            obtain ⟨rfl, rfl⟩ := Task.writing.inj (Option.some.inj running)
            refine .abandoned ?_ ?_ ?_
            · rintro rfl
              simp [occurNeeded?, found] at occurred
            · rw [retire_tasks, tasks, dropTask_of_alone alone]
            · rw [retire_pending, pipeline, Pipeline.abandon_pending]
          case isFalse => cases running

/-- Nothing but time goes on when both timers are stopped and no call is open. -/
theorem eq_pass_of_occur?
    (done : machine.tasks = [])
    (still : machine.pipeline.IsStill)
    (possible : machine.occur? occurrence = some (next, effects)) :
    ∃ milliseconds, occurrence = .pass milliseconds ∧
      next = ({ machine with clock := machine.clock + milliseconds } : Machine).retire ∧
      effects = [] := by
  obtain ⟨changed, occurred, rfl⟩ := exists_occurNeeded?_of_occur? possible
  have found (number : Nat) : machine.task? number = none := by simp [task?, done]
  cases occurrence with
  | pass milliseconds =>
      obtain ⟨rfl, rfl⟩ := Prod.mk.inj (Option.some.inj occurred)
      exact ⟨milliseconds, rfl, rfl, rfl⟩
  | debounce =>
      obtain ⟨_, armed, _⟩ := occurNeeded?_debounce_eq_some_iff.mp occurred
      cases still.unarmed.symm.trans armed
  | tick =>
      obtain ⟨_, timed, _⟩ := occurNeeded?_tick_eq_some_iff.mp occurred
      cases still.untimed.symm.trans timed
  | updateReply number reply => simp [occurNeeded?, found] at occurred
  | fetchReply number reply => simp [occurNeeded?, found] at occurred
  | cancel number => simp [occurNeeded?, found] at occurred

end Machine
end Autosave
end TwinEditor
