import TwinEditor.Autosave.Run
import TwinEditor.Proofs.Autosave.Flight

/-!
# Runs with a prompt store

A prompt store answers every update at once. A run with such a store is at rest between any two
instants: nothing is under way, and only a timer or the owner can begin a write. The answer to a write is
taken at the instant of the write, before anything else happens.
-/

namespace TwinEditor
namespace Autosave

open Store

variable {σ : Type}

/-! ## Prompt stores -/

section Prompt

variable [Remote σ]

/-- The store answers every update at once with a reply as expected, whatever updates it took before. -/
def AnswersAtOnce (expected : Write → UpdateReply → Prop) (store : σ) : Prop :=
  ∀ (writes : List Write) (write : Write), ∃ reply,
    (Remote.update (writes.foldl (fun store write => (Remote.update store write).1) store) write).2 =
      ⟨0, reply⟩ ∧ expected write reply

namespace AnswersAtOnce

variable {expected : Write → UpdateReply → Prop} {store : σ}

theorem reply
    (prompt : AnswersAtOnce expected store)
    (write : Write) :
    ∃ reply, (Remote.update store write).2 = ⟨0, reply⟩ ∧ expected write reply :=
  prompt [] write

theorem update
    (prompt : AnswersAtOnce expected store)
    (write : Write) :
    AnswersAtOnce expected (Remote.update store write).1 :=
  fun writes => prompt (write :: writes)

theorem mono
    {weaker : Write → UpdateReply → Prop}
    (prompt : AnswersAtOnce expected store)
    (implies : ∀ write reply, expected write reply → weaker write reply) :
    AnswersAtOnce weaker store := by
  intro writes write
  obtain ⟨reply, answer, asExpected⟩ := prompt writes write
  exact ⟨reply, answer, implies write reply asExpected⟩

end AnswersAtOnce

/-- The store accepts every update at once. -/
def AcceptsAtOnce (store : σ) : Prop :=
  AnswersAtOnce (fun _ reply => ∃ version, reply = .saved version) store

/-- A script without planned answers accepts every update at once, under the next version. -/
theorem answersAtOnce_script (fetches : List (Delayed FetchReply)) :
    AnswersAtOnce (fun write reply => reply = .saved (nextVersion write.version))
      (⟨[], fetches⟩ : Script) := by
  intro writes write
  have kept : writes.foldl (fun store write => (Remote.update store write).1)
      (⟨[], fetches⟩ : Script) = ⟨[], fetches⟩ := by
    induction writes with
    | nil => rfl
    | cons _ _ inductionHypothesis => exact inductionHypothesis
  rw [kept]
  exact ⟨_, rfl, rfl⟩

end Prompt

@[simp] theorem Machine.attemptWrite_isHeld (machine : Machine) (purpose : Purpose) (number : Nat) :
    (machine.attemptWrite purpose number).1.isHeld = machine.isHeld := by
  unfold attemptWrite
  split <;> rfl

namespace Run

variable {run : Run Machine Effect σ}

/-! ## What comes first -/

/-- What is not overdue can happen when it is due. -/
theorem instant_eq_time
    {due : Due}
    (ahead : run.clock ≤ due.time) :
    run.instant due = due.time :=
  Nat.max_eq_left ahead

theorem instant_now
    (run : Run Machine Effect σ)
    (occurrence : Occurrence) :
    run.instant ⟨run.system.clock, occurrence⟩ = run.system.clock :=
  instant_eq_time (Nat.le_refl run.clock)

theorem foldl_earlier_eq_self
    {first : Due}
    {others : List Due}
    (earliest : ∀ due ∈ others, run.instant first ≤ run.instant due) :
    others.foldl run.earlier first = first := by
  induction others with
  | nil => rfl
  | cons due rest inductionHypothesis =>
      obtain ⟨head, tail⟩ := List.forall_mem_cons.mp earliest
      rw [List.foldl_cons, earlier, if_neg (Nat.not_lt.mpr head), inductionHypothesis tail]

theorem foldl_earlier_spec
    (first : Due)
    (others : List Due) :
    others.foldl run.earlier first ∈ first :: others ∧
      ∀ due ∈ first :: others, run.instant (others.foldl run.earlier first) ≤ run.instant due := by
  induction others generalizing first with
  | nil => exact ⟨.head _, fun due member => List.mem_singleton.mp member ▸ Nat.le_refl _⟩
  | cons second rest inductionHypothesis =>
      obtain ⟨isOne, isLeast⟩ := inductionHypothesis (run.earlier first second)
      obtain ⟨least, others⟩ := List.forall_mem_cons.mp isLeast
      rw [List.foldl_cons]
      have chosen : run.earlier first second ∈ [first, second] ∧
          ∀ due ∈ [first, second], run.instant (run.earlier first second) ≤ run.instant due := by
        rw [earlier]
        split <;> simp <;> omega
      obtain ⟨isOneOfTwo, isLeastOfTwo⟩ := chosen
      refine ⟨?_, ?_⟩
      · rcases List.mem_cons.mp isOne with isEarlier | inRest
        · rw [isEarlier]
          exact List.mem_append_left rest isOneOfTwo
        · exact .tail _ (.tail _ inRest)
      · intro due member
        rcases List.mem_append.mp (show due ∈ [first, second] ++ rest from member) with ofTwo | inRest
        · exact Nat.le_trans least (isLeastOfTwo due ofTwo)
        · exact others due inRest

/-- What can happen first is one of the things that can happen, and none can happen earlier. -/
theorem mem_of_earliest?
    {due : Due}
    (first : run.earliest? = some due) :
    due ∈ run.leftovers ++ run.replies ++ run.timers ∧
      ∀ other ∈ run.leftovers ++ run.replies ++ run.timers, run.instant due ≤ run.instant other := by
  rw [earliest?] at first
  split at first
  · cases first
  · next some rest all =>
      rw [all, ← Option.some.inj first]
      exact foldl_earlier_spec some rest

theorem earliest?_eq_none_iff :
    run.earliest? = none ↔ run.leftovers ++ run.replies ++ run.timers = [] := by
  rw [earliest?]
  split
  · next none => exact iff_of_true rfl none
  · next all => exact iff_of_false nofun (all ▸ List.cons_ne_nil _ _)

theorem next?_eq_some_iff
    {time : Nat}
    {due : Due} :
    run.next? time = some due ↔ run.earliest? = some due ∧ run.instant due ≤ time := by
  constructor
  · intro found
    obtain ⟨first, isFirst, chosen⟩ := Option.bind_eq_some_iff.mp found
    split at chosen
    · next within =>
        obtain rfl := Option.some.inj chosen
        exact ⟨isFirst, within⟩
    · cases chosen
  · rintro ⟨isFirst, within⟩
    exact Option.bind_eq_some_iff.mpr ⟨due, isFirst, if_pos within⟩

/-! ## At rest -/

/-- No call to the store is under way, there is no conflict, and somebody holds the machine. -/
structure AtRest (run : Run Machine Effect σ) : Prop where
  replies : run.replies = []
  tasks : run.system.tasks = []
  landed : run.system.pipeline.inFlight = false
  calm : run.system.pipeline.phase ≠ .conflict
  held : run.system.isHeld = true

/-- A write is answered at the present instant. -/
structure IsAnswered
    (run : Run Machine Effect σ)
    (number : Nat)
    (purpose : Purpose)
    (write : Write)
    (reply : UpdateReply) : Prop where
  replies : run.replies = [⟨run.system.clock, .updateReply number reply⟩]
  tasks : run.system.tasks = [(number, .writing purpose write)]
  running : purpose ≠ .stopped
  held : run.system.isHeld = true

namespace AtRest

variable (rest : run.AtRest)

include rest

theorem isFree : run.system.pipeline.isFree = true :=
  Pipeline.isFree_iff.mpr ⟨rest.calm, rest.landed⟩

theorem tickerIsBusy : run.system.tickerIsBusy = false := by
  rw [Machine.tickerIsBusy, rest.tasks]
  rfl

/-- Only timers can fire. -/
theorem dues_eq :
    run.leftovers ++ run.replies ++ run.timers =
      (run.system.pipeline.debounce.map fun time => ⟨time, .debounce⟩).toList ++
        (run.system.pipeline.interval.map fun time => ⟨time, .tick⟩).toList := by
  have none : run.leftovers = [] := by
    change run.system.tasks.filterMap _ = []
    rw [rest.tasks]
    rfl
  have timers : run.timers =
      (run.system.pipeline.debounce.map fun time => ⟨time, .debounce⟩).toList ++
        if run.system.tickerIsBusy then []
        else (run.system.pipeline.interval.map fun time => ⟨time, .tick⟩).toList := rfl
  rw [none, rest.replies, timers, rest.tickerIsBusy]
  rfl

end AtRest

namespace IsAnswered

variable {number : Nat} {purpose : Purpose} {write : Write} {reply : UpdateReply}

/-- The answer comes before anything else. -/
theorem earliest?
    (answered : run.IsAnswered number purpose write reply) :
    run.earliest? = some ⟨run.system.clock, .updateReply number reply⟩ := by
  have none : run.leftovers = [] := by
    have running := answered.running
    change run.system.tasks.filterMap _ = []
    rw [answered.tasks]
    cases purpose with
    | stopped => exact absurd rfl running
    | debounce | interval | flush | resubmit latest => rfl
  rw [Run.earliest?, none, answered.replies]
  refine congrArg some (foldl_earlier_eq_self fun due _ => ?_)
  rw [instant_now]
  exact Nat.le_max_right ..

end IsAnswered

section Calls

variable [Remote σ]

/-! ## Attempts -/

/-- Ask the machine for something. -/
def ask (run : Run Machine Effect σ) (request : Request) : Run Machine Effect σ :=
  run.proceed (run.system.request request)

/-- Attempt to write what a pipeline buffers, with the number that is given next. -/
def attempt
    (run : Run Machine Effect σ)
    (ready : Pipeline)
    (purpose : Purpose) :
    Run Machine Effect σ :=
  run.proceed
    (Machine.attemptWrite
      { run.system with pipeline := ready, nextNumber := run.system.nextNumber + 1 }
      purpose run.system.nextNumber)

theorem proceed_eq
    (run : Run Machine Effect σ)
    (machine : Machine)
    (effects : List Effect) :
    run.proceed (machine, effects) =
      effects.foldl callStore
        { run with system := machine, outcomes := run.outcomes ++ effects } := by
  change (effects.filterMap some).foldl callStore _ = _
  rw [List.filterMap_some]

/-- An attempt that finds nothing to write only answers the request it was made for. -/
theorem attempt_of_nextWrite?_eq_none
    {ready : Pipeline}
    (skipped : ready.nextWrite? = none)
    (purpose : Purpose) :
    run.attempt ready purpose =
      { run with
        system := { run.system with pipeline := ready, nextNumber := run.system.nextNumber + 1 }
        outcomes := run.outcomes ++ Machine.answers purpose run.system.nextNumber .skipped } := by
  rw [attempt, Machine.attemptWrite]
  simp only [skipped]
  rw [proceed_eq]
  cases purpose <;> rfl

/-- An attempt that finds something to write calls the store, whose answer is under way at once. -/
theorem attempt_of_nextWrite?_eq_some
    {ready : Pipeline}
    {write : Write}
    {reply : UpdateReply}
    (found : ready.nextWrite? = some write)
    (answer : (Remote.update run.store write).2 = ⟨0, reply⟩)
    (purpose : Purpose) :
    run.attempt ready purpose =
      { system :=
          { run.system with
            pipeline := ready.launch
            tasks := (run.system.nextNumber, .writing purpose write) :: run.system.tasks
            nextNumber := run.system.nextNumber + 1 }
        store := (Remote.update run.store write).1
        replies := ⟨run.clock, .updateReply run.system.nextNumber reply⟩ :: run.replies
        outcomes := run.outcomes ++ [.updateCalled run.system.nextNumber write] } := by
  rw [attempt, Machine.attemptWrite]
  simp only [found]
  rw [proceed_eq, List.foldl_cons, List.foldl_nil, callStore]
  simp only [answer]
  rfl

/-! ## Steps of a machine that is held -/

theorem ask_eq
    {request : Request}
    {next : Machine}
    {effects : List Effect}
    (performed : run.system.requestHeld request = (next, effects))
    (held : next.isHeld = true) :
    run.ask request = run.proceed (next, effects) := by
  rw [ask, Machine.request, performed]
  exact congrArg (fun machine => run.proceed (machine, effects)) (Machine.retire_of_isHeld held)

theorem occur_eq
    {occurrence : Occurrence}
    {next : Machine}
    {effects : List Effect}
    (possible : run.system.occurNeeded? occurrence = some (next, effects))
    (held : next.isHeld = true) :
    run.occur occurrence =
      ((occurrence.closed?.map run.forget).getD run).proceed (next, effects) := by
  have occurs : Timed.occur? run.system occurrence = some (next, effects) := by
    change Machine.occur? run.system occurrence = _
    rw [Machine.occur?, possible]
    exact congrArg (fun machine => some (machine, effects)) (Machine.retire_of_isHeld held)
  have same : ((occurrence.closed?.map run.forget).getD run).system = run.system := by
    cases occurrence.closed? <;> rfl
  simp only [occur]
  rw [same, occurs]

/-- What is due now happens without any wait. -/
theorem reach_of_now
    {time : Nat}
    (now : time = run.system.clock)
    (occurrence : Occurrence) :
    run.reach ⟨time, occurrence⟩ = run.occur occurrence := by
  rw [now, reach, instant_now]
  exact congrArg (occur · occurrence) (if_neg (Nat.lt_irrefl run.clock))

section Held

variable (held : run.system.isHeld = true)

include held

/-- Nothing but the clock changes when time passes. -/
theorem passTo_eq
    {time : Nat}
    (ahead : run.system.clock ≤ time) :
    run.passTo time = { run with system := { run.system with clock := time } } := by
  change (if run.system.clock < time then _ else _) = _
  split
  · have passed : run.system.clock + (time - run.clock) = time := Nat.add_sub_cancel' ahead
    have possible : run.system.occurNeeded? (.pass (time - run.clock)) =
        some ({ run.system with clock := run.system.clock + (time - run.clock) }, []) := rfl
    rw [occur_eq possible held, proceed_eq, List.append_nil, passed]
    rfl
  · next past => rw [Nat.le_antisymm (Nat.not_lt.mp past) ahead]

/-- A flush disarms the debounce timer and attempts a write. -/
theorem ask_flush
    (free : run.system.pipeline.isFree = true) :
    run.ask .flush = run.attempt run.system.pipeline.disarm.leaveDebounce .flush := by
  have performed : run.system.requestHeld .flush =
      Machine.attemptWrite
        { run.system with
          pipeline := run.system.pipeline.disarm.leaveDebounce
          nextNumber := run.system.nextNumber + 1 }
        .flush run.system.nextNumber := by
    simp only [Machine.requestHeld, Machine.takeNumber, free, if_true]
  exact ask_eq performed ((Machine.attemptWrite_isHeld ..).trans held)

/-- The debounce timer disarms itself when it fires, and attempts a write. -/
theorem occur_debounce
    {due : Nat}
    (armed : run.system.pipeline.debounce = some due)
    (past : due ≤ run.system.clock) :
    run.occur .debounce = run.attempt run.system.pipeline.disarm.leaveDebounce .debounce :=
  occur_eq (Machine.occurNeeded?_debounce_eq_some_iff.mpr ⟨due, armed, past, rfl⟩)
    ((Machine.attemptWrite_isHeld ..).trans held)

/-- A tick moves the due time of the interval timer and attempts a write. -/
theorem occur_tick
    {due : Nat}
    (runs : run.system.pipeline.interval = some due)
    (past : due ≤ run.system.clock)
    (waits : run.system.tickerIsBusy = false) :
    run.occur .tick =
      run.attempt { run.system.pipeline with interval := some (run.system.nextTick due) } .interval :=
  occur_eq (Machine.occurNeeded?_tick_eq_some_iff.mpr
    ⟨due, runs, ⟨past, (Bool.not_eq_true' _).mpr waits⟩, rfl⟩)
    ((Machine.attemptWrite_isHeld ..).trans held)

end Held

namespace IsAnswered

variable {number : Nat} {purpose : Purpose} {write : Write} {reply : UpdateReply}

/-- The machine takes the answer. -/
theorem occur_updateReply
    (answered : run.IsAnswered number purpose write reply) :
    run.occur (.updateReply number reply) =
      { run with
        system :=
          { run.system with
            pipeline := run.system.pipeline.land write.content reply
            tasks := [] }
        replies := []
        outcomes := run.outcomes ++ .announced (.ofReply reply) ::
          Machine.answers purpose number (Event.ofReply reply).attempt } := by
  have task : run.system.task? number = some (.writing purpose write) := by
    simp [Machine.task?, answered.tasks]
  have dropped : run.system.dropTask number = { run.system with tasks := [] } := by
    simp [Machine.dropTask, answered.tasks]
  have possible : run.system.occurNeeded? (.updateReply number reply) = some
      ({ run.system with pipeline := run.system.pipeline.land write.content reply, tasks := [] },
        .announced (.ofReply reply) ::
          Machine.answers purpose number (Event.ofReply reply).attempt) := by
    have running := answered.running
    rw [Machine.occurNeeded?, task, dropped]
    cases purpose with
    | stopped => exact absurd rfl running
    | debounce | interval | flush | resubmit latest => rfl
  have forgotten : run.forget number = { run with replies := [] } := by
    simp [forget, answered.replies, Occurrence.closed?]
  rw [occur_eq possible answered.held]
  simp only [Occurrence.closed?, Option.map_some, Option.getD_some, forgotten]
  rw [proceed_eq]
  cases purpose <;> rfl

end IsAnswered

/-- At rest a save is buffered, and the debounce timer is armed anew. -/
theorem AtRest.ask_save
    (rest : run.AtRest)
    (content : String) :
    run.ask (.save content) =
      { run with
        system :=
          { run.system with
            pipeline :=
              { run.system.pipeline with
                pending := some content
                debounce := some (run.system.clock + run.system.config.debounce)
                phase := .pendingDebounce } } } := by
  have performed : run.system.requestHeld (.save content) =
      ({ run.system with
          pipeline :=
            run.system.pipeline.buffer content (run.system.clock + run.system.config.debounce) }, []) :=
    rfl
  rw [ask_eq performed rest.held, proceed_eq, List.append_nil, Pipeline.buffer, if_neg rest.calm]
  simp [rest.landed]

/-- What an attempt at rest calls the store for is answered at once. -/
theorem AtRest.isAnswered_attempt
    (rest : run.AtRest)
    {ready : Pipeline}
    {write : Write}
    {reply : UpdateReply}
    (found : ready.nextWrite? = some write)
    (answer : (Remote.update run.store write).2 = ⟨0, reply⟩)
    (purpose : Purpose)
    (running : purpose ≠ .stopped) :
    (run.attempt ready purpose).IsAnswered run.system.nextNumber purpose write reply := by
  rw [attempt_of_nextWrite?_eq_some found answer]
  exact ⟨congrArg _ rest.replies, congrArg _ rest.tasks, running, rest.held⟩

end Calls

end Run
end Autosave
end TwinEditor
