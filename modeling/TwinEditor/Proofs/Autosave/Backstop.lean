import TwinEditor.Proofs.Autosave.PromptStore

/-!
# The interval timer as a backstop

Every save arms the debounce timer anew, so that steady typing keeps it from firing. The interval timer is
not moved by saves. With a store that accepts every update at once, it writes what is buffered before any
unsaved save is older than the period: the timer is always due within one period of every such save.
-/

namespace TwinEditor
namespace Autosave

open Store

/-! ## Watching a run -/

/-- Whether an effect announces that a write was accepted. -/
def Effect.isAcceptance : Effect → Bool
  | .announced (.saved _) => true
  | _ => false

/-- Of the times of unsaved saves, those that are left after some effects. -/
def unsavedAfter (effects : List Effect) (unsaved : List Nat) : List Nat :=
  if effects.any Effect.isAcceptance then [] else unsaved

theorem unsavedAfter_append
    (first second : List Effect)
    (unsaved : List Nat) :
    unsavedAfter (first ++ second) unsaved = unsavedAfter second (unsavedAfter first unsaved) := by
  rw [unsavedAfter, unsavedAfter, unsavedAfter, List.any_append]
  cases first.any Effect.isAcceptance <;> cases second.any Effect.isAcceptance <;> rfl

/-- A run, and the times of all saves since a write was accepted last. -/
structure Watch (σ : Type) where
  run : Run Machine Effect σ
  unsaved : List Nat

namespace Watch

variable {σ : Type} [Remote σ]

/-- What may come next for a run. -/
inductive Turn
  | ask (request : Request)
  /-- Time passes, but no further than to the instant at which something can happen. -/
  | pass (milliseconds : Nat)
  /-- What can happen first happens. -/
  | happen
  /-- Time passes, and everything happens that can happen meanwhile. -/
  | wait (milliseconds : Nat)
  deriving DecidableEq

/-- The run begins, and nothing has been saved. -/
def start (config : Config) (document : Document) (store : σ) : Watch σ :=
  ⟨.start (.ofDocument config document) store, []⟩

/-- Look at the run after something was done to it. -/
def note (watch : Watch σ) (next : Run Machine Effect σ) : Watch σ :=
  ⟨next, unsavedAfter (next.outcomes.drop watch.run.outcomes.length) watch.unsaved⟩

/-- Remember the time of a save. -/
def remember (watch : Watch σ) : Request → Watch σ
  | .save _ => { watch with unsaved := watch.unsaved ++ [watch.run.clock] }
  | _ => watch

/-- What a turn does, if it is possible now. Nothing is asked before an answer that has come is taken. -/
def turn? (watch : Watch σ) : Turn → Option (Watch σ)
  | .ask request =>
      if watch.run.replies.isEmpty then some ((watch.note (watch.run.ask request)).remember request)
      else none
  | .pass milliseconds =>
      if watch.run.earliest?.all fun due =>
          watch.run.clock + milliseconds ≤ watch.run.instant due then
        some (watch.note (watch.run.passTo (watch.run.clock + milliseconds)))
      else none
  | .happen => watch.run.earliest?.map fun due => watch.note (watch.run.reach due)
  | .wait milliseconds => some (watch.note (watch.run.advanceTo (watch.run.clock + milliseconds)))

/-- Take turns one after another. A turn that is impossible when it comes changes nothing. -/
def follow (watch : Watch σ) (turns : List Turn) : Watch σ :=
  turns.foldl (fun watch turn => (watch.turn? turn).getD watch) watch

end Watch

namespace Run

variable {σ : Type} [Remote σ] {period : Nat} {run next : Run Machine Effect σ} {unsaved : List Nat}

/-! ## What is kept -/

/-- At rest, the interval timer is due within one period from now and from every unsaved save. -/
structure Backed (period : Nat) (run : Run Machine Effect σ) (unsaved : List Nat) : Prop where
  rest : run.AtRest
  accepts : AcceptsAtOnce run.store
  period_eq : run.system.config.interval = period
  empty : run.system.pipeline.pending = none → unsaved = []
  untimed : run.system.pipeline.interval = none → run.system.pipeline.pending = none
  due : ∀ due ∈ run.system.pipeline.interval,
    run.system.clock ≤ due ∧ due ≤ run.system.clock + period ∧ ∀ time ∈ unsaved, due ≤ time + period

/-- The buffered content is written and accepted at the present instant, and no unsaved save is older than
one period. -/
structure Lands (period : Nat) (run : Run Machine Effect σ) (unsaved : List Nat) : Prop where
  answered : ∃ number purpose write version,
    run.IsAnswered number purpose write (.saved version) ∧
      run.system.pipeline.pending = some write.content
  accepts : AcceptsAtOnce run.store
  period_eq : run.system.config.interval = period
  timed : run.system.pipeline.interval ≠ none
  due : ∀ due ∈ run.system.pipeline.interval,
    run.system.clock ≤ due ∧ due ≤ run.system.clock + period
  young : ∀ time ∈ unsaved, run.system.clock ≤ time + period

/-- The interval timer backs the debounce timer up. -/
def Guarded (period : Nat) (run : Run Machine Effect σ) (unsaved : List Nat) : Prop :=
  run.Backed period unsaved ∨ run.Lands period unsaved

theorem Backed.young
    (backed : run.Backed period unsaved) :
    ∀ time ∈ unsaved, run.system.clock ≤ time + period := by
  intro time member
  cases timer : run.system.pipeline.interval with
  | none =>
      rw [backed.empty (backed.untimed timer)] at member
      cases member
  | some due =>
      obtain ⟨ahead, -, within⟩ := backed.due due timer
      exact Nat.le_trans ahead (within time member)

/-- A guarded run is at rest unless an answer is under way. -/
theorem Guarded.backed
    (guarded : run.Guarded period unsaved)
    (unanswered : run.replies = []) :
    run.Backed period unsaved := by
  rcases guarded with backed | lands
  · exact backed
  · obtain ⟨_, _, _, _, answered, -⟩ := lands.answered
    cases unanswered.symm.trans answered.replies

/-- No answer is under way before the interval timer runs. -/
theorem Guarded.replies_eq_nil
    (guarded : run.Guarded period unsaved)
    (untimed : run.system.pipeline.interval = none) :
    run.replies = [] :=
  guarded.elim (·.rest.replies) (absurd untimed ·.timed)

theorem Guarded.young
    (guarded : run.Guarded period unsaved) :
    ∀ time ∈ unsaved, run.system.clock ≤ time + period :=
  guarded.elim Backed.young Lands.young

/-- Something is done to a run that keeps it guarded and does not stop the interval timer. -/
def Continues
    (period : Nat)
    (run next : Run Machine Effect σ)
    (unsaved : List Nat) :
    Prop :=
  (next.system.pipeline.interval = none → run.system.pipeline.interval = none) ∧
    ∃ effects, next.outcomes = run.outcomes ++ effects ∧
      next.Guarded period (unsavedAfter effects unsaved)

/-- Nothing is announced, so that what was unsaved is so still. -/
theorem Continues.of_guarded
    {effects : List Effect}
    (appended : next.outcomes = run.outcomes ++ effects)
    (unannounced : effects.any Effect.isAcceptance = false)
    (timed : next.system.pipeline.interval = none → run.system.pipeline.interval = none)
    (guarded : next.Guarded period unsaved) :
    Continues period run next unsaved := by
  refine ⟨timed, effects, appended, ?_⟩
  rwa [unsavedAfter, unannounced]

theorem Continues.trans
    {last : Run Machine Effect σ}
    (first : Continues period run next unsaved)
    (second : ∀ {unsaved}, next.Guarded period unsaved → Continues period next last unsaved) :
    Continues period run last unsaved := by
  obtain ⟨timed, effects, appended, guarded⟩ := first
  obtain ⟨timedLater, later, appendedLater, guardedLater⟩ := second guarded
  refine ⟨timed ∘ timedLater, effects ++ later,
    by rw [appendedLater, appended, List.append_assoc], ?_⟩
  rwa [unsavedAfter_append]

/-! ## What is left to happen -/

/-- How often a timer with a period fires up to an instant, if it is due at some time. -/
def firings (period time due : Nat) : Nat :=
  if due ≤ time then (time - due) / period + 1 else 0

theorem firings_le (period time due : Nat) : firings period time due ≤ (time - due) / period + 1 := by
  rw [firings]
  split
  · exact Nat.le_refl _
  · exact Nat.zero_le _

theorem firings_add_period
    {period time due : Nat}
    (positive : 0 < period)
    (within : due ≤ time) :
    firings period time due = firings period time (due + period) + 1 := by
  rw [firings, firings, if_pos within]
  split
  · next again =>
      rw [Nat.div_eq_sub_div positive (by omega : period ≤ time - due), Nat.sub_add_eq]
  · next past => rw [Nat.div_eq_of_lt (by omega : time - due < period)]

/-- How much can happen up to an instant: every firing of a timer may be followed by one answer. -/
def dueWork (run : Run Machine Effect σ) (time : Nat) : Nat :=
  run.replies.length +
    2 * ((if run.system.pipeline.debounce.any (· ≤ time) then 1 else 0) +
      (run.system.pipeline.interval.map (firings run.system.config.interval time)).getD 0)

omit [Remote σ] in
theorem dueWork_le_work
    (run : Run Machine Effect σ)
    (time : Nat) :
    run.dueWork time ≤ run.work time := by
  have same : run.machine = run.system := rfl
  have once : (if run.system.pipeline.debounce.any (· ≤ time) then 1 else 0) ≤ 1 := by
    split <;> omega
  rw [dueWork, work, same]
  cases run.system.pipeline.interval with
  | none =>
      simp only [Option.map_none, Option.getD_none]
      omega
  | some due =>
      have ticks := firings_le run.system.config.interval time due
      simp only [Option.map_some, Option.getD_some]
      omega

/-- Something happens at an instant that keeps a run guarded, and less is left to happen. -/
structure Happens
    (period instant : Nat)
    (run next : Run Machine Effect σ)
    (unsaved : List Nat) : Prop where
  continues : Continues period run next unsaved
  clock_eq : next.system.clock = instant
  less : ∀ time, instant ≤ time → next.dueWork time < run.dueWork time

/-! ## Timers -/

namespace Backed

/-- An attempt to write keeps the run guarded, if the interval timer is due within one period. -/
theorem attempt
    (backed : run.Backed period unsaved)
    (ready : Pipeline)
    (purpose : Purpose)
    (quieted : run.system.pipeline.Quieted ready)
    (timed : ready.interval = none → run.system.pipeline.interval = none)
    (due : ∀ due ∈ ready.interval, run.system.clock ≤ due ∧ due ≤ run.system.clock + period)
    (running : purpose ≠ .stopped) :
    Continues period run (run.attempt ready purpose) unsaved ∧
      (run.attempt ready purpose).system.clock = run.system.clock ∧
      ∀ time, (run.attempt ready purpose).dueWork time ≤
        1 + 2 * ((if ready.debounce.any (· ≤ time) then 1 else 0) +
          (ready.interval.map (firings run.system.config.interval time)).getD 0) := by
  have next : ready.nextWrite? = run.system.pipeline.pending.map fun content =>
      ⟨run.system.pipeline.documentId, content, run.system.pipeline.version⟩ := by
    rw [quieted.nextWrite?_eq, Pipeline.nextWrite?, if_pos backed.rest.isFree]
  cases pending : run.system.pipeline.pending with
  | none =>
      rw [pending] at next
      rw [attempt_of_nextWrite?_eq_none next]
      refine ⟨.of_guarded rfl (by cases purpose <;> rfl) timed (.inl ?_), rfl, fun time => ?_⟩
      · have nothing := backed.empty pending
        exact
          { rest :=
              { replies := backed.rest.replies
                tasks := backed.rest.tasks
                landed := quieted.inFlight_eq.trans backed.rest.landed
                calm := mt quieted.phase_eq_conflict_iff.mp backed.rest.calm
                held := backed.rest.held }
            accepts := backed.accepts
            period_eq := backed.period_eq
            empty := fun _ => nothing
            untimed := fun _ => quieted.pending_eq.trans pending
            due := fun time member => ⟨(due time member).1, (due time member).2, by simp [nothing]⟩ }
      · rw [dueWork, backed.rest.replies]
        exact Nat.add_le_add_right (Nat.zero_le 1) _
  | some content =>
      rw [pending] at next
      obtain ⟨reply, answer, version, rfl⟩ := backed.accepts.reply
        ⟨run.system.pipeline.documentId, content, run.system.pipeline.version⟩
      have answered := backed.rest.isAnswered_attempt next answer purpose running
      rw [attempt_of_nextWrite?_eq_some next answer] at answered ⊢
      refine ⟨.of_guarded rfl rfl timed (.inr ?_), rfl, fun time => ?_⟩
      · exact
          { answered := ⟨_, _, _, _, answered, quieted.pending_eq.trans pending⟩
            accepts := backed.accepts.update _
            period_eq := backed.period_eq
            timed := fun none =>
              Option.some_ne_none content (pending.symm.trans (backed.untimed (timed none)))
            due
            young := backed.young }
      · rw [dueWork, backed.rest.replies]
        exact Nat.le_refl _

theorem passTo
    (backed : run.Backed period unsaved)
    {time : Nat}
    (ahead : run.system.clock ≤ time)
    (early : ∀ due ∈ run.system.pipeline.interval, time ≤ due) :
    (run.passTo time).Backed period unsaved := by
  rw [passTo_eq backed.rest.held ahead]
  refine { backed with rest := { backed.rest with }, due := fun due timer => ?_ }
  obtain ⟨-, near, within⟩ := backed.due due timer
  exact ⟨early due timer, Nat.le_trans near (Nat.add_le_add_right ahead period), within⟩

/-- Something can happen while the interval timer runs. -/
theorem earliest?_ne_none
    (backed : run.Backed period unsaved)
    {time : Nat}
    (timer : run.system.pipeline.interval = some time) :
    run.earliest? ≠ none := by
  intro none
  rw [earliest?_eq_none_iff, backed.rest.dues_eq, timer] at none
  exact absurd (List.append_eq_nil_iff.mp none).2 (List.cons_ne_nil _ _)

/-- What can happen first at rest is that one of the timers fires. -/
theorem of_earliest?
    (backed : run.Backed period unsaved)
    {due : Due}
    (first : run.earliest? = some due) :
    (due.occurrence = .debounce ∧ run.system.pipeline.debounce = some due.time ∨
      due.occurrence = .tick ∧ run.system.pipeline.interval = some due.time) ∧
      ∀ time ∈ run.system.pipeline.interval, run.instant due ≤ time := by
  obtain ⟨isDue, isFirst⟩ := mem_of_earliest? first
  rw [backed.rest.dues_eq] at isDue isFirst
  constructor
  · rcases List.mem_append.mp isDue with member | member
    · obtain ⟨time, armed, rfl⟩ := Option.map_eq_some_iff.mp (Option.mem_toList.mp member)
      exact .inl ⟨rfl, armed⟩
    · obtain ⟨time, timer, rfl⟩ := Option.map_eq_some_iff.mp (Option.mem_toList.mp member)
      exact .inr ⟨rfl, timer⟩
  · intro time timer
    have ticks : (⟨time, .tick⟩ : Due) ∈
        (run.system.pipeline.interval.map fun time => ⟨time, .tick⟩).toList := by
      rw [timer]
      exact .head _
    have least := isFirst _ (List.mem_append_right _ ticks)
    have ahead : run.instant ⟨time, .tick⟩ = time := instant_eq_time (backed.due time timer).1
    rwa [ahead] at least

theorem debounce
    (backed : run.Backed period unsaved)
    {due : Nat}
    (armed : run.system.pipeline.debounce = some due)
    (past : due ≤ run.system.clock) :
    Happens period run.system.clock run (run.occur .debounce) unsaved := by
  obtain ⟨continues, clock_eq, work⟩ := backed.attempt _ .debounce (.disarm_leaveDebounce _) id
    (fun due timer => ⟨(backed.due due timer).1, (backed.due due timer).2.1⟩) nofun
  rw [occur_debounce backed.rest.held armed past]
  refine ⟨continues, clock_eq, fun time later => Nat.lt_of_le_of_lt (work time) ?_⟩
  have fires : run.system.pipeline.debounce.any (· ≤ time) = true := by
    rw [armed]
    exact decide_eq_true (Nat.le_trans past later)
  have disarmed : run.system.pipeline.disarm.leaveDebounce.debounce.any (· ≤ time) = false := rfl
  have same : run.system.pipeline.disarm.leaveDebounce.interval = run.system.pipeline.interval := rfl
  rw [dueWork, if_pos fires, disarmed, if_neg Bool.false_ne_true, same]
  omega

theorem tick
    (backed : run.Backed period unsaved)
    (positive : 0 < period)
    (timer : run.system.pipeline.interval = some run.system.clock) :
    Happens period run.system.clock run (run.occur .tick) unsaved := by
  have next : run.system.nextTick run.system.clock = run.system.clock + period := by
    rw [Machine.nextTick, if_neg (Nat.not_lt.mpr (Nat.le_add_right ..)), backed.period_eq]
  obtain ⟨continues, clock_eq, work⟩ := backed.attempt
    { run.system.pipeline with interval := some (run.system.clock + period) } .interval
    (.setInterval _ _) nofun
    (fun due timer => by
      obtain rfl := Option.some.inj timer
      exact ⟨Nat.le_add_right .., Nat.le_refl _⟩) nofun
  rw [occur_tick backed.rest.held timer (Nat.le_refl _) backed.rest.tickerIsBusy, next]
  refine ⟨continues, clock_eq, fun time later => Nat.lt_of_le_of_lt (work time) ?_⟩
  have fewer := firings_add_period positive later
  rw [dueWork, timer, backed.period_eq]
  simp only [Option.map_some, Option.getD_some]
  omega

/-- When a timer fires the run stays guarded, and less can happen from then on. -/
theorem reach
    (backed : run.Backed period unsaved)
    (positive : 0 < period)
    {due : Due}
    (first : run.earliest? = some due) :
    Happens period (run.instant due) run (run.reach due) unsaved := by
  obtain ⟨fires, early⟩ := backed.of_earliest? first
  have ahead : run.system.clock ≤ run.instant due := Nat.le_max_right ..
  have past : due.time ≤ run.instant due := Nat.le_max_left ..
  have passed := backed.passTo ahead early
  have same := passTo_eq backed.rest.held ahead
  have happens : Happens period (run.passTo (run.instant due)).system.clock
      (run.passTo (run.instant due)) (run.reach due) unsaved := by
    rw [Run.reach]
    rcases fires with ⟨isDebounce, armed⟩ | ⟨isTick, timer⟩
    · rw [isDebounce]
      have armedStill : (run.passTo (run.instant due)).system.pipeline.debounce = some due.time := by
        rw [same]
        exact armed
      refine passed.debounce armedStill ?_
      rw [same]
      exact past
    · rw [isTick]
      refine passed.tick positive ?_
      rw [same]
      exact timer.trans (congrArg some (Nat.le_antisymm past (early _ timer)))
  rw [same] at happens
  exact ⟨happens.continues, happens.clock_eq, happens.less⟩

end Backed

/-! ## Answers -/

/-- When the answer is taken nothing is unsaved any more. -/
theorem Lands.reach
    (lands : run.Lands period unsaved)
    {due : Due}
    (first : run.earliest? = some due) :
    Happens period (run.instant due) run (run.reach due) unsaved := by
  obtain ⟨number, purpose, write, version, answered, pending⟩ := lands.answered
  obtain rfl := Option.some.inj (answered.earliest?.symm.trans first)
  rw [reach_of_now rfl, instant_now, answered.occur_updateReply]
  refine ⟨⟨id, _, rfl, .inl ?_⟩, rfl, fun time _ => ?_⟩
  · have none : unsavedAfter (.announced (.ofReply (.saved version)) ::
        Machine.answers purpose number (Event.ofReply (.saved version)).attempt) unsaved = [] := rfl
    rw [none]
    exact
      { rest :=
          { replies := rfl
            tasks := rfl
            landed := Pipeline.land_inFlight ..
            calm := fun conflict => nomatch
              (Pipeline.land_phase_eq_conflict_iff _ write.content (.saved version)).mp conflict
            held := answered.held }
        accepts := lands.accepts
        period_eq := lands.period_eq
        empty := fun _ => rfl
        untimed := fun _ => if_pos pending
        due := fun due timer => ⟨(lands.due due timer).1, (lands.due due timer).2, nofun⟩ }
  · rw [dueWork, dueWork, answered.replies]
    exact Nat.add_lt_add_right Nat.one_pos _

/-! ## Runs -/

namespace Guarded

theorem reach
    (guarded : run.Guarded period unsaved)
    (positive : 0 < period)
    {due : Due}
    (first : run.earliest? = some due) :
    Happens period (run.instant due) run (run.reach due) unsaved :=
  guarded.elim (·.reach positive first) (·.reach first)

/-- Up to an instant before anything can happen only time passes. -/
theorem passTo
    (guarded : run.Guarded period unsaved)
    {time : Nat}
    (ahead : run.system.clock ≤ time)
    (early : ∀ due ∈ run.earliest?, time ≤ run.instant due) :
    Continues period run (run.passTo time) unsaved := by
  rcases guarded with backed | lands
  · have passed := backed.passTo ahead fun due timer => by
      obtain ⟨first, isFirst⟩ := Option.ne_none_iff_exists'.mp (backed.earliest?_ne_none timer)
      exact Nat.le_trans (early first isFirst) ((backed.of_earliest? isFirst).2 due timer)
    have same := passTo_eq backed.rest.held ahead
    have silent : (run.passTo time).outcomes = run.outcomes ++ [] := by rw [same, List.append_nil]
    refine .of_guarded silent rfl ?_ (.inl passed)
    rw [same]
    exact id
  · obtain ⟨number, purpose, write, version, answered, -⟩ := lands.answered
    have now := early _ answered.earliest?
    rw [instant_now] at now
    have stays : run.passTo time = run := if_neg (Nat.not_lt.mpr now)
    rw [stays]
    exact .of_guarded (List.append_nil _).symm rfl id (.inr lands)

/-- What can happen up to an instant keeps a run guarded. -/
theorem advanceWithin
    (guarded : run.Guarded period unsaved)
    (positive : 0 < period)
    {time : Nat}
    (ahead : run.system.clock ≤ time)
    {bound : Nat}
    (enough : run.dueWork time ≤ bound) :
    Continues period run (run.advanceWithin bound time) unsaved := by
  induction bound generalizing run unsaved with
  | zero =>
      refine guarded.passTo ahead fun due first => Nat.le_of_not_lt fun within => ?_
      have less := (guarded.reach positive first).less time (Nat.le_of_lt within)
      omega
  | succ bound inductionHypothesis =>
      rw [Run.advanceWithin]
      split
      · next due found =>
          obtain ⟨first, within⟩ := next?_eq_some_iff.mp found
          have happens := guarded.reach positive first
          have fewer := happens.less time within
          exact happens.continues.trans fun guarded =>
            inductionHypothesis guarded (happens.clock_eq ▸ within) (by omega)
      · next nothing =>
          refine guarded.passTo ahead fun due first => Nat.le_of_not_le fun within => ?_
          rw [next?_eq_some_iff.mpr ⟨first, within⟩] at nothing
          cases nothing

theorem advanceTo
    (guarded : run.Guarded period unsaved)
    (positive : 0 < period)
    {time : Nat}
    (ahead : run.system.clock ≤ time) :
    Continues period run (run.advanceTo time) unsaved :=
  guarded.advanceWithin positive ahead (run.dueWork_le_work time)

end Guarded

/-! ## Requests -/

namespace Backed

/-- A save is remembered together with the ones before. -/
theorem ask_save
    (backed : run.Backed period unsaved)
    (timed : run.system.pipeline.interval ≠ none)
    (content : String) :
    (run.ask (.save content)).Backed period (unsaved ++ [run.system.clock]) := by
  rw [backed.rest.ask_save]
  refine
    { backed with
      rest := { backed.rest with calm := (by cases ·) }
      empty := (by cases ·)
      untimed := fun none => absurd none timed
      due := fun due timer => ?_ }
  obtain ⟨ahead, near, within⟩ := backed.due due timer
  refine ⟨ahead, near, fun time member => ?_⟩
  rcases List.mem_append.mp member with older | now
  · exact within time older
  · rw [List.mem_singleton.mp now]
    exact near

/-- The interval timer runs after a start. -/
theorem ask_start
    (backed : run.Backed period unsaved) :
    Continues period run (run.ask .start) unsaved ∧
      (run.ask .start).system.pipeline.interval ≠ none := by
  cases timer : run.system.pipeline.interval with
  | some due =>
      have performed : run.system.requestHeld .start = (run.system, []) := by
        simp [Machine.requestHeld, timer]
      have same : run.ask .start = run := by
        rw [ask_eq performed backed.rest.held, proceed_eq, List.append_nil]
        rfl
      rw [same]
      exact ⟨.of_guarded (List.append_nil _).symm rfl id (.inl backed), by simp [timer]⟩
  | none =>
      have performed : run.system.requestHeld .start =
          ({ run.system with
              pipeline :=
                { run.system.pipeline with
                  interval := some (run.system.clock + run.system.config.interval) } }, []) := by
        simp [Machine.requestHeld, timer]
      have nothing := backed.empty (backed.untimed timer)
      rw [ask_eq performed backed.rest.held, proceed_eq]
      refine ⟨.of_guarded rfl rfl (by cases ·) (.inl
        { backed with
          rest := { backed.rest with }
          untimed := (by cases ·)
          due := fun due timer => ?_ }), (by cases ·)⟩
      obtain rfl := Option.some.inj timer
      exact ⟨Nat.le_add_right .., Nat.le_of_eq (congrArg _ backed.period_eq), by simp [nothing]⟩

theorem ask_flush
    (backed : run.Backed period unsaved) :
    Continues period run (run.ask .flush) unsaved := by
  rw [Run.ask_flush backed.rest.held backed.rest.isFree]
  exact (backed.attempt _ .flush (.disarm_leaveDebounce _) id
    (fun due timer => ⟨(backed.due due timer).1, (backed.due due timer).2.1⟩) nofun).1

/-- There is no conflict to resolve. -/
theorem ask_resolve
    (backed : run.Backed period unsaved)
    (resolution : Resolution) :
    Continues period run (run.ask (.resolve resolution)) unsaved := by
  have performed : run.system.requestHeld (.resolve resolution) =
      ({ run.system with nextNumber := run.system.nextNumber + 1 },
        [.resolved run.system.nextNumber (.error .noConflict)]) := by
    simp [Machine.requestHeld, Machine.takeNumber, backed.rest.calm]
  rw [ask_eq performed backed.rest.held, proceed_eq]
  exact .of_guarded rfl rfl id (.inl { backed with rest := { backed.rest with } })

end Backed

end Run

/-! ## Courses -/

namespace Watch

open Run (Guarded Continues)

variable {σ : Type} [Remote σ] {period : Nat} {watch : Watch σ}

theorem note_of_continues
    {next : Run Machine Effect σ}
    (continues : Continues period watch.run next watch.unsaved) :
    (watch.note next).run.Guarded period (watch.note next).unsaved := by
  obtain ⟨-, effects, appended, guarded⟩ := continues
  rwa [note, appended, List.drop_left]

/-- A save at rest is remembered with the present time. -/
theorem unsaved_of_save
    (rest : watch.run.AtRest)
    (content : String) :
    ((watch.note (watch.run.ask (.save content))).remember (.save content)).unsaved =
      watch.unsaved ++ [watch.run.system.clock] := by
  have same := rest.ask_save content
  have silent : (watch.run.ask (.save content)).outcomes = watch.run.outcomes := by
    rw [same]
  have now : (watch.run.ask (.save content)).clock = watch.run.system.clock := by
    rw [same]
    rfl
  rw [remember, note, silent, List.drop_length, now]
  rfl

/-- Whether a turn leaves the machine to its owner and its timers running. -/
def Turn.isOngoing : Turn → Bool
  | .ask .shutdown | .ask .release => false
  | _ => true

/-- Whether a turn hands over a content. -/
def Turn.isSave : Turn → Bool
  | .ask (.save _) => true
  | _ => false

/-- A turn keeps the run guarded, as long as nothing is saved before the interval timer runs. -/
theorem guarded_turn?
    (guarded : watch.run.Guarded period watch.unsaved)
    (positive : 0 < period)
    {turn : Turn}
    (ongoing : turn.isOngoing = true)
    (timed : turn.isSave = true → watch.run.system.pipeline.interval ≠ none)
    {next : Watch σ}
    (possible : watch.turn? turn = some next) :
    next.run.Guarded period next.unsaved ∧
      (next.run.system.pipeline.interval = none → watch.run.system.pipeline.interval = none) ∧
      (turn = .ask .start → next.run.system.pipeline.interval ≠ none) := by
  cases turn with
  | ask request =>
      obtain ⟨unanswered, asked⟩ := Option.ite_none_right_eq_some.mp possible
      obtain rfl := Option.some.inj asked
      have backed := guarded.backed (List.isEmpty_iff.mp unanswered)
      cases request with
      | save content =>
          have same := backed.rest.ask_save content
          have timer : (watch.run.ask (.save content)).system.pipeline.interval =
              watch.run.system.pipeline.interval := by rw [same]
          rw [unsaved_of_save backed.rest]
          exact ⟨.inl (backed.ask_save (timed rfl) content), timer.symm.trans, nofun⟩
      | start =>
          obtain ⟨continues, runs⟩ := backed.ask_start
          exact ⟨note_of_continues continues, continues.1, fun _ => runs⟩
      | flush => exact ⟨note_of_continues backed.ask_flush, backed.ask_flush.1, nofun⟩
      | resolve resolution =>
          have continues := backed.ask_resolve resolution
          exact ⟨note_of_continues continues, continues.1, nofun⟩
      | shutdown => cases ongoing
      | release => cases ongoing
  | pass milliseconds =>
      obtain ⟨early, passed⟩ := Option.ite_none_right_eq_some.mp possible
      obtain rfl := Option.some.inj passed
      have continues := guarded.passTo (Nat.le_add_right _ milliseconds) fun due first => by
        rw [Option.all_eq_true] at early
        exact of_decide_eq_true (early due first)
      exact ⟨note_of_continues continues, continues.1, nofun⟩
  | happen =>
      obtain ⟨due, first, rfl⟩ := Option.map_eq_some_iff.mp possible
      have continues := (guarded.reach positive first).continues
      exact ⟨note_of_continues continues, continues.1, nofun⟩
  | wait milliseconds =>
      obtain rfl := Option.some.inj possible
      have continues := guarded.advanceTo positive (Nat.le_add_right _ milliseconds)
      exact ⟨note_of_continues continues, continues.1, nofun⟩

/-- A course in which the interval timer is started before the first save. -/
def StartsFirst (turns : List Turn) : Prop :=
  ∀ before turn after, turns = before ++ turn :: after → turn.isSave = true → .ask .start ∈ before

theorem StartsFirst.tail
    {turn : Turn}
    {rest : List Turn}
    (starts : StartsFirst (turn :: rest))
    (other : turn ≠ .ask .start) :
    StartsFirst rest := by
  intro before save after split isSave
  have started := starts (turn :: before) save after (congrArg (turn :: ·) split) isSave
  exact (List.mem_cons.mp started).resolve_left other.symm

theorem startsFirst_start (turns : List Turn) : StartsFirst (.ask .start :: turns) := by
  intro before turn after split isSave
  cases before with
  | nil =>
      obtain rfl := (List.cons.inj split).1
      cases isSave
  | cons first others => exact (List.cons.inj split).1 ▸ .head _

/-- The run is guarded at the end of every course in which the timer is started before the first save. -/
theorem guarded_follow
    (guarded : watch.run.Guarded period watch.unsaved)
    (positive : 0 < period)
    {turns : List Turn}
    (ongoing : ∀ turn ∈ turns, turn.isOngoing = true)
    (timed : watch.run.system.pipeline.interval ≠ none ∨ StartsFirst turns) :
    (watch.follow turns).run.Guarded period (watch.follow turns).unsaved := by
  induction turns generalizing watch with
  | nil => exact guarded
  | cons turn rest inductionHypothesis =>
      obtain ⟨first, others⟩ := List.forall_mem_cons.mp ongoing
      have unsaved : turn.isSave = true → watch.run.system.pipeline.interval ≠ none := by
        intro isSave
        rcases timed with runs | starts
        · exact runs
        · exact absurd (starts [] turn rest rfl isSave) List.not_mem_nil
      rw [follow, List.foldl_cons]
      cases possible : watch.turn? turn with
      | none =>
          refine inductionHypothesis guarded others ?_
          rw [or_iff_not_imp_left, not_not]
          intro untimed
          have unanswered := guarded.replies_eq_nil untimed
          refine (timed.resolve_left (not_not.mpr untimed)).tail fun isStart => ?_
          rw [isStart, turn?, unanswered] at possible
          cases possible
      | some next =>
          obtain ⟨guardedNext, keeps, started⟩ := guarded_turn? guarded positive first unsaved possible
          refine inductionHypothesis guardedNext others ?_
          rw [or_iff_not_imp_left, not_not]
          intro untimed
          exact (timed.resolve_left (not_not.mpr (keeps untimed))).tail fun isStart =>
            started isStart untimed

/-- A store accepts every update at once, and the interval timer is started before anything is saved, and
is never stopped. Then at any time no save since the last accepted write is older than one period of the
timer, whatever the debounce period is and however contents are saved and flushed. -/
theorem age_le_interval
    {config : Config}
    (positive : 0 < config.interval)
    (document : Document)
    {store : σ}
    (accepts : AcceptsAtOnce store)
    {turns : List Turn}
    (ongoing : ∀ turn ∈ turns, turn.isOngoing = true)
    (starts : StartsFirst turns) :
    ∀ time ∈ ((start config document store).follow turns).unsaved,
      ((start config document store).follow turns).run.clock ≤ time + config.interval := by
  have begins : (start config document store).run.Backed config.interval
      (start config document store).unsaved :=
    { rest := ⟨rfl, rfl, rfl, nofun, rfl⟩
      accepts
      period_eq := by
        change config.checked.interval = config.interval
        rw [Config.checked, if_neg (Nat.ne_of_gt positive)]
      empty := fun _ => rfl
      untimed := fun _ => rfl
      due := nofun }
  exact (guarded_follow (.inl begins) positive ongoing (.inr starts)).young

/-- While somebody types without a pause the debounce timer never fires, and the first save is just as old
as the period when the interval timer does. -/
theorem age_le_interval_of_steady_typing :
    let typing : List Turn := [.ask .start, .ask (.save "a"), .wait 900, .ask (.save "ab"), .wait 900,
      .ask (.save "abc"), .pass 200]
    let watch : Watch Script := (start ⟨1000, 2000⟩ ⟨.nil, .nil, "", 1⟩ ⟨[], []⟩).follow typing
    watch.unsaved = [0, 900, 1800] ∧ watch.run.clock = 2000 ∧
      (∀ time ∈ watch.unsaved, watch.run.clock ≤ time + 2000) ∧
      (watch.follow [.happen, .happen]).unsaved = [] := by
  refine ⟨by decide +kernel, by decide +kernel, ?_, by decide +kernel⟩
  have positive : 0 < (⟨1000, 2000⟩ : Config).interval := by decide
  have accepts : AcceptsAtOnce (⟨[], []⟩ : Script) :=
    (answersAtOnce_script []).mono fun _ _ same => ⟨_, same⟩
  exact age_le_interval positive _ accepts (by decide) (startsFirst_start _)

end Watch
end Autosave
end TwinEditor
