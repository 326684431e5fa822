import TwinEditor.Proofs.Autosave.Flight
import TwinEditor.Proofs.Autosave.Standstill
import TwinEditor.Proofs.Session.Calm
import TwinEditor.Proofs.Session.Content

/-!
# Closing a session

Closing flushes the buffer and stops the timers. The flush writes the whole text when nothing is in
flight. While a timer waits for a write of its own, the flush is skipped, and with the timers goes
everything that would have tried again: what was edited since stays unwritten. The write of the
interval timer is stopped besides.
-/

namespace TwinEditor

namespace Autosave

theorem Pipeline.land_saved_pending (pipeline : Pipeline) (content : String) (version : Int) :
    (pipeline.land content (.saved version)).pending =
      if pipeline.pending = some content then none else pipeline.pending := rfl

end Autosave

namespace Session

open Autosave (Machine)

variable {session : Session}

/-! ## The machine of a session that is left -/

theorem leave_tasks (session : Session) :
    session.leave.autosave.tasks = session.autosave.stoppedTasks := by
  show (Machine.retire _).tasks = _
  rw [Machine.retire_tasks]
  show (Machine.retire _).tasks = _
  rw [Machine.retire_tasks]
  rfl

theorem leave_pending (session : Session) :
    session.leave.autosave.pipeline.pending = session.autosave.pipeline.pending :=
  (Machine.request_pending _ .release).trans (Machine.request_pending _ .shutdown)

theorem leave_isStill (session : Session) : session.leave.autosave.pipeline.IsStill := by
  have stopped : (session.autosave.request .shutdown).1.pipeline.IsStill :=
    Machine.isStill_retire (Autosave.Pipeline.isStill_stopTimers session.autosave.pipeline)
  exact @Machine.isStill_retire { (session.autosave.request .shutdown).1 with isHeld := false }
    stopped

/-- A closing call that is answered leaves the session. -/
theorem proceed_of_attempted
    {number : Nat}
    (closing : session.call = some (number, .close))
    {effects : List Autosave.Effect}
    {attempt : Autosave.Attempt}
    (ended : ending? number effects = some (.attempted attempt)) :
    (session.proceed effects).1 = { session with call := none }.leave := by
  simp [proceed, closing, ended, finish]

/-- A call that begins a write waits for it. -/
theorem ask_of_begun
    {call : Call}
    {request : Autosave.Request}
    {machine : Machine}
    {number : Nat}
    {write : Autosave.Write}
    (begun : session.autosave.request request = (machine, [.updateCalled number write])) :
    (session.ask call request).1 =
      { session with autosave := machine, call := some (session.autosave.nextNumber, call) } := by
  simp [ask, begun, proceed, ending?]

/-- A closing call that finds nothing to write leaves the session at once. -/
theorem ask_of_skipped
    {machine : Machine}
    (skipped : session.autosave.request .flush =
      (machine, [.attempted session.autosave.nextNumber .skipped])) :
    (session.ask .close .flush).1 = { session with autosave := machine, call := none }.leave := by
  simp [ask, skipped, proceed, ending?, finish]

/-- The answer to the write of a flush ends the call that waits for it. -/
theorem ending?_of_answered
    (number : Nat)
    (reply : Store.UpdateReply) :
    ending? number (.announced (.ofReply reply) ::
        Machine.answers .flush number (Autosave.Event.ofReply reply).attempt) =
      some (.attempted (Autosave.Event.ofReply reply).attempt) :=
  if_pos rfl

/-- A session goes on as it is while no effect ends its call. -/
theorem proceed_nil (session : Session) : (session.proceed []).1 = session := by
  unfold proceed
  split <;> rfl

/-- A session without a call goes on as it is. -/
theorem proceed_of_idle
    (idle : session.call = none)
    (effects : List Autosave.Effect) :
    (session.proceed effects).1 = session := by
  simp [proceed, idle]

theorem abandonCall_of_idle
    (idle : session.call = none)
    (number : Nat) :
    session.abandonCall number = session := by
  simp [abandonCall, idle]

/-- What happens to a session without a call happens to its machine alone. -/
theorem eq_of_occur?_of_idle
    {next : Session}
    {occurrence : Autosave.Occurrence}
    {notes : List Effect}
    (idle : session.call = none)
    (possible : session.occur? occurrence = some (next, notes)) :
    ∃ machine effects, session.autosave.occur? occurrence = some (machine, effects) ∧
      next = { session with autosave := machine } := by
  obtain ⟨machine, effects, occurred, course⟩ := eq_of_occur? possible
  have uncalled : ({ session with autosave := machine } : Session).call = none := idle
  refine ⟨machine, effects, occurred, ?_⟩
  rcases course with ⟨other, _, rfl, _⟩ | ⟨_, rfl, _⟩
  · exact abandonCall_of_idle uncalled other
  · exact proceed_of_idle uncalled effects

/-! ## The stages of a session that is closed -/

/-- Whether a write is in flight that carries something else than the text, or that stops with the
interval timer. -/
def leavesEdit (session : Session) : Bool :=
  session.autosave.tasks.any fun
    | (_, .writing .interval _) => true
    | (_, .writing _ write) => write.content != session.markdown
    | (_, .fetching _) => false

/-- A session was closed when nothing was in flight, and the closing call waits for its own write. -/
structure Flushing (first session : Session) (write : Autosave.Write) : Prop where
  landed : first.autosave.tasks = []
  markdown : session.markdown = first.markdown
  call : session.call = some (first.autosave.nextNumber, .close)
  tasks : session.autosave.tasks = [(first.autosave.nextNumber, .writing .flush write)]
  pending : session.autosave.pipeline.pending = some write.content
  unarmed : session.autosave.pipeline.debounce = none

/-- A session was closed, and the write of a timer that was in flight then is not over yet. -/
structure Draining (first session : Session) (number : Nat) (purpose : Autosave.Purpose)
    (write : Autosave.Write) : Prop where
  timed : purpose = .debounce ∨ purpose = .interval
  running : first.autosave.tasks = [(number, .writing purpose write)]
  markdown : session.markdown = first.markdown
  left : session.isOpen = false
  idle : session.call = none
  tasks : session.autosave.tasks = [(number, Machine.stopTask (.writing purpose write))]
  pending : session.autosave.pipeline.pending = some first.markdown
  still : session.autosave.pipeline.IsStill

/-- A session was closed, and everything is at rest. -/
structure Resting (first session : Session) : Prop where
  markdown : session.markdown = first.markdown
  left : session.isOpen = false
  idle : session.call = none
  tasks : session.autosave.tasks = []
  pending : session.autosave.pipeline.pending =
    if first.leavesEdit then some first.markdown else none
  still : session.autosave.pipeline.IsStill

variable {first next : Session} {write : Autosave.Write} {number : Nat}
  {purpose : Autosave.Purpose} {occurrence : Autosave.Occurrence} {notes : List Effect}

/-- The flush of a closing call goes on, or it is answered and the session comes to rest. -/
theorem Flushing.occur
    (flushing : Flushing first session write)
    (sound : session.Sound)
    (possible : session.occur? occurrence = some (next, notes))
    (forward : (Move.occurrence occurrence).isSetback = false)
    (kept : occurrence ≠ .cancel first.autosave.nextNumber) :
    Flushing first next write ∨ Resting first next := by
  obtain ⟨machine, effects, occurred, course⟩ := eq_of_occur? possible
  have member := flushing.tasks ▸ List.mem_singleton.mpr rfl
  have inFlight := sound.autosave.inFlight_of_writing (sound.autosave.task?_eq_some member)
  cases Machine.awaits_of_occur? flushing.tasks inFlight flushing.unarmed occurred with
  | idle uncancelled tasks pending =>
      obtain ⟨number, same, _⟩ | ⟨_, rfl, _⟩ := course
      · exact absurd same (uncancelled number)
      · rw [proceed_nil]
        exact .inl ⟨flushing.landed, flushing.markdown, flushing.call,
          tasks.trans flushing.tasks, pending.trans flushing.pending,
          Machine.unarmed_of_occur? occurred flushing.unarmed⟩
  | answered reply unstopped tasks pending =>
      obtain ⟨number, same, _⟩ | ⟨_, rfl, _⟩ := course
      · cases same
      · cases reply with
        | conflict => cases forward
        | failed failure => cases forward
        | saved version =>
            have closing : ({ session with autosave := machine } : Session).call =
                some (first.autosave.nextNumber, .close) := flushing.call
            rw [proceed_of_attempted closing (ending?_of_answered _ _)]
            refine .inr ⟨flushing.markdown, rfl, rfl, ?_, ?_, leave_isStill _⟩
            · simp [leave_tasks, Machine.stoppedTasks, tasks]
            · simp [leave_pending, pending, Autosave.Pipeline.land_saved_pending,
                flushing.pending, leavesEdit, flushing.landed]
  | abandoned => exact absurd rfl kept

/-- The write of a timer goes on after its session was closed, or it is over and the session comes to
rest. The write of the debounce timer is over only when it is answered. -/
theorem Draining.occur
    (draining : Draining first session number purpose write)
    (sound : session.Sound)
    (possible : session.occur? occurrence = some (next, notes))
    (forward : (Move.occurrence occurrence).isSetback = false) :
    Draining first next number purpose write ∨ Resting first next ∧
      (purpose = .debounce → ∃ version, occurrence = .updateReply number (.saved version)) := by
  obtain ⟨machine, effects, occurred, rfl⟩ := eq_of_occur?_of_idle draining.idle possible
  have still := Machine.isStill_of_occur? occurred draining.still
  have goesOn (tasks : machine.tasks = session.autosave.tasks)
      (pending : machine.pipeline.pending = session.autosave.pipeline.pending) :
      Draining first { session with autosave := machine } number purpose write :=
    { draining with
      tasks := tasks.trans draining.tasks
      pending := pending.trans draining.pending
      still }
  have running := sound.autosave.task?_eq_some (draining.tasks ▸ List.mem_singleton.mpr rfl)
  rcases draining.timed with rfl | rfl
  all_goals
    have inFlight := sound.autosave.inFlight_of_writing running
  · cases Machine.awaits_of_occur? draining.tasks inFlight draining.still.unarmed occurred with
    | idle uncancelled tasks pending => exact .inl (goesOn tasks pending)
    | abandoned fired => exact absurd rfl fired
    | answered reply unstopped tasks pending =>
        cases reply with
        | conflict => cases forward
        | failed failure => cases forward
        | saved version =>
            refine .inr ⟨?_, fun _ => ⟨version, rfl⟩⟩
            refine ⟨draining.markdown, draining.left, draining.idle, tasks, ?_, still⟩
            rw [pending, Autosave.Pipeline.land_saved_pending, draining.pending]
            by_cases same : write.content = first.markdown
            · simp [leavesEdit, draining.running, same]
            · simp [leavesEdit, draining.running, same, Ne.symm same]
  · cases Machine.awaits_of_occur? draining.tasks inFlight draining.still.unarmed occurred with
    | idle uncancelled tasks pending => exact .inl (goesOn tasks pending)
    | answered reply unstopped => exact absurd rfl unstopped
    | abandoned fired tasks pending =>
        refine .inr ⟨?_, nofun⟩
        refine ⟨draining.markdown, draining.left, draining.idle, tasks, ?_, still⟩
        simp [pending, draining.pending, leavesEdit, draining.running]

/-- Only time goes on for a session at rest. -/
theorem Resting.occur
    (resting : Resting first session)
    (possible : session.occur? occurrence = some (next, notes)) :
    Resting first next ∧ ∃ milliseconds, occurrence = .pass milliseconds := by
  obtain ⟨machine, effects, occurred, rfl⟩ := eq_of_occur?_of_idle resting.idle possible
  have still := Machine.isStill_of_occur? occurred resting.still
  obtain ⟨milliseconds, rfl, rfl, rfl⟩ :=
    Machine.eq_pass_of_occur? resting.tasks resting.still occurred
  refine ⟨⟨resting.markdown, resting.left, resting.idle, ?_, ?_, still⟩, milliseconds, rfl⟩
  · exact (Machine.retire_tasks _).trans resting.tasks
  · exact (Machine.retire_pending _).trans resting.pending

/-- A session that takes requests and is calm reaches one of the stages when it is closed. -/
theorem Calm.close
    (calm : session.Calm)
    (sound : session.Sound)
    (idle : session.call = none)
    (buffered : ∀ content, session.autosave.pipeline.pending = some content →
      session.markdown = content) :
    (∃ write, Flushing session (session.ask .close .flush).1 write) ∨
    (∃ number purpose write, Draining session (session.ask .close .flush).1 number purpose write) ∨
    Resting session (session.ask .close .flush).1 ∧ session.autosave.tasks = [] := by
  cases found : session.autosave.pipeline.nextWrite? with
  | some write =>
      obtain ⟨_, landed, pending, _⟩ := Autosave.Pipeline.nextWrite?_eq_some found
      have alone : session.autosave.tasks = [] := by
        rcases calm.tasks_of_idle sound idle with ⟨none, _⟩ | ⟨_, _, _, _, _, inFlight⟩
        · exact none
        · cases landed.symm.trans inFlight
      obtain ⟨machine, flushed, tasks, pendingEq, unarmed⟩ :=
        Machine.request_flush_of_found found
      rw [ask_of_begun flushed]
      exact .inl ⟨write, alone, rfl, rfl, by rw [tasks, alone], pendingEq.trans pending, unarmed⟩
  | none =>
      obtain ⟨machine, flushed, tasks, pendingEq⟩ := Machine.request_flush_of_skipped found
      have stopped : machine.stoppedTasks = session.autosave.stoppedTasks := by
        rw [Machine.stoppedTasks, tasks]
        rfl
      rw [ask_of_skipped flushed]
      rcases calm.tasks_of_idle sound idle with
        ⟨none, landed⟩ | ⟨number, purpose, write, timed, alone, inFlight⟩
      · have free := Autosave.Pipeline.isFree_iff.mpr ⟨calm.phase, landed⟩
        have empty : session.autosave.pipeline.pending = Option.none := by
          simpa [Autosave.Pipeline.nextWrite?, free] using found
        refine .inr (.inr ⟨⟨rfl, rfl, rfl, ?_, ?_, leave_isStill _⟩, none⟩)
        · rw [leave_tasks, stopped, Machine.stoppedTasks, none]
          rfl
        · simp [leave_pending, pendingEq, empty, leavesEdit, none]
      · obtain ⟨content, pending⟩ := Option.isSome_iff_exists.mp (sound.buffers inFlight)
        refine .inr (.inl ⟨number, purpose, write, timed, alone, rfl, rfl, rfl, ?_, ?_,
          leave_isStill _⟩)
        · rw [leave_tasks, stopped, Machine.stoppedTasks, alone]
          rfl
        · rw [leave_pending, pendingEq, pending, buffered content pending]

end Session

namespace Account

open Autosave (Machine)

variable {first : Session} {account next : Account} {turn : Turn}

/-- Whether a turn tells the session of no write that was refused or failed. -/
def Turn.isCalm : Turn → Bool
  | .move step => !step.isSetback
  | .accept _ => true

/-- Turns that are no setback keep an open session calm. -/
theorem Sound.calm_of_turn?
    (sound : account.Sound)
    (calm : account.session.isOpen = true → account.session.Calm)
    (possible : account.turn? turn = some next)
    (forward : turn.isCalm = true)
    (stillOpen : next.session.isOpen = true) :
    next.session.Calm := by
  cases turn with
  | accept number =>
      simp only [turn?] at possible
      split at possible
      · split at possible
        · cases possible
        · obtain rfl := Option.some.inj possible
          exact calm stillOpen
      · cases possible
  | move move =>
      simp only [turn?] at possible
      split at possible
      case isFalse => cases possible
      case isTrue =>
        obtain ⟨⟨session, notes⟩, moved, rfl⟩ := Option.map_eq_some_iff.mp possible
        exact sound.session.calm_of_move? calm moved (by simpa [Turn.isCalm] using forward)
          stillOpen

/-- Which stage a session has reached that was closed when it stood as a first one, and what the store
has once it is at rest. -/
inductive Closing (first : Session) (account : Account) : Prop
  | flushing (write : Autosave.Write)
      (stage : Session.Flushing first account.session write)
  | draining (number : Nat) (purpose : Autosave.Purpose) (write : Autosave.Write)
      (stage : Session.Draining first account.session number purpose write)
  | resting
      (stage : Session.Resting first account.session)
      (content : ∀ number write, first.autosave.tasks = [(number, .writing .debounce write)] →
        account.content = write.content)

/-- What the store accepts leaves the session in its stage. -/
theorem Closing.accept
    (closing : Closing first account)
    {number : Nat}
    (possible : account.turn? (.accept number) = some next) :
    Closing first next := by
  simp only [turn?] at possible
  split at possible
  case h_2 => cases possible
  case h_1 purpose write running =>
    split at possible
    case isTrue => cases possible
    case isFalse =>
      obtain rfl := Option.some.inj possible
      cases closing with
      | flushing write stage => exact .flushing write stage
      | draining number purpose write stage => exact .draining number purpose write stage
      | resting stage =>
          have member := Machine.mem_of_task? running
          rw [stage.tasks] at member
          cases member

/-- What happens to a session that is closed brings it to its next stage, as long as no write is
refused or fails and the closing call is not given up. -/
theorem Closing.occur
    (closing : Closing first account)
    (sound : account.Sound)
    {occurrence : Autosave.Occurrence}
    {session : Session}
    {notes : List Session.Effect}
    (possible : account.session.occur? occurrence = some (session, notes))
    (allowed : account.allows (.occurrence occurrence) = true)
    (forward : (Session.Move.occurrence occurrence).isSetback = false)
    (kept : occurrence ≠ .cancel first.autosave.nextNumber) :
    Closing first { account with
      session
      content := (account.loaded? (.occurrence occurrence)).getD account.content } := by
  cases closing with
  | flushing write stage =>
      rcases stage.occur sound.session possible forward kept with later | rests
      · exact .flushing write later
      · refine .resting rests fun number write running => ?_
        rw [stage.landed] at running
        cases running
  | draining number purpose write stage =>
      rcases stage.occur sound.session possible forward with later | ⟨rests, answered⟩
      · exact .draining number purpose write later
      · refine .resting rests fun other otherWrite running => ?_
        obtain ⟨rfl, same⟩ := Prod.mk.inj (List.cons.inj (stage.running.symm.trans running)).1
        obtain ⟨rfl, rfl⟩ := Autosave.Task.writing.inj same
        -- The answer tells of a write that the store has accepted, the one whose content it has.
        obtain ⟨version, rfl⟩ := answered rfl
        have accepted : number ∈ account.accepted := by simpa [allows] using allowed
        obtain ⟨_, _, equal, content⟩ := (sound.accepted number accepted).write_of_mem
          (.writing .debounce write) (stage.tasks ▸ List.mem_singleton.mpr rfl)
        obtain ⟨_, rfl⟩ := Autosave.Task.writing.inj equal
        exact content
  | resting stage content =>
      obtain ⟨rests, milliseconds, rfl⟩ := stage.occur possible
      exact .resting rests content

/-- Every turn brings a session that is closed further, as long as no write is refused or fails and
the closing call is not given up. -/
theorem Closing.kept
    (closing : Closing first account)
    (sound : account.Sound)
    (possible : account.turn? turn = some next)
    (forward : turn.isCalm = true)
    (held : turn ≠ .move (.occurrence (.cancel first.autosave.nextNumber))) :
    Closing first next := by
  cases turn with
  | accept number => exact closing.accept possible
  | move move =>
      simp only [turn?] at possible
      split at possible
      case isFalse => cases possible
      case isTrue allowed =>
        obtain ⟨⟨session, notes⟩, moved, rfl⟩ := Option.map_eq_some_iff.mp possible
        cases move with
        | request request =>
            have busy : account.session.isReady = false := by
              cases closing with
              | flushing write stage => simp [Session.isReady, stage.call]
              | draining number purpose write stage => simp [Session.isReady, stage.left]
              | resting stage => simp [Session.isReady, stage.left]
            simp [Session.move?, Session.request?, busy] at moved
        | destroySurface =>
            obtain ⟨rfl, _⟩ := Prod.mk.inj (Option.some.inj moved)
            cases closing with
            | flushing write stage => exact .flushing write { stage with }
            | draining number purpose write stage =>
                exact .draining number purpose write { stage with }
            | resting stage content => exact .resting { stage with } content
        | occurrence occurrence =>
            exact closing.occur sound moved allowed (by simpa [Turn.isCalm] using forward)
              fun same => held (by rw [same])

/-- What every turn of a run keeps, as long as the text is accounted for, holds at its end. -/
theorem Sound.follow_induction
    (sound : account.Sound)
    {invariant : Account → Prop}
    (turns : List Turn)
    (kept : ∀ {account turn next}, turn ∈ turns → account.Sound → invariant account →
      account.turn? turn = some next → invariant next)
    (holds : invariant account) :
    invariant (account.follow turns) :=
  (@takeTurns_induction_of_mem _ _ _ (fun account : Account => account.Sound ∧ invariant account)
    turns
    (fun member holds possible =>
      ⟨holds.1.kept possible, kept member holds.1 holds.2 possible⟩)
    _ ⟨sound, holds⟩).2

/-- A calm session that takes requests reaches one of the stages when it is closed. -/
theorem Sound.closing
    (sound : account.Sound)
    (calm : account.session.Calm)
    (ready : account.session.isReady = true) :
    ∃ closed, account.turn? (.move (.request .close)) = some closed ∧ closed.Sound ∧
      Closing account.session closed := by
  have idle := Option.isNone_iff_eq_none.mp (Bool.and_eq_true_iff.mp ready).2
  have possible : account.turn? (.move (.request .close)) =
      some { account with session := (account.session.ask .close .flush).1 } := by
    simp [turn?, allows, loaded?, Session.move?, Session.request?, ready]
  refine ⟨_, possible, sound.kept possible, ?_⟩
  have buffered (content : String)
      (pending : account.session.autosave.pipeline.pending = some content) :
      account.session.markdown = content := by
    rw [sound.markdown_eq, pending]
    rfl
  rcases calm.close sound.session idle buffered with
    ⟨write, stage⟩ | ⟨number, purpose, write, stage⟩ | ⟨stage, none⟩
  · exact .flushing write stage
  · exact .draining number purpose write stage
  · refine .resting stage fun number write running => ?_
    rw [none] at running
    cases running

/-- When a session is closed after turns of which none is a setback, and everything has come to rest
after more such turns, both timers are stopped and the text is the one at the moment of closing.
If no write was in flight at that moment, or only one of the debounce timer that carries the
text, the store has the text. Otherwise the text is left unsaved, and the content of the write
of the debounce timer is what the store has. -/
theorem content_after_close
    (settings : Settings)
    (document : Store.Document)
    (turns later : List Turn)
    {opened closed : Account}
    (opened_eq : opened = (start settings document).follow turns)
    (closed_eq : closed = opened.follow (.move (.request .close) :: later))
    (forward : ∀ turn ∈ turns ++ later, turn.isCalm = true)
    (ready : opened.session.isReady = true)
    (kept : .move (.occurrence (.cancel opened.session.autosave.nextNumber)) ∉ later)
    (rests : closed.session.autosave.tasks = []) :
    closed.session.isOpen = false ∧ closed.session.autosave.pipeline.IsStill ∧
    closed.session.markdown = opened.session.markdown ∧
    (opened.session.leavesEdit = false → closed.content = opened.session.markdown) ∧
    closed.session.hasUnsavedChanges = opened.session.leavesEdit ∧
    ∀ number write, (number, .writing .debounce write) ∈ opened.session.autosave.tasks →
      closed.content = write.content := by
  obtain ⟨before, after⟩ := List.forall_mem_append.mp forward
  have sound : opened.Sound := opened_eq ▸ (sound_start settings document).follow turns
  have calm : opened.session.Calm := by
    have isOpen := (Bool.and_eq_true_iff.mp ready).1
    subst opened_eq
    exact (sound_start settings document).follow_induction turns
      (fun member sound calm possible => sound.calm_of_turn? calm possible (before _ member))
      (fun _ => Session.calm_ofDocument settings document) isOpen
  obtain ⟨first, possible, firstSound, firstClosing⟩ := sound.closing calm ready
  obtain rfl : closed = first.follow later := by
    rw [closed_eq, follow, takeTurns_cons_of_some possible]
    rfl
  have closing : Closing opened.session (first.follow later) :=
    firstSound.follow_induction later
      (fun member sound closing possible => closing.kept sound possible (after _ member)
        fun same => kept (same ▸ member))
      firstClosing
  cases closing with
  | flushing write stage => cases stage.tasks.symm.trans rests
  | draining number purpose write stage => cases stage.tasks.symm.trans rests
  | resting stage content =>
      refine ⟨stage.left, stage.still, stage.markdown, fun flushed => ?_, ?_, ?_⟩
      · have markdown := (firstSound.follow later).markdown_eq
        rw [stage.pending, flushed, stage.markdown] at markdown
        exact markdown.symm
      · rw [Session.hasUnsavedChanges, stage.pending]
        cases opened.session.leavesEdit <;> rfl
      · intro number write member
        have idle := Option.isNone_iff_eq_none.mp (Bool.and_eq_true_iff.mp ready).2
        rcases calm.tasks_of_idle sound.session idle with ⟨none, _⟩ | ⟨_, _, _, _, alone, _⟩
        · rw [none] at member
          cases member
        · rw [alone] at member
          exact content number write (alone.trans (List.mem_singleton.mp member ▸ rfl))

/-- An edit whose write has no answer yet when another edit comes. -/
def overtakenEdit : List Turn :=
  [.move (.request (.editMarkdown "draft")), .move (.occurrence (.pass 1000)),
    .move (.occurrence .debounce), .move (.request (.editMarkdown "final"))]

/-- The store accepts a write with a number, and tells so. -/
def answer (number : Nat) (version : Int) : List Turn :=
  [.accept number, .move (.occurrence (.updateReply number (.saved version)))]

theorem content_after_close_of_answer :
    ∃ opened closed : Account,
      opened = (start .standard ⟨.nil, .nil, "base", 1⟩).follow (overtakenEdit ++ answer 0 2) ∧
      closed = opened.follow (.move (.request .close) :: answer 1 3) ∧
      opened.session.markdown = "final" ∧ closed.content = opened.session.markdown :=
  ⟨_, _, rfl, rfl, rfl,
    (content_after_close .standard ⟨.nil, .nil, "base", 1⟩ (overtakenEdit ++ answer 0 2)
      (answer 1 3) rfl rfl (by decide) rfl (by simp [answer]) rfl).2.2.2.1 rfl⟩

/-- When the session is closed while the write of an earlier edit has no answer, the later edit is
never written. -/
theorem edit_lost_in_close :
    ∃ opened closed : Account,
      opened = (start .standard ⟨.nil, .nil, "base", 1⟩).follow overtakenEdit ∧
      closed = opened.follow (.move (.request .close) :: answer 0 2) ∧
      (∀ turn ∈ overtakenEdit ++ answer 0 2, turn.isCalm = true) ∧
      opened.session.isReady = true ∧ closed.session.isOpen = false ∧
      closed.session.autosave.tasks = [] ∧ closed.session.autosave.pipeline.IsStill ∧
      closed.accepted = [0] ∧ closed.content = "draft" ∧ opened.session.markdown = "final" ∧
      closed.content ≠ opened.session.markdown :=
  ⟨_, _, rfl, rfl, by decide, rfl, rfl, rfl, ⟨rfl, rfl⟩, rfl, rfl, rfl, by decide⟩

end Account
end TwinEditor
