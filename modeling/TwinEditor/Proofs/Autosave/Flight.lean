import TwinEditor.Proofs.Autosave.Buffer
import TwinEditor.Proofs.Autosave.Chronicle

/-!
# One write at a time

At every moment of every course at most one write is outstanding. A write begins only when none
is, outside of a conflict and with a content that is buffered, and it takes the content, the
document and the version from the pipeline as it stands then. When a write is given up the
machine is free again: a content that is saved afterwards is written.
-/

namespace TwinEditor
namespace Autosave

open Store

namespace Pipeline

variable (pipeline : Pipeline)

theorem isFree_iff
    {pipeline : Pipeline} :
    pipeline.isFree = true ↔ pipeline.phase ≠ .conflict ∧ pipeline.inFlight = false := by
  simp [isFree]

@[simp] theorem buffer_isFree (content : String) (due : Nat) :
    (pipeline.buffer content due).isFree = pipeline.isFree := by
  rw [Bool.eq_iff_iff]
  simp [isFree_iff, buffer_phase_eq_conflict_iff]

/-- A pipeline that is free writes what is buffered. -/
theorem nextWrite?_buffer_of_isFree
    {pipeline : Pipeline}
    (free : pipeline.isFree = true)
    (content : String)
    (due : Nat) :
    (pipeline.buffer content due).nextWrite? =
      some ⟨pipeline.documentId, content, pipeline.version⟩ := by
  simp [nextWrite?, free]

theorem buffer_debounce_of_isFree
    {pipeline : Pipeline}
    (free : pipeline.isFree = true)
    (content : String)
    (due : Nat) :
    (pipeline.buffer content due).debounce = some due := by
  rw [buffer, if_neg (isFree_iff.mp free).1]

/-- Timers have no part in what is written next. -/
theorem Quieted.nextWrite?_eq
    {before after : Pipeline}
    (quieted : before.Quieted after) :
    after.nextWrite? = before.nextWrite? := by
  have isFree : after.isFree = before.isFree := by
    rw [Bool.eq_iff_iff]
    simp [isFree_iff, quieted.inFlight_eq, quieted.phase_eq_conflict_iff]
  simp [nextWrite?, isFree, quieted.pending_eq, quieted.documentId_eq, quieted.version_eq]

end Pipeline

namespace Machine

variable {machine next : Machine} {move : Move} {effects : List Effect}

/-- How a pipeline stands when a move comes to begin a write: the move has changed timers only,
or a resolution has adopted the document that it waited for. -/
inductive Prepares (machine : Machine) (number : Nat) : Move → Pipeline → Prop
  | quieted {move : Move} {ready : Pipeline}
      (quieted : machine.pipeline.Quieted ready) :
      Prepares machine number move ready
  | adopted {resolution : Resolution} {latest : Document}
      (waiting : (number, .fetching resolution) ∈ machine.tasks) :
      Prepares machine number (.occurrence (.fetchReply number (.ok latest)))
        (machine.pipeline.adopt resolution latest)

/-- A change that calls for a write does nothing else: the pipeline had a write to begin and has
begun it. -/
theorem Change.prepares_of_updateCalled
    (change : Change machine move next effects)
    {number : Nat}
    {write : Write}
    (called : .updateCalled number write ∈ effects) :
    effects = [.updateCalled number write] ∧
      ∃ ready, machine.Prepares number move ready ∧ ready.nextWrite? = some write ∧
        next.pipeline = ready.launch := by
  cases change with
  | quiet light pipeline tasks nextNumber idle => cases idle _ called
  | launch purpose ready other light quieted found pipeline tasks nextNumber =>
      obtain ⟨rfl, rfl⟩ := Effect.updateCalled.inj (List.mem_singleton.mp called)
      exact ⟨rfl, ready, .quieted quieted, found, pipeline⟩
  | resubmit other resolution latest otherWrite waiting found pipeline tasks nextNumber =>
      obtain ⟨rfl, rfl⟩ := Effect.updateCalled.inj (List.mem_singleton.mp called)
      exact ⟨rfl, _, .adopted (mem_of_task? waiting), found, pipeline⟩
  | land other purpose otherWrite reply running stopped pipeline tasks nextNumber =>
      rcases List.mem_cons.mp called with announced | answered
      · cases announced
      · cases purpose <;> simp [answers] at answered
  | save => cases called
  | fetch => cases List.mem_singleton.mp called
  | refuse => cases List.mem_singleton.mp called
  | adopt => cases List.mem_singleton.mp called
  | forgo => cases called
  | abandon => cases called

/-- When a write begins, none was in flight. -/
theorem Prepares.landed
    {number : Nat}
    {ready : Pipeline}
    (prepares : machine.Prepares number move ready)
    {write : Write}
    (found : ready.nextWrite? = some write) :
    machine.pipeline.inFlight = false := by
  have landed := (Pipeline.nextWrite?_eq_some found).2.1
  cases prepares with
  | quieted quieted => exact quieted.inFlight_eq.symm.trans landed
  | adopted waiting => exact landed

/-! ## A machine that is free writes what is saved -/

/-- A content that is saved now is written: at once if a flush follows, and else when the
debounce timer fires. -/
structure Writes (machine : Machine) : Prop where
  flushed : ∀ content,
    (machine.follow [.request (.save content), .request .flush]).2 =
      [.updateCalled machine.nextNumber
        ⟨machine.pipeline.documentId, content, machine.pipeline.version⟩]
  debounced : ∀ content,
    (machine.follow [.request (.save content), .occurrence (.pass machine.config.debounce),
      .occurrence .debounce]).2 =
      [.updateCalled machine.nextNumber
        ⟨machine.pipeline.documentId, content, machine.pipeline.version⟩]

/-- A machine that somebody holds buffers a content that is saved. -/
theorem move?_save
    (held : machine.isHeld = true)
    (content : String) :
    machine.move? (.request (.save content)) = some
      ({ machine with
          pipeline := machine.pipeline.buffer content (machine.clock + machine.config.debounce) },
        []) := by
  rw [move?, if_pos held, request]
  simp only [requestHeld]
  rw [retire_of_isHeld]
  exact held

/-- Only time passes for a machine that somebody holds. -/
theorem move?_pass
    (held : machine.isHeld = true)
    (milliseconds : Nat) :
    machine.move? (.occurrence (.pass milliseconds)) =
      some ({ machine with clock := machine.clock + milliseconds }, []) := by
  have retired : { machine with clock := machine.clock + milliseconds }.retire =
      { machine with clock := machine.clock + milliseconds } := retire_of_isHeld held
  simp [move?, occur?, occurNeeded?, retired]

/-- A flush that finds nothing to write tells so. -/
theorem request_flush_of_skipped
    (skipped : machine.pipeline.nextWrite? = none) :
    ∃ next, machine.request .flush = (next, [.attempted machine.nextNumber .skipped]) ∧
      next.tasks = machine.tasks ∧ next.pipeline.pending = machine.pipeline.pending := by
  have disarmed : machine.pipeline.disarm.leaveDebounce.nextWrite? = none :=
    (Pipeline.Quieted.disarm_leaveDebounce machine.pipeline).nextWrite?_eq.trans skipped
  refine ⟨(machine.request .flush).1, ?_, ?_, request_pending machine .flush⟩
  all_goals
    cases free : machine.pipeline.isFree <;>
      simp [request, requestHeld, takeNumber, attemptWrite, answers, free, skipped, disarmed]

/-- A flush that finds something to write begins the write, and the debounce timer waits no more. -/
theorem request_flush_of_found
    {write : Write}
    (found : machine.pipeline.nextWrite? = some write) :
    ∃ next, machine.request .flush = (next, [.updateCalled machine.nextNumber write]) ∧
      next.tasks = (machine.nextNumber, .writing .flush write) :: machine.tasks ∧
      next.pipeline.pending = machine.pipeline.pending ∧ next.pipeline.debounce = none := by
  obtain ⟨calm, landed, _⟩ := Pipeline.nextWrite?_eq_some found
  have free := Pipeline.isFree_iff.mpr ⟨calm, landed⟩
  have ready : machine.pipeline.disarm.leaveDebounce.nextWrite? = some write :=
    (Pipeline.Quieted.disarm_leaveDebounce machine.pipeline).nextWrite?_eq.trans found
  refine ⟨(machine.request .flush).1, ?_, ?_, request_pending machine .flush, ?_⟩
  · simp [request, requestHeld, takeNumber, attemptWrite, free, ready]
  · simp [request, requestHeld, takeNumber, attemptWrite, free, ready]
  · apply retire_debounce_eq_none
    simp only [free, if_true, ready]
    rfl

/-- A flush begins the write that is next. -/
theorem exists_move?_flush
    (held : machine.isHeld = true)
    {write : Write}
    (found : machine.pipeline.nextWrite? = some write) :
    ∃ next, machine.move? (.request .flush) =
      some (next, [.updateCalled machine.nextNumber write]) := by
  obtain ⟨next, flushed, _⟩ := request_flush_of_found found
  exact ⟨next, by rw [move?, if_pos held, flushed]⟩

/-- The debounce timer begins the write that is next when it fires. -/
theorem exists_move?_debounce
    {due : Nat}
    (armed : machine.pipeline.debounce = some due)
    (past : due ≤ machine.clock)
    {write : Write}
    (found : machine.pipeline.nextWrite? = some write) :
    ∃ next, machine.move? (.occurrence .debounce) =
      some (next, [.updateCalled machine.nextNumber write]) := by
  have ready : machine.pipeline.disarm.leaveDebounce.nextWrite? = some write :=
    (Pipeline.Quieted.disarm_leaveDebounce machine.pipeline).nextWrite?_eq.trans found
  have fired : machine.occurNeeded? .debounce = some
      (attemptWrite { machine.takeNumber.2 with pipeline := machine.pipeline.disarm.leaveDebounce }
        .debounce machine.nextNumber) :=
    occurNeeded?_debounce_eq_some_iff.mpr ⟨due, armed, past, rfl⟩
  simp [move?, occur?, fired, takeNumber, attemptWrite, ready]

/-- A machine that somebody holds and that is free writes what is saved. -/
theorem writes_of_isFree
    (held : machine.isHeld = true)
    (free : machine.pipeline.isFree = true) :
    machine.Writes := by
  constructor
  all_goals
    intro content
    let due := machine.clock + machine.config.debounce
    let saved : Machine := { machine with pipeline := machine.pipeline.buffer content due }
    have found := Pipeline.nextWrite?_buffer_of_isFree free content due
  case flushed =>
    obtain ⟨next, flushed⟩ := exists_move?_flush (show saved.isHeld = true from held) found
    rw [follow_cons_of_some (move?_save held content), follow_cons_of_some flushed]
    rfl
  case debounced =>
    let rested : Machine := { saved with clock := due }
    have armed : rested.pipeline.debounce = some due :=
      Pipeline.buffer_debounce_of_isFree free content due
    obtain ⟨next, fired⟩ := exists_move?_debounce armed (Nat.le_refl _) found
    rw [follow_cons_of_some (move?_save held content),
      follow_cons_of_some (move?_pass (show saved.isHeld = true from held) _),
      follow_cons_of_some fired]
    rfl

/-- A write that is given up leaves its content buffered and the machine free. -/
theorem Change.isFree_of_cancel
    {number : Nat}
    (change : Change machine (.occurrence (.cancel number)) next effects)
    (sound : machine.Sound)
    {purpose : Purpose}
    {write : Write}
    (running : machine.task? number = some (.writing purpose write)) :
    next.pipeline.isFree = true ∧ next.pipeline.pending = machine.pipeline.pending := by
  have calm := sound.phase_ne_conflict_of_writing running
  cases change with
  | quiet light => cases light
  | launch purpose ready write light => cases light
  | forgo number resolution waiting => cases running.symm.trans waiting
  | abandon number purpose write task pipeline =>
      rw [pipeline]
      refine ⟨Pipeline.isFree_iff.mpr ⟨?_, Pipeline.abandon_inFlight _⟩,
        Pipeline.abandon_pending _⟩
      rwa [ne_eq, Pipeline.abandon_phase_eq_conflict_iff]

end Machine

namespace Chronicle

variable {chronicle next : Chronicle} {move : Move}

namespace Faithful

/-- A machine is free when nothing is outstanding and there is no conflict. -/
theorem isFree_of_outstanding
    (faithful : chronicle.Faithful)
    (none : chronicle.record.outstanding = [])
    (calm : chronicle.machine.pipeline.phase ≠ .conflict) :
    chronicle.machine.pipeline.isFree = true := by
  refine Pipeline.isFree_iff.mpr ⟨calm, Bool.eq_false_iff.mpr fun inFlight => ?_⟩
  exact faithful.inFlight_iff.mp inFlight none

/-- When a write that is outstanding is given up, its content stays buffered, nothing is
outstanding any more, and the machine is free. -/
theorem isFree_of_cancel
    (faithful : chronicle.Faithful)
    {update : Update}
    (outstanding : update ∈ chronicle.record.outstanding)
    (possible : chronicle.move? (.occurrence (.cancel update.number)) = some next) :
    next.record.outstanding = [] ∧ next.machine.pipeline.isFree = true ∧
      next.machine.pipeline.pending = chronicle.machine.pipeline.pending := by
  have inFlight := faithful.inFlight_iff.mpr (List.ne_nil_of_mem outstanding)
  obtain ⟨number, purpose, write, member⟩ := faithful.books.exists_writing inFlight
  obtain ⟨source, one⟩ := faithful.outstanding_of_writing member
  obtain rfl := List.mem_singleton.mp (one ▸ outstanding)
  have later := faithful.kept possible
  obtain ⟨machine, effects, change, rfl⟩ := exists_change_of_move? possible
  obtain ⟨free, pending⟩ :=
    change.isFree_of_cancel faithful.books (faithful.books.task?_eq_some member)
  obtain ⟨calm, landed⟩ := Pipeline.isFree_iff.mp free
  refine ⟨later.outstanding_of_landed ((Machine.retire_inFlight _).trans landed),
    Pipeline.isFree_iff.mpr ⟨?_, (Machine.retire_inFlight _).trans landed⟩,
    (Machine.retire_pending _).trans pending⟩
  rwa [Machine.retire_phase]

/-- A write that begins is the only one, and it takes the content, the document and the version
of a pipeline that has no conflict. -/
theorem prepares_of_updateCalled
    (faithful : chronicle.Faithful)
    {machine : Machine}
    {effects : List Effect}
    (possible : chronicle.machine.move? move = some (machine, effects))
    {number : Nat}
    {write : Write}
    (called : .updateCalled number write ∈ effects) :
    effects = [.updateCalled number write] ∧ chronicle.record.outstanding = [] ∧
      ∃ ready, chronicle.machine.Prepares number move ready ∧ ready.phase ≠ .conflict ∧
        ready.pending = some write.content ∧ write.documentId = ready.documentId ∧
        write.version = ready.version ∧ machine.pipeline = ready.launch := by
  obtain ⟨changed, change, rfl⟩ := Machine.change_of_move? possible
  obtain ⟨only, ready, prepares, found, launched⟩ := change.prepares_of_updateCalled called
  obtain ⟨calm, _, pending, documentId, version⟩ := Pipeline.nextWrite?_eq_some found
  obtain ⟨⟨purpose, member⟩, _⟩ := change.writing_of_updateCalled called
  refine ⟨only, faithful.outstanding_of_landed (prepares.landed found), ready, prepares, calm,
    pending, documentId, version, ?_⟩
  rw [Machine.retire_of_isNeeded (Machine.isNeeded_of_mem member)]
  exact launched

end Faithful

/-- At most one write is outstanding at any time, and the machine marks a write as in flight
exactly then. A write begins only when none is outstanding, outside of a conflict and with a
content that is buffered; it takes that content, the document and the version from the pipeline
as it stands at that moment. When it is given up, nothing is outstanding and its content is still
buffered, and whenever nothing is outstanding outside of a conflict a content that is saved is
written. -/
theorem one_write_at_a_time
    (config : Config)
    (document : Document)
    (moves : List Move) :
    ((start config document).follow moves).record.outstanding.length ≤ 1 ∧
    (((start config document).follow moves).machine.pipeline.inFlight = true ↔
      ((start config document).follow moves).record.outstanding ≠ []) ∧
    (∀ move machine effects number write,
      ((start config document).follow moves).machine.move? move = some (machine, effects) →
      .updateCalled number write ∈ effects →
      effects = [.updateCalled number write] ∧
      ((start config document).follow moves).record.outstanding = [] ∧
      ∃ ready, ((start config document).follow moves).machine.Prepares number move ready ∧
        ready.phase ≠ .conflict ∧ ready.pending = some write.content ∧
        write.documentId = ready.documentId ∧ write.version = ready.version ∧
        machine.pipeline = ready.launch) ∧
    (∀ update ∈ ((start config document).follow moves).record.outstanding, ∀ next,
      ((start config document).follow moves).move? (.occurrence (.cancel update.number)) =
        some next →
      next.record.outstanding = [] ∧
      next.machine.pipeline.pending =
        ((start config document).follow moves).machine.pipeline.pending ∧
      (next.machine.isHeld = true → next.machine.Writes)) ∧
    (((start config document).follow moves).record.outstanding = [] →
      ((start config document).follow moves).machine.pipeline.phase ≠ .conflict →
      ((start config document).follow moves).machine.isHeld = true →
      ((start config document).follow moves).machine.Writes) := by
  have faithful := (faithful_start config document).follow moves
  refine ⟨faithful.length_outstanding_le_one, faithful.inFlight_iff, ?_, ?_, ?_⟩
  · intro move machine effects number write possible called
    exact faithful.prepares_of_updateCalled possible called
  · intro update outstanding next possible
    obtain ⟨none, free, pending⟩ := faithful.isFree_of_cancel outstanding possible
    exact ⟨none, pending, fun held => Machine.writes_of_isFree held free⟩
  · intro none calm held
    exact Machine.writes_of_isFree held (faithful.isFree_of_outstanding none calm)

/-- The course of a machine whose write was refused and whose resolution waits for its document. -/
def resolving : List Move :=
  [.request (.save "mine"), .request .flush, .occurrence (.updateReply 0 .conflict),
    .request (.resolve .overwrite)]

/-- The document that the resolution waits for. -/
def adoption : Move :=
  .occurrence (.fetchReply 1 (.ok ⟨.nil, .nil, "theirs", 5⟩))

theorem one_write_at_a_time_of_resolution :
    (∃ ready,
      ((start .standard ⟨.nil, .nil, "base", 1⟩).follow resolving).machine.Prepares 1 adoption
        ready ∧
      ready.pending = some "mine" ∧ (5 : Int) = ready.version) ∧
    (∃ next,
      ((start .standard ⟨.nil, .nil, "base", 1⟩).follow (resolving ++ [adoption])).move?
        (.occurrence (.cancel 1)) = some next ∧
      next.record.outstanding = [] ∧ next.machine.Writes) ∧
    ((start .standard ⟨.nil, .nil, "base", 1⟩).follow []).machine.Writes := by
  refine ⟨?_, ⟨_, rfl, ?_⟩, ?_⟩
  · obtain ⟨_, _, begins, _, _⟩ :=
      one_write_at_a_time .standard ⟨.nil, .nil, "base", 1⟩ resolving
    obtain ⟨_, _, ready, prepares, _, pending, _, version, _⟩ :=
      begins adoption _ _ 1 ⟨.nil, "mine", 5⟩ rfl (List.mem_singleton.mpr rfl)
    exact ⟨ready, prepares, pending, version⟩
  · obtain ⟨_, _, _, givesUp, _⟩ :=
      one_write_at_a_time .standard ⟨.nil, .nil, "base", 1⟩ (resolving ++ [adoption])
    obtain ⟨none, _, writes⟩ :=
      givesUp ⟨1, ⟨.nil, "mine", 5⟩, 0, .outstanding⟩ (List.mem_singleton.mpr rfl) _ rfl
    exact ⟨none, writes rfl⟩
  · obtain ⟨_, _, _, _, writes⟩ := one_write_at_a_time .standard ⟨.nil, .nil, "base", 1⟩ []
    exact writes rfl nofun rfl

end Chronicle
end Autosave
end TwinEditor
