import TwinEditor.Proofs.Autosave.Bookkeeping

/-!
# A conflict halts all writing

When the store refuses a version, the machine stops: until the document of the store arrives for
some resolution it begins no write and stays in conflict, whatever else is asked of it or
happens to it. A content that is saved meanwhile only replaces the one that is buffered, and a
resolution that does not get its document leaves everything as it was.
-/

namespace TwinEditor
namespace Autosave

open Store

/-- Whether a move brings the document that a resolution waits for. -/
def Move.bringsDocument : Move → Bool
  | .occurrence (.fetchReply _ (.ok _)) => true
  | _ => false

/-- What can be read from a pipeline, and what its next write is made of, is the same as before. -/
structure Pipeline.Untouched (before after : Pipeline) : Prop where
  phase_eq : after.phase = before.phase
  version_eq : after.version = before.version
  documentId_eq : after.documentId = before.documentId
  pending_eq : after.pending = before.pending
  lastError_eq : after.lastError = before.lastError

namespace Machine

variable {machine next : Machine} {move : Move} {effects : List Effect}

/-- Retiring a machine is the end of its timers and of nothing else. -/
theorem untouched_retire (machine : Machine) :
    machine.pipeline.Untouched machine.retire.pipeline := by
  constructor <;> simp

/-- During a conflict a change neither begins a write nor ends the conflict, unless it brings a
document. -/
theorem Change.halted
    (change : Change machine move next effects)
    (sound : machine.Sound)
    (conflict : machine.pipeline.phase = .conflict)
    (absent : move.bringsDocument = false) :
    next.pipeline.phase = .conflict ∧
      ∀ number write, Effect.updateCalled number write ∉ effects := by
  -- A write that is answered or given up contradicts that nothing is in flight.
  have landed := (sound.halted conflict).1
  cases change with
  | quiet light pipeline tasks nextNumber idle =>
      refine ⟨pipeline.phase_eq_conflict_iff.mpr conflict, fun number write member => ?_⟩
      cases idle _ member
  | save content due pipeline tasks nextNumber =>
      refine ⟨?_, by simp⟩
      rw [pipeline, Pipeline.buffer_phase_eq_conflict_iff]
      exact conflict
  | launch purpose ready write light quieted found pipeline tasks nextNumber =>
      have calm := (Pipeline.nextWrite?_eq_some found).1
      exact absurd (quieted.phase_eq_conflict_iff.mpr conflict) calm
  | fetch resolution phase pipeline tasks nextNumber =>
      exact ⟨pipeline ▸ conflict, by simp⟩
  | land number purpose write reply task running pipeline tasks nextNumber =>
      rw [sound.inFlight_of_writing task] at landed
      cases landed
  | refuse number resolution failure task pipeline tasks nextNumber =>
      exact ⟨pipeline ▸ conflict, by simp⟩
  | adopt number resolution latest task lost pipeline tasks nextNumber => cases absent
  | resubmit number resolution latest write task found pipeline tasks nextNumber => cases absent
  | forgo number resolution task pipeline tasks nextNumber =>
      exact ⟨pipeline ▸ conflict, by simp⟩
  | abandon number purpose write task pipeline tasks nextNumber =>
      rw [sound.inFlight_of_writing task] at landed
      cases landed

/-- During a conflict no move begins a write or ends the conflict, unless it brings a document. -/
theorem halted_of_move
    (sound : machine.Sound)
    (conflict : machine.pipeline.phase = .conflict)
    (absent : move.bringsDocument = false)
    (possible : machine.move? move = some (next, effects)) :
    next.pipeline.phase = .conflict ∧
      ∀ number write, Effect.updateCalled number write ∉ effects := by
  obtain ⟨changed, change, rfl⟩ := change_of_move? possible
  rw [retire_phase]
  exact change.halted sound conflict absent

/-- During a conflict no course begins a write or ends the conflict before it brings a document. -/
theorem halted_follow
    (sound : machine.Sound)
    (conflict : machine.pipeline.phase = .conflict)
    (moves : List Move)
    (absent : ∀ move ∈ moves, move.bringsDocument = false) :
    (machine.follow moves).1.pipeline.phase = .conflict ∧
      ∀ number write, Effect.updateCalled number write ∉ (machine.follow moves).2 := by
  induction moves generalizing machine with
  | nil => exact ⟨conflict, by simp⟩
  | cons move moves inductionHypothesis =>
      have absentLater : ∀ later ∈ moves, later.bringsDocument = false :=
        fun later member => absent later (List.mem_cons_of_mem _ member)
      cases possible : machine.move? move with
      | none =>
          rw [follow_cons_of_none possible]
          exact inductionHypothesis sound conflict absentLater
      | some step =>
          obtain ⟨stillConflict, noWrite⟩ := halted_of_move sound conflict
            (absent move List.mem_cons_self) possible
          obtain ⟨conflictLater, noWriteLater⟩ :=
            inductionHypothesis (sound.move possible) stillConflict absentLater
          rw [follow_cons_of_some possible]
          refine ⟨conflictLater, fun number write member => ?_⟩
          rcases List.mem_append.mp member with now | later
          · exact noWrite number write now
          · exact noWriteLater number write later

/-- A refused version makes a conflict, and no write begins with it. -/
theorem conflict_of_refusal
    {number : Nat}
    (possible : machine.move? (.occurrence (.updateReply number .conflict)) =
      some (next, effects)) :
    next.pipeline.phase = .conflict ∧
      ∀ other write, Effect.updateCalled other write ∉ effects := by
  obtain ⟨changed, change, rfl⟩ := change_of_move? possible
  rw [retire_phase]
  cases change with
  | quiet light => cases light
  | launch purpose ready write light => cases light
  | land number purpose write reply task running pipeline tasks nextNumber =>
      refine ⟨by rw [pipeline, Pipeline.land_phase_eq_conflict_iff], fun other begun member => ?_⟩
      rcases List.mem_cons.mp member with announced | answered
      · cases announced
      · cases purpose <;> simp [answers] at answered

/-- During a conflict a content that is saved only replaces the one that is buffered. -/
theorem save_of_conflict
    (conflict : machine.pipeline.phase = .conflict)
    (held : machine.isHeld = true)
    (content : String) :
    machine.move? (.request (.save content)) =
      some
        ({ machine with pipeline := { machine.pipeline with pending := some content } }, []) := by
  have saved : machine.requestHeld (.save content) =
      ({ machine with pipeline := { machine.pipeline with pending := some content } }, []) := by
    simp only [requestHeld, Pipeline.buffer_of_conflict conflict]
  rw [move?, if_pos held, request, saved]
  dsimp only
  rw [retire_of_isHeld]
  exact held

/-- A resolution whose document does not come leaves everything as it was. -/
theorem untouched_of_failedFetch
    {number : Nat}
    {resolution : Resolution}
    (waiting : machine.task? number = some (.fetching resolution))
    (failure : Failure) :
    ∃ next, machine.move? (.occurrence (.fetchReply number (.error failure))) =
        some (next, [.resolved number (.error failure)]) ∧
      machine.pipeline.Untouched next.pipeline := by
  refine ⟨(machine.dropTask number).retire, ?_, untouched_retire (machine.dropTask number)⟩
  simp [move?, occur?, occurNeeded?, waiting]

/-- A resolution that is given up before its document comes leaves everything as it was. -/
theorem untouched_of_cancelledFetch
    {number : Nat}
    {resolution : Resolution}
    (waiting : machine.task? number = some (.fetching resolution)) :
    ∃ next, machine.move? (.occurrence (.cancel number)) = some (next, []) ∧
      machine.pipeline.Untouched next.pipeline := by
  refine ⟨(machine.dropTask number).retire, ?_, untouched_retire (machine.dropTask number)⟩
  simp [move?, occur?, occurNeeded?, waiting]

/-- From a refused version on, until a document arrives for some resolution, no write begins and
the conflict stays. In every conflict nothing is in flight, no debounce timer is armed, and
saving replaces the buffered content and does nothing else. A resolution that fails to get its
document, or is given up while it waits, changes nothing that can be read. -/
theorem conflict_halts_writing
    (reachable : machine.IsReachable) :
    (∀ number next effects moves,
      machine.move? (.occurrence (.updateReply number .conflict)) = some (next, effects) →
      (∀ move ∈ moves, move.bringsDocument = false) →
      (next.follow moves).1.pipeline.phase = .conflict ∧
        ∀ other write, Effect.updateCalled other write ∉ effects ++ (next.follow moves).2) ∧
    (machine.pipeline.phase = .conflict →
      machine.pipeline.inFlight = false ∧ machine.pipeline.debounce = none ∧
      (∀ entry ∈ machine.tasks, entry.2.isWriting = false) ∧
      ∀ content, machine.isHeld = true →
        machine.move? (.request (.save content)) = some
          ({ machine with pipeline := { machine.pipeline with pending := some content } }, [])) ∧
    (∀ number resolution, machine.task? number = some (.fetching resolution) →
      (∀ failure, ∃ next,
        machine.move? (.occurrence (.fetchReply number (.error failure))) =
          some (next, [.resolved number (.error failure)]) ∧
        machine.pipeline.Untouched next.pipeline) ∧
      ∃ next, machine.move? (.occurrence (.cancel number)) = some (next, []) ∧
        machine.pipeline.Untouched next.pipeline) := by
  have sound := reachable.sound
  refine ⟨fun number next effects moves possible absent => ?_, fun conflict => ?_,
    fun number resolution waiting => ?_⟩
  · obtain ⟨conflict, noWrite⟩ := conflict_of_refusal possible
    obtain ⟨conflictLater, noWriteLater⟩ :=
      halted_follow (sound.move possible) conflict moves absent
    refine ⟨conflictLater, fun other write member => ?_⟩
    rcases List.mem_append.mp member with now | later
    · exact noWrite other write now
    · exact noWriteLater other write later
  · obtain ⟨landed, unarmed⟩ := sound.halted conflict
    exact ⟨landed, unarmed, sound.not_isWriting landed,
      fun content held => save_of_conflict conflict held content⟩
  · exact ⟨untouched_of_failedFetch waiting, untouched_of_cancelledFetch waiting⟩

/-- A machine whose first write has no answer yet. -/
def afterFirstWrite : Machine :=
  ((ofDocument .standard ⟨.nil, .nil, "base", 1⟩).follow
    [.request .start, .request (.save "mine"), .occurrence (.pass 1000),
      .occurrence .debounce]).1

/-- The same machine when that write has been refused and a resolution has begun. -/
def afterRefusal : Machine :=
  (afterFirstWrite.follow
    [.occurrence (.updateReply 0 .conflict), .request (.resolve .overwrite)]).1

theorem conflict_halts_writing_after_refusal :
    (∃ next effects,
      afterFirstWrite.move? (.occurrence (.updateReply 0 .conflict)) = some (next, effects) ∧
      (next.follow [.request (.save "more"), .request .flush, .occurrence (.pass 30000),
        .occurrence .tick, .request (.resolve .reload),
        .occurrence (.cancel 3)]).1.pipeline.phase = .conflict) ∧
    afterRefusal.pipeline.phase = .conflict ∧ afterRefusal.pipeline.debounce = none ∧
    ∃ next, afterRefusal.move? (.occurrence (.cancel 1)) = some (next, []) ∧
      afterRefusal.pipeline.Untouched next.pipeline := by
  have firstReachable : afterFirstWrite.IsReachable := ⟨_, _, _, rfl⟩
  have refusalReachable : afterRefusal.IsReachable := firstReachable.follow _
  refine ⟨⟨_, _, rfl, ?_⟩, rfl, ?_, ?_⟩
  · exact ((conflict_halts_writing firstReachable).1 0 _ _ _ rfl (by decide)).1
  · exact ((conflict_halts_writing refusalReachable).2.1 rfl).2.1
  · exact ((conflict_halts_writing refusalReachable).2.2 1 .overwrite rfl).2

end Machine
end Autosave
end TwinEditor
