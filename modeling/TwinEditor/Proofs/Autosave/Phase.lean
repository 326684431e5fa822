import TwinEditor.Proofs.Autosave.Buffer
import TwinEditor.Proofs.Autosave.Chronicle

/-!
# What the phase says

The phase of a pipeline repeats what is known from its other parts: whether a write is in flight,
whether the debounce timer is armed, and whether a content is buffered. Every step sets the phase
by hand and keeps the agreement; adopting a document keeps it only during a conflict. A resolution
that waits alone gets its document during the conflict that it is to end, so the agreement can fail
only when two resolutions wait at once.
-/

namespace TwinEditor
namespace Autosave

open Store

namespace Pipeline

/-- The phase of a pipeline agrees with its other parts. -/
inductive Coherent (pipeline : Pipeline) : Prop
  | idle
      (phase : pipeline.phase = .idle)
      (landed : pipeline.inFlight = false)
      (unarmed : pipeline.debounce = none)
  | pendingDebounce
      (phase : pipeline.phase = .pendingDebounce)
      (landed : pipeline.inFlight = false)
      (armed : pipeline.debounce.isSome = true)
  | saving
      (phase : pipeline.phase = .saving)
      (inFlight : pipeline.inFlight = true)
      (buffered : pipeline.pending.isSome = true)
  | conflict
      (phase : pipeline.phase = .conflict)
      (landed : pipeline.inFlight = false)
      (unarmed : pipeline.debounce = none)
      (buffered : pipeline.pending.isSome = true)

namespace Coherent

variable {pipeline next : Pipeline}

theorem ofDocument (document : Document) : (ofDocument document).Coherent :=
  .idle rfl rfl rfl

/-- A pipeline that comes to rest without a write in flight is coherent. -/
theorem settle
    (landed : pipeline.inFlight = false) :
    pipeline.settle.Coherent := by
  cases armed : pipeline.debounce.isSome with
  | true => exact .pendingDebounce (if_pos armed) landed armed
  | false =>
      exact .idle (if_neg (Bool.eq_false_iff.mp armed)) landed (Option.not_isSome_iff_eq_none.mp
        (Bool.eq_false_iff.mp armed))

/-- A pipeline that loses its debounce timer leaves the phase that waits for it. -/
theorem quieted
    (coherent : pipeline.Coherent)
    (quieted : pipeline.Quieted next) :
    next.Coherent := by
  have inFlight_eq := quieted.inFlight_eq
  have pending_eq := quieted.pending_eq
  rcases quieted.debounce_phase with ⟨debounce_eq, phase_eq⟩ | ⟨unarmed, left⟩
  · cases coherent with
    | idle phase landed unarmed =>
        exact .idle (phase_eq.trans phase) (inFlight_eq.trans landed) (debounce_eq.trans unarmed)
    | pendingDebounce phase landed armed =>
        exact .pendingDebounce (phase_eq.trans phase) (inFlight_eq.trans landed)
          (debounce_eq ▸ armed)
    | saving phase inFlight buffered =>
        exact .saving (phase_eq.trans phase) (inFlight_eq.trans inFlight) (pending_eq ▸ buffered)
    | conflict phase landed unarmed buffered =>
        exact .conflict (phase_eq.trans phase) (inFlight_eq.trans landed)
          (debounce_eq.trans unarmed) (pending_eq ▸ buffered)
  · cases coherent with
    | idle phase landed =>
        exact .idle (by rw [left, leaveDebounce, phase]; rfl) (inFlight_eq.trans landed) unarmed
    | pendingDebounce phase landed =>
        exact .idle (by rw [left, leaveDebounce, phase]; rfl) (inFlight_eq.trans landed) unarmed
    | saving phase inFlight buffered =>
        exact .saving (by rw [left, leaveDebounce, phase]; rfl) (inFlight_eq.trans inFlight)
          (pending_eq ▸ buffered)
    | conflict phase landed _ buffered =>
        exact .conflict (by rw [left, leaveDebounce, phase]; rfl) (inFlight_eq.trans landed)
          unarmed (pending_eq ▸ buffered)

theorem buffer
    (coherent : pipeline.Coherent)
    (content : String)
    (due : Nat) :
    (pipeline.buffer content due).Coherent := by
  cases coherent with
  | idle phase landed unarmed =>
      rw [Pipeline.buffer, if_neg (by simp [phase])]
      exact .pendingDebounce (if_neg (Bool.eq_false_iff.mp landed)) landed rfl
  | pendingDebounce phase landed armed =>
      rw [Pipeline.buffer, if_neg (by simp [phase])]
      exact .pendingDebounce (if_neg (Bool.eq_false_iff.mp landed)) landed rfl
  | saving phase inFlight buffered =>
      rw [Pipeline.buffer, if_neg (by simp [phase])]
      exact .saving ((if_pos inFlight).trans phase) inFlight rfl
  | conflict phase landed unarmed buffered =>
      rw [buffer_of_conflict phase]
      exact .conflict phase landed unarmed rfl

/-- A write begins with a content that is buffered. -/
theorem launch
    {write : Write}
    (found : pipeline.nextWrite? = some write) :
    pipeline.launch.Coherent :=
  .saving rfl rfl (by rw [launch_pending, (nextWrite?_eq_some found).2.2.1]; rfl)

/-- A write is answered while a content is buffered, which is needed when it is refused. -/
theorem land
    (coherent : pipeline.Coherent)
    (inFlight : pipeline.inFlight = true)
    (content : String)
    (reply : UpdateReply) :
    (pipeline.land content reply).Coherent := by
  cases reply with
  | saved version => exact settle rfl
  | failed failure => exact settle rfl
  | conflict =>
      cases coherent with
      | saving phase inFlight buffered => exact .conflict rfl rfl rfl buffered
      | idle phase landed => cases inFlight.symm.trans landed
      | pendingDebounce phase landed => cases inFlight.symm.trans landed
      | conflict phase landed => cases inFlight.symm.trans landed

theorem abandon
    (coherent : pipeline.Coherent) :
    pipeline.abandon.Coherent := by
  unfold Pipeline.abandon
  dsimp only
  split
  case isTrue => exact settle rfl
  case isFalse resting =>
    cases coherent with
    | idle phase landed unarmed => exact .idle phase rfl unarmed
    | pendingDebounce phase landed armed => exact .pendingDebounce phase rfl armed
    | saving phase => exact absurd phase resting
    | conflict phase landed unarmed buffered => exact .conflict phase rfl unarmed buffered

/-- During a conflict a content is buffered and everything else stands still. -/
theorem halted
    (coherent : pipeline.Coherent)
    (phase : pipeline.phase = .conflict) :
    pipeline.pending.isSome = true ∧ pipeline.debounce = none ∧ pipeline.inFlight = false := by
  cases coherent with
  | conflict _ landed unarmed buffered => exact ⟨buffered, unarmed, landed⟩
  | idle other => cases phase.symm.trans other
  | pendingDebounce other => cases phase.symm.trans other
  | saving other => cases phase.symm.trans other

/-- A document that is adopted during a conflict leaves nothing behind. -/
theorem adopt
    (coherent : pipeline.Coherent)
    (phase : pipeline.phase = .conflict)
    (resolution : Resolution)
    (latest : Document) :
    (pipeline.adopt resolution latest).Coherent := by
  obtain ⟨_, unarmed, landed⟩ := coherent.halted phase
  exact .idle rfl landed unarmed

/-! ## Reading the phase -/

theorem saving_iff
    (coherent : pipeline.Coherent) :
    pipeline.phase = .saving ↔ pipeline.inFlight = true := by
  cases coherent with
  | saving phase inFlight => simp [phase, inFlight]
  | idle phase landed => simp [phase, landed]
  | pendingDebounce phase landed => simp [phase, landed]
  | conflict phase landed => simp [phase, landed]

theorem pendingDebounce_iff
    (coherent : pipeline.Coherent) :
    pipeline.phase = .pendingDebounce ↔ pipeline.inFlight = false ∧
      pipeline.phase ≠ .conflict ∧ pipeline.debounce.isSome = true := by
  cases coherent with
  | pendingDebounce phase landed armed => simp [phase, landed, armed]
  | idle phase landed unarmed => simp [phase, unarmed]
  | saving phase inFlight => simp [phase, inFlight]
  | conflict phase => simp [phase]

theorem idle_iff
    (coherent : pipeline.Coherent) :
    pipeline.phase = .idle ↔ pipeline.inFlight = false ∧
      pipeline.phase ≠ .conflict ∧ pipeline.debounce = none := by
  cases coherent with
  | idle phase landed unarmed => simp [phase, landed, unarmed]
  | pendingDebounce phase landed armed => simp [phase, Option.isSome_iff_ne_none.mp armed]
  | saving phase inFlight => simp [phase, inFlight]
  | conflict phase => simp [phase]

end Coherent
end Pipeline

namespace Machine

variable {machine next : Machine} {move : Move} {effects : List Effect}

/-- A machine that is not needed any more stays so. -/
theorem isNeeded_of_move?
    (retired : machine.retire = machine)
    (possible : machine.move? move = some (next, effects))
    (needed : next.isNeeded = true) :
    machine.isNeeded = true := by
  apply Decidable.byContradiction
  intro otherwise
  have needless := Bool.eq_false_iff.mpr otherwise
  have unarmed : machine.pipeline.debounce = none := by
    rw [← retired, retire_of_not_isNeeded needless]
  have untimed : machine.pipeline.interval = none := by
    rw [← retired, retire_of_not_isNeeded needless]
  obtain ⟨released, none⟩ : machine.isHeld = false ∧ machine.tasks = [] := by
    simpa [isNeeded] using needless
  cases move with
  | request request => simp [move?, released] at possible
  | occurrence occurrence =>
      cases occurrence with
      | pass milliseconds =>
          obtain ⟨rfl, _⟩ := Prod.mk.inj (Option.some.inj possible)
          rw [retire_isNeeded] at needed
          exact otherwise needed
      | debounce =>
          obtain ⟨_, occurred, _⟩ := exists_occurNeeded?_of_occur? possible
          obtain ⟨_, armed, _⟩ := occurNeeded?_debounce_eq_some_iff.mp occurred
          cases unarmed.symm.trans armed
      | tick =>
          obtain ⟨_, occurred, _⟩ := exists_occurNeeded?_of_occur? possible
          obtain ⟨_, timed, _⟩ := occurNeeded?_tick_eq_some_iff.mp occurred
          cases untimed.symm.trans timed
      | updateReply number reply => simp [move?, occur?, occurNeeded?, task?, none] at possible
      | fetchReply number reply => simp [move?, occur?, occurNeeded?, task?, none] at possible
      | cancel number => simp [move?, occur?, occurNeeded?, task?, none] at possible

/-- Every change keeps the phase in agreement, if resolutions wait only during a conflict. -/
theorem Change.coherent
    (change : Change machine move next effects)
    (sound : machine.Sound)
    (coherent : machine.pipeline.Coherent)
    (halted : ∀ number resolution, (number, .fetching resolution) ∈ machine.tasks →
      machine.pipeline.phase = .conflict) :
    next.pipeline.Coherent := by
  cases change with
  | quiet light pipeline tasks nextNumber idle => exact coherent.quieted pipeline
  | save content due pipeline tasks nextNumber => exact pipeline ▸ coherent.buffer content due
  | launch purpose ready write light quieted found pipeline tasks nextNumber =>
      exact pipeline ▸ .launch found
  | fetch resolution phase pipeline tasks nextNumber => exact pipeline ▸ coherent
  | land number purpose write reply running stopped pipeline tasks nextNumber =>
      exact pipeline ▸ coherent.land (sound.inFlight_of_writing running) write.content reply
  | refuse number resolution failure waiting pipeline tasks nextNumber =>
      exact pipeline ▸ coherent
  | adopt number resolution latest waiting lost pipeline tasks nextNumber =>
      exact pipeline ▸ coherent.adopt (halted _ _ (mem_of_task? waiting)) resolution latest
  | resubmit number resolution latest write waiting found pipeline tasks nextNumber =>
      exact pipeline ▸ .launch found
  | forgo number resolution waiting pipeline tasks nextNumber => exact pipeline ▸ coherent
  | abandon number purpose write running pipeline tasks nextNumber =>
      exact pipeline ▸ coherent.abandon

end Machine

namespace Chronicle

variable {chronicle next : Chronicle} {move : Move} {machine : Machine} {effects : List Effect}

/-- A resolution that waits alone leaves none behind. -/
theorem Faithful.not_mem_dropTask_of_alone
    (faithful : chronicle.Faithful)
    (alone : chronicle.record.waiting.length ≤ 1)
    {number other : Nat}
    {resolution otherResolution : Resolution}
    (waiting : chronicle.machine.task? number = some (.fetching resolution)) :
    (other, .fetching otherResolution) ∉ (chronicle.machine.dropTask number).tasks := by
  intro kept
  have one := (faithful.waiting_iff _ _).mpr (Machine.mem_of_task? waiting)
  have two := (faithful.waiting_iff _ _).mpr (List.mem_filter.mp kept).1
  have same : (other, otherResolution) = (number, resolution) := by
    generalize chronicle.record.waiting = entries at alone one two
    match entries with
    | [] => cases one
    | [entry] => rw [List.mem_singleton.mp one, List.mem_singleton.mp two]
    | _ :: _ :: _ => simp at alone
  obtain ⟨rfl, rfl⟩ := Prod.mk.inj same
  exact Machine.not_mem_dropTask _ _ _ kept

/-- The phase of a machine tells what the machine does, as long as the machine is needed, and
resolutions wait during a conflict only. -/
structure Composed (chronicle : Chronicle) : Prop where
  faithful : chronicle.Faithful
  retired : chronicle.machine.retire = chronicle.machine
  coherent : chronicle.machine.isNeeded = true → chronicle.machine.pipeline.Coherent
  halted : ∀ number resolution, (number, .fetching resolution) ∈ chronicle.machine.tasks →
    chronicle.machine.pipeline.phase = .conflict

theorem composed_start (config : Config) (document : Document) :
    (start config document).Composed where
  faithful := faithful_start config document
  retired := rfl
  coherent _ := .ofDocument document
  halted := nofun

namespace Composed

/-- Unless two resolutions wait at once, resolutions wait during a conflict only. -/
theorem halted_of_change
    (composed : chronicle.Composed)
    (alone : chronicle.record.waiting.length ≤ 1)
    (change : chronicle.machine.Change move machine effects)
    {number : Nat}
    {resolution : Resolution}
    (member : (number, .fetching resolution) ∈ machine.tasks) :
    machine.pipeline.phase = .conflict := by
  have books := composed.faithful.books
  have halted := composed.halted
  cases change with
  | quiet light pipeline tasks nextNumber idle =>
      rw [pipeline.phase_eq_conflict_iff]
      rcases tasks with same | stopped
      · exact halted number resolution (same ▸ member)
      · exact halted number resolution (Machine.mem_stoppedTasks_fetching.mp (stopped ▸ member))
  | save content due pipeline tasks nextNumber =>
      rw [pipeline, Pipeline.buffer_phase_eq_conflict_iff]
      exact halted number resolution (tasks ▸ member)
  | launch purpose ready write light quieted found pipeline tasks nextNumber =>
      rcases List.mem_cons.mp (tasks ▸ member) with new | older
      · cases new
      · have phase := quieted.phase_eq_conflict_iff.mpr (halted number resolution older)
        exact absurd phase (Pipeline.nextWrite?_eq_some found).1
  | fetch other phase pipeline tasks nextNumber => rw [pipeline, phase]
  | land other purpose write reply running stopped pipeline tasks nextNumber =>
      have phase := halted number resolution (List.mem_filter.mp (tasks ▸ member)).1
      exact absurd phase (books.phase_ne_conflict_of_writing running)
  | refuse other otherResolution failure waiting pipeline tasks nextNumber =>
      rw [pipeline]
      exact halted number resolution (List.mem_filter.mp (tasks ▸ member)).1
  | adopt other otherResolution latest waiting lost pipeline tasks nextNumber =>
      exact absurd (tasks ▸ member) (composed.faithful.not_mem_dropTask_of_alone alone waiting)
  | resubmit other otherResolution latest write waiting found pipeline tasks nextNumber =>
      rcases List.mem_cons.mp (tasks ▸ member) with new | older
      · cases new
      · exact absurd older (composed.faithful.not_mem_dropTask_of_alone alone waiting)
  | forgo other otherResolution waiting pipeline tasks nextNumber =>
      rw [pipeline]
      exact halted number resolution (List.mem_filter.mp (tasks ▸ member)).1
  | abandon other purpose write running pipeline tasks nextNumber =>
      rw [pipeline, Pipeline.abandon_phase_eq_conflict_iff]
      exact halted number resolution (List.mem_filter.mp (tasks ▸ member)).1

/-- Unless two resolutions wait at once, every possible move keeps the phase in agreement. -/
theorem kept
    (composed : chronicle.Composed)
    (alone : chronicle.record.waiting.length ≤ 1)
    (possible : chronicle.move? move = some next) :
    next.Composed := by
  have faithful := composed.faithful.kept possible
  obtain ⟨⟨after, effects⟩, moved, rfl⟩ := Option.map_eq_some_iff.mp possible
  obtain ⟨machine, change, rfl⟩ := Machine.change_of_move? moved
  refine ⟨faithful, Machine.retire_retire machine, fun needed => ?_, fun number resolution member => ?_⟩
  · have before := Machine.isNeeded_of_move? composed.retired moved needed
    have coherent := change.coherent composed.faithful.books (composed.coherent before)
      composed.halted
    rw [Machine.retire_isNeeded] at needed
    rwa [Machine.retire_of_isNeeded needed]
  · rw [Machine.retire_tasks] at member
    rw [Machine.retire_phase]
    exact composed.halted_of_change alone change member

theorem follow
    (composed : chronicle.Composed)
    (moves : List Move)
    (alone : ∀ count, (chronicle.follow (moves.take count)).record.waiting.length ≤ 1) :
    (chronicle.follow moves).Composed :=
  takeTurns_induction_of_allowed (fun alone composed possible => kept composed alone possible)
    moves alone composed

end Composed

/-- As long as no two resolutions wait for their documents at once, the phase of a machine that is
needed agrees with everything else. A write is outstanding exactly while the phase says so, the
debounce timer waits exactly while the phase says so, and during a conflict a content is buffered
and nothing else goes on. -/
theorem phase_agrees
    (config : Config)
    (document : Document)
    (moves : List Move)
    (alone : ∀ count,
      ((start config document).follow (moves.take count)).record.waiting.length ≤ 1)
    (needed : ((start config document).follow moves).machine.isNeeded = true) :
    (((start config document).follow moves).machine.pipeline.phase = .saving ↔
      ((start config document).follow moves).record.outstanding ≠ []) ∧
    (((start config document).follow moves).machine.pipeline.phase = .pendingDebounce ↔
      ((start config document).follow moves).record.outstanding = [] ∧
      ((start config document).follow moves).record.isConflicted = false ∧
      ((start config document).follow moves).machine.pipeline.debounce.isSome = true) ∧
    (((start config document).follow moves).machine.pipeline.phase = .conflict ↔
      ((start config document).follow moves).record.isConflicted = true) ∧
    (((start config document).follow moves).machine.pipeline.phase = .conflict →
      ((start config document).follow moves).machine.pipeline.pending.isSome = true ∧
      ((start config document).follow moves).machine.pipeline.debounce = none ∧
      ((start config document).follow moves).record.outstanding = []) ∧
    (((start config document).follow moves).machine.pipeline.phase = .idle ↔
      ((start config document).follow moves).record.outstanding = [] ∧
      ((start config document).follow moves).record.isConflicted = false ∧
      ((start config document).follow moves).machine.pipeline.debounce = none) := by
  have composed := (composed_start config document).follow moves alone
  have coherent := composed.coherent needed
  have landed_iff := composed.faithful.landed_iff
  have calm_iff : ((start config document).follow moves).record.isConflicted = false ↔
      ((start config document).follow moves).machine.pipeline.phase ≠ .conflict := by
    rw [← Bool.not_eq_true, composed.faithful.conflict_iff]
  refine ⟨?_, ?_, composed.faithful.conflict_iff.symm, ?_, ?_⟩
  · rw [coherent.saving_iff, composed.faithful.inFlight_iff]
  · rw [coherent.pendingDebounce_iff, landed_iff, calm_iff]
  · intro phase
    obtain ⟨buffered, unarmed, landed⟩ := coherent.halted phase
    exact ⟨buffered, unarmed, landed_iff.mp landed⟩
  · rw [coherent.idle_iff, landed_iff, calm_iff]

/-- The course of a machine whose write is refused, and whose resolution writes over the document of
the store while another content is saved. -/
def recovering : List Move :=
  [.request (.save "mine"), .request .flush, .occurrence (.updateReply 0 .conflict),
    .request (.resolve .overwrite), .occurrence (.fetchReply 1 (.ok ⟨.nil, .nil, "theirs", 5⟩)),
    .request (.save "next"), .occurrence (.updateReply 1 (.saved 6))]

/-- The resolution waits alone. During it the content is buffered, and at the end the debounce timer
waits with the other content. -/
theorem phase_agrees_of_recovery :
    (∃ chronicle,
      chronicle = (start .standard ⟨.nil, .nil, "base", 1⟩).follow (recovering.take 4) ∧
      chronicle.machine.pipeline.phase = .conflict ∧
      chronicle.machine.pipeline.pending.isSome = true ∧
      chronicle.machine.pipeline.debounce = none ∧ chronicle.record.outstanding = []) ∧
    (∃ chronicle, chronicle = (start .standard ⟨.nil, .nil, "base", 1⟩).follow recovering ∧
      chronicle.machine.pipeline.phase = .pendingDebounce ∧ chronicle.record.outstanding = [] ∧
      chronicle.record.isConflicted = false ∧
      chronicle.machine.pipeline.debounce.isSome = true) := by
  have alone (count : Nat) : ((start .standard ⟨.nil, .nil, "base", 1⟩).follow
      (recovering.take count)).record.waiting.length ≤ 1 := by
    have early : ∀ count < 8, ((start .standard ⟨.nil, .nil, "base", 1⟩).follow
        (recovering.take count)).record.waiting.length ≤ 1 := by decide
    rcases Nat.lt_or_ge count 8 with inside | beyond
    · exact early count inside
    · rw [List.take_of_length_le (Nat.le_trans (by decide) beyond)]
      exact early 7 (by decide)
  constructor
  · obtain ⟨_, _, _, halted, _⟩ := phase_agrees .standard ⟨.nil, .nil, "base", 1⟩
      (recovering.take 4) (fun count => by rw [List.take_take]; exact alone _) rfl
    exact ⟨_, rfl, rfl, halted rfl⟩
  · obtain ⟨_, waits, _⟩ := phase_agrees .standard ⟨.nil, .nil, "base", 1⟩ recovering alone rfl
    exact ⟨_, rfl, rfl, waits.mp rfl⟩

/-- When two resolutions wait at once, the second document makes the phase forget the write over the
first. -/
example :
    ∃ chronicle, chronicle = (start .standard ⟨.nil, .nil, "base", 1⟩).follow
        [.request (.save "mine"), .request .flush, .occurrence (.updateReply 0 .conflict),
          .request (.resolve .overwrite), .request (.resolve .overwrite),
          .occurrence (.fetchReply 1 (.ok ⟨.nil, .nil, "theirs", 5⟩)),
          .occurrence (.fetchReply 2 (.ok ⟨.nil, .nil, "theirs", 5⟩))] ∧
      chronicle.machine.pipeline.phase = .idle ∧ chronicle.record.outstanding.length = 1 :=
  ⟨_, rfl, rfl, rfl⟩

end Chronicle
end Autosave
end TwinEditor
