import TwinEditor.Proofs.Autosave.Calls
import TwinEditor.Proofs.Turns

/-!
# Chronicles

A chronicle is a machine with a record of its course: the contents that were saved, the writes
that were called for and what became of each, and the resolutions that wait for a document. The
record is kept from outside. It is made of what is asked of the machine, of what happens to it
and of the calls that it makes, and never looks at what the machine holds.

The main statement says that the machine and its record agree at the end of every course: the
write that is in flight is the one that was called for last and has no fate yet, the resolutions
that wait are the same, and the machine is in conflict exactly while a refusal is unresolved.
-/

namespace TwinEditor
namespace Autosave

open Store

/-- What has become of a write that was called for. -/
inductive Fate
  | outstanding
  | accepted
  /-- The store refused its version. -/
  | refused
  | failed
  /-- It was given up before it was answered. -/
  | abandoned
  deriving Repr, DecidableEq

/-- What an answer makes of a write. -/
def Fate.ofReply : UpdateReply → Fate
  | .saved _ => .accepted
  | .conflict => .refused
  | .failed _ => .failed

theorem Fate.ofReply_ne_outstanding (reply : UpdateReply) : ofReply reply ≠ .outstanding := by
  cases reply <;> nofun

/-- A write that was called for. -/
structure Update where
  /-- The number of the call. -/
  number : Nat
  write : Write
  /-- The place, among all the contents that were saved, of the last one before the call. -/
  source : Nat
  fate : Fate
  deriving Repr, DecidableEq

/-- Decide the fate of a write with a number, if it is open. -/
def Update.settle (number : Nat) (fate : Fate) (update : Update) : Update :=
  if update.number = number ∧ update.fate = .outstanding then { update with fate } else update

/-- The write that an effect begins, after a content was saved at a place. -/
def Effect.begun? (source : Nat) : Effect → Option Update
  | .updateCalled number write => some ⟨number, write, source, .outstanding⟩
  | _ => none

/-- What was asked of a machine, and what became of its calls. -/
structure Record where
  /-- The contents that were saved, in order. -/
  saved : List String
  /-- The writes that were called for, the latest first. -/
  updates : List Update
  /-- The resolutions that wait for their document, with their numbers. -/
  waiting : List (Nat × Resolution)
  /-- The contents of the writes that were accepted, the latest first. -/
  accepted : List String
  /-- Whether a document was loaded after the last content was saved. -/
  isReloaded : Bool
  /-- Whether a write was refused and no document has come since. -/
  isConflicted : Bool
  deriving Repr, DecidableEq

namespace Record

/-- The record of a machine that has just been made. -/
def empty : Record :=
  ⟨[], [], [], [], false, false⟩

/-- The writes that have no answer yet and were not given up. -/
def outstanding (record : Record) : List Update :=
  record.updates.filter (·.fate == .outstanding)

/-- Record the fate of the write with a number. -/
def settle (record : Record) (number : Nat) (fate : Fate) : Record :=
  { record with updates := record.updates.map (.settle number fate) }

/-- Record that the resolution with a number waits no more. -/
def leave (record : Record) (number : Nat) : Record :=
  { record with waiting := record.waiting.filter (·.1 != number) }

/-- Record the answer to the write with a number. -/
def answer (record : Record) (number : Nat) (reply : UpdateReply) : Record :=
  let settled := record.settle number (.ofReply reply)
  match reply with
  | .saved _ =>
      let ended := record.outstanding.filter (·.number == number)
      { settled with accepted := ended.map (·.write.content) ++ record.accepted }
  | .conflict => { settled with isConflicted := true }
  | .failed _ => settled

/-- Record that the resolution with a number has got its document. -/
def resolve (record : Record) (number : Nat) : Record :=
  { record.leave number with
    isReloaded := record.isReloaded || record.waiting.contains (number, .reload)
    isConflicted := false }

/-- Record what a move says by itself. -/
def receive (record : Record) : Move → Record
  | .request (.save content) =>
      { record with saved := record.saved ++ [content], isReloaded := false }
  | .occurrence (.updateReply number reply) => record.answer number reply
  | .occurrence (.fetchReply number (.ok _)) => record.resolve number
  | .occurrence (.fetchReply number (.error _)) => record.leave number
  | .occurrence (.cancel number) => (record.settle number .abandoned).leave number
  | _ => record

/-- Record a call that a move makes. -/
def call (move : Move) (record : Record) : Effect → Record
  | .updateCalled number write =>
      { record with
        updates := ⟨number, write, record.saved.length - 1, .outstanding⟩ :: record.updates }
  | .fetchCalled number _ =>
      match move with
      | .request (.resolve resolution) =>
          { record with waiting := (number, resolution) :: record.waiting }
      | _ => record
  | _ => record

/-- Record a move and what the machine does at it. -/
def note (record : Record) (move : Move) (effects : List Effect) : Record :=
  effects.foldl (call move) (record.receive move)

variable {record : Record} {move : Move}

theorem receive_of_light
    (record : Record)
    (light : move.isWeighty = false) :
    record.receive move = record := by
  cases move with
  | request request => cases request <;> first | rfl | cases light
  | occurrence occurrence => cases occurrence <;> first | rfl | cases light

/-- A write that begins with a move that says nothing by itself is all that is recorded. -/
theorem note_of_launch
    (record : Record)
    (light : move.isWeighty = false)
    (number : Nat)
    (write : Write) :
    record.note move [.updateCalled number write] =
      { record with
        updates := ⟨number, write, record.saved.length - 1, .outstanding⟩ :: record.updates } := by
  rw [note, receive_of_light record light]
  rfl

/-- Nothing is recorded when nothing is begun. -/
theorem note_of_idle
    (record : Record)
    (light : move.isWeighty = false)
    {effects : List Effect}
    {number : Nat}
    (idle : ∀ effect ∈ effects, effect.isIdle number = true) :
    record.note move effects = record := by
  rw [note, receive_of_light record light]
  induction effects with
  | nil => rfl
  | cons effect effects inductionHypothesis =>
      have same : record.call move effect = record := by
        have idleFirst := idle effect List.mem_cons_self
        cases effect <;> first | rfl | cases idleFirst
      rw [List.foldl_cons, same]
      exact inductionHypothesis fun other member => idle other (List.mem_cons_of_mem _ member)

/-- The answer to a write is recorded, whoever it was begun for. -/
theorem note_of_answer
    (record : Record)
    (number : Nat)
    (reply : UpdateReply)
    (purpose : Purpose) :
    record.note (.occurrence (.updateReply number reply))
        (.announced (.ofReply reply) ::
          Machine.answers purpose number (Event.ofReply reply).attempt) =
      record.answer number reply := by
  cases purpose <;> rfl

/-- The document of a resolution is recorded, and then the write over it. -/
theorem note_of_resubmit
    (record : Record)
    (number : Nat)
    (latest : Document)
    (write : Write) :
    record.note (.occurrence (.fetchReply number (.ok latest))) [.updateCalled number write] =
      { record.resolve number with
        updates := ⟨number, write, record.saved.length - 1, .outstanding⟩ :: record.updates } := rfl

/-- A call has no part in what was saved. -/
theorem call_saved
    (record : Record)
    (move : Move)
    (effect : Effect) :
    (record.call move effect).saved = record.saved := by
  cases effect with
  | fetchCalled number project =>
      dsimp only [call]
      split <;> rfl
  | updateCalled | announced | attempted | resolved => rfl

theorem call_updates
    (record : Record)
    (move : Move)
    (effect : Effect) :
    (record.call move effect).updates =
      (effect.begun? (record.saved.length - 1)).toList ++ record.updates := by
  cases effect with
  | fetchCalled number project =>
      dsimp only [call]
      split <;> rfl
  | updateCalled | announced | attempted | resolved => rfl

/-- Only what a move says by itself is recorded as saved. -/
theorem note_saved
    (record : Record)
    (move : Move)
    (effects : List Effect) :
    (record.note move effects).saved = (record.receive move).saved := by
  rw [note]
  generalize record.receive move = record
  induction effects generalizing record with
  | nil => rfl
  | cons effect effects inductionHypothesis =>
      rw [List.foldl_cons, inductionHypothesis, call_saved]

/-- The writes that a move begins are recorded, and no others. -/
theorem note_updates
    (record : Record)
    (move : Move)
    (effects : List Effect) :
    (record.note move effects).updates =
      (effects.filterMap (Effect.begun? ((record.receive move).saved.length - 1))).reverse ++
        (record.receive move).updates := by
  rw [note]
  generalize record.receive move = record
  induction effects generalizing record with
  | nil => rfl
  | cons effect effects inductionHypothesis =>
      rw [List.foldl_cons, inductionHypothesis, call_saved, call_updates]
      cases begun : effect.begun? (record.saved.length - 1) with
      | none => simp [begun]
      | some update => simp [begun]

@[simp] theorem answer_waiting (number : Nat) (reply : UpdateReply) :
    (record.answer number reply).waiting = record.waiting := by
  cases reply <;> rfl

@[simp] theorem answer_updates (number : Nat) (reply : UpdateReply) :
    (record.answer number reply).updates = (record.settle number (.ofReply reply)).updates := by
  cases reply <;> rfl

@[simp] theorem answer_saved (number : Nat) (reply : UpdateReply) :
    (record.answer number reply).saved = record.saved := by
  cases reply <;> rfl

end Record

/-- Every one of some writes has its fate. -/
def Settled (updates : List Update) : Prop :=
  ∀ update ∈ updates, update.fate ≠ .outstanding

namespace Settled

variable {updates : List Update}

/-- A fate that is decided stays. -/
theorem map_settle
    (settled : Settled updates)
    (number : Nat)
    (fate : Fate) :
    updates.map (.settle number fate) = updates := by
  rw [List.map_congr_left (g := id), List.map_id]
  intro update member
  rw [Update.settle, if_neg fun open_ => settled update member open_.2, id]

theorem cons
    (settled : Settled updates)
    {update : Update}
    (decided : update.fate ≠ .outstanding) :
    Settled (update :: updates) := by
  intro other member
  rcases List.mem_cons.mp member with rfl | older
  · exact decided
  · exact settled other older

end Settled

/-- A machine with the record of its course. -/
structure Chronicle where
  machine : Machine
  record : Record

namespace Chronicle

/-- A machine whose document has just been fetched. -/
def start (config : Config) (document : Document) : Chronicle :=
  ⟨.ofDocument config document, .empty⟩

/-- What a move does, if it is possible now. -/
def move? (chronicle : Chronicle) (move : Move) : Option Chronicle :=
  (chronicle.machine.move? move).map fun (machine, effects) =>
    ⟨machine, chronicle.record.note move effects⟩

/-- Make moves one after another. -/
def follow (chronicle : Chronicle) (moves : List Move) : Chronicle :=
  takeTurns move? chronicle moves

variable {chronicle next : Chronicle} {move : Move}

theorem follow_cons_of_some
    {machine : Machine}
    {effects : List Effect}
    (possible : chronicle.machine.move? move = some (machine, effects))
    (moves : List Move) :
    chronicle.follow (move :: moves) =
      follow ⟨machine, chronicle.record.note move effects⟩ moves := by
  apply takeTurns_cons_of_some
  rw [move?, possible]
  rfl

theorem follow_cons_of_none
    (impossible : chronicle.machine.move? move = none)
    (moves : List Move) :
    chronicle.follow (move :: moves) = chronicle.follow moves := by
  apply takeTurns_cons_of_none
  rw [move?, impossible]
  rfl

/-- A possible move is a change of the machine, which is recorded. -/
theorem exists_change_of_move?
    (possible : chronicle.move? move = some next) :
    ∃ machine effects, chronicle.machine.Change move machine effects ∧
      next = ⟨machine.retire, chronicle.record.note move effects⟩ := by
  obtain ⟨⟨after, effects⟩, moved, rfl⟩ := Option.map_eq_some_iff.mp possible
  obtain ⟨machine, change, rfl⟩ := Machine.change_of_move? moved
  exact ⟨machine, effects, change, rfl⟩

/-- The machine and its record agree. -/
structure Faithful (chronicle : Chronicle) : Prop where
  books : chronicle.machine.Sound
  waiting_iff : ∀ number resolution, (number, resolution) ∈ chronicle.record.waiting ↔
    (number, .fetching resolution) ∈ chronicle.machine.tasks
  settled : chronicle.machine.pipeline.inFlight = false → Settled chronicle.record.updates
  running : ∀ number purpose write,
    (number, .writing purpose write) ∈ chronicle.machine.tasks →
      ∃ source earlier, Settled earlier ∧
        chronicle.record.updates = ⟨number, write, source, .outstanding⟩ :: earlier
  conflict_iff : chronicle.record.isConflicted = true ↔
    chronicle.machine.pipeline.phase = .conflict

theorem faithful_start (config : Config) (document : Document) :
    (start config document).Faithful where
  books := .ofDocument config document
  waiting_iff _ _ := ⟨nofun, nofun⟩
  settled _ := nofun
  running := nofun
  conflict_iff := ⟨nofun, nofun⟩

namespace Faithful

variable {machine : Machine} {effects : List Effect}

/-- Retiring a machine is nothing that is recorded. -/
theorem retire
    {record : Record}
    (faithful : Faithful ⟨machine, record⟩) :
    Faithful ⟨machine.retire, record⟩ where
  books := faithful.books.retire
  waiting_iff := by simpa using faithful.waiting_iff
  settled := by simpa using faithful.settled
  running := by simpa using faithful.running
  conflict_iff := by simpa using faithful.conflict_iff

/-- The write that is in flight is recorded last, and it is the only one that has no fate. -/
theorem updates_settle
    (faithful : chronicle.Faithful)
    {number : Nat}
    {purpose : Purpose}
    {write : Write}
    (running : chronicle.machine.task? number = some (.writing purpose write))
    (fate : Fate) :
    ∃ source earlier, Settled earlier ∧
      chronicle.record.updates = ⟨number, write, source, .outstanding⟩ :: earlier ∧
      (chronicle.record.settle number fate).updates =
        ⟨number, write, source, fate⟩ :: earlier := by
  obtain ⟨source, earlier, settled, updates⟩ :=
    faithful.running number purpose write (Machine.mem_of_task? running)
  refine ⟨source, earlier, settled, updates, ?_⟩
  rw [Record.settle, updates, List.map_cons, settled.map_settle]
  simp [Update.settle]

/-- A call that is no write leaves the fates of all writes as they are. -/
theorem updates_settle_of_fetching
    (faithful : chronicle.Faithful)
    {number : Nat}
    {resolution : Resolution}
    (waiting : chronicle.machine.task? number = some (.fetching resolution))
    (fate : Fate) :
    (chronicle.record.settle number fate).updates = chronicle.record.updates := by
  cases inFlight : chronicle.machine.pipeline.inFlight with
  | false => exact (faithful.settled inFlight).map_settle number fate
  | true =>
      obtain ⟨other, purpose, write, member⟩ := faithful.books.exists_writing inFlight
      obtain ⟨source, earlier, settled, updates⟩ := faithful.running other purpose write member
      have differ : other ≠ number := by
        rintro rfl
        cases faithful.books.numbered.eq_of_mem member (Machine.mem_of_task? waiting)
      rw [Record.settle, updates, List.map_cons, settled.map_settle]
      simp [Update.settle, differ]

/-- Every change keeps the resolutions that wait on record. -/
theorem waiting_of_change
    (faithful : chronicle.Faithful)
    (change : chronicle.machine.Change move machine effects)
    (number : Nat)
    (resolution : Resolution) :
    (number, resolution) ∈ (chronicle.record.note move effects).waiting ↔
      (number, .fetching resolution) ∈ machine.tasks := by
  have before := faithful.waiting_iff number resolution
  -- What leaves the record is what is dropped from the calls.
  have dropped (other : Nat) :
      (number, resolution) ∈ (chronicle.record.leave other).waiting ↔
        (number, .fetching resolution) ∈ (chronicle.machine.dropTask other).tasks := by
    simp [Record.leave, Machine.dropTask, before]
  cases change with
  | quiet light pipeline tasks nextNumber idle =>
      rw [Record.note_of_idle _ light idle, before]
      rcases tasks with same | stopped
      · rw [same]
      · rw [stopped, Machine.mem_stoppedTasks_fetching]
  | save content due pipeline tasks nextNumber =>
      rw [tasks]
      exact before
  | launch purpose ready write light quieted found pipeline tasks nextNumber =>
      rw [Record.note_of_launch _ light, tasks]
      simpa using before
  | fetch resolution phase pipeline tasks nextNumber =>
      rw [tasks]
      simp [Record.note, Record.receive, Record.call, before]
  | land other purpose write reply running stopped pipeline tasks nextNumber =>
      rw [Record.note_of_answer, Record.answer_waiting, tasks,
        faithful.books.mem_dropTask_fetching running]
      exact before
  | refuse other otherResolution failure waiting pipeline tasks nextNumber =>
      rw [tasks]
      exact dropped other
  | adopt other otherResolution latest waiting lost pipeline tasks nextNumber =>
      rw [tasks]
      exact dropped other
  | resubmit other otherResolution latest write waiting found pipeline tasks nextNumber =>
      rw [Record.note_of_resubmit, tasks, List.mem_cons, or_iff_right nofun]
      exact dropped other
  | forgo other otherResolution waiting pipeline tasks nextNumber =>
      rw [tasks]
      exact dropped other
  | abandon other purpose write running pipeline tasks nextNumber =>
      rw [tasks]
      exact dropped other

/-- Without a write in flight, every write on record has its fate. -/
theorem settled_of_change
    (faithful : chronicle.Faithful)
    (change : chronicle.machine.Change move machine effects)
    (landed : machine.pipeline.inFlight = false) :
    Settled (chronicle.record.note move effects).updates := by
  -- A write whose fate has just been decided was the last without one.
  have ended {number : Nat} {purpose : Purpose} {write : Write} {fate : Fate}
      (running : chronicle.machine.task? number = some (.writing purpose write))
      (decided : fate ≠ .outstanding) :
      Settled (chronicle.record.settle number fate).updates := by
    obtain ⟨source, earlier, settled, _, updates⟩ := faithful.updates_settle running fate
    rw [updates]
    exact settled.cons decided
  cases change with
  | quiet light pipeline tasks nextNumber idle =>
      rw [Record.note_of_idle _ light idle]
      exact faithful.settled (pipeline.inFlight_eq.symm.trans landed)
  | save content due pipeline tasks nextNumber =>
      rw [pipeline, Pipeline.buffer_inFlight] at landed
      exact faithful.settled landed
  | launch purpose ready write light quieted found pipeline tasks nextNumber =>
      rw [pipeline] at landed
      cases landed
  | fetch resolution phase pipeline tasks nextNumber =>
      exact faithful.settled (pipeline ▸ landed)
  | land number purpose write reply running stopped pipeline tasks nextNumber =>
      rw [Record.note_of_answer, Record.answer_updates]
      exact ended running (Fate.ofReply_ne_outstanding reply)
  | refuse number resolution failure waiting pipeline tasks nextNumber =>
      exact faithful.settled (pipeline ▸ landed)
  | adopt number resolution latest waiting lost pipeline tasks nextNumber =>
      rw [pipeline, Pipeline.adopt_inFlight] at landed
      exact faithful.settled landed
  | resubmit number resolution latest write waiting found pipeline tasks nextNumber =>
      rw [pipeline] at landed
      cases landed
  | forgo number resolution waiting pipeline tasks nextNumber =>
      show Settled (chronicle.record.settle number .abandoned).updates
      rw [faithful.updates_settle_of_fetching waiting]
      exact faithful.settled (pipeline ▸ landed)
  | abandon number purpose write running pipeline tasks nextNumber => exact ended running nofun

/-- A write in flight is the last one on record. -/
theorem running_of_change
    (faithful : chronicle.Faithful)
    (change : chronicle.machine.Change move machine effects)
    {number : Nat}
    {purpose : Purpose}
    {write : Write}
    (member : (number, .writing purpose write) ∈ machine.tasks) :
    ∃ source earlier, Settled earlier ∧ (chronicle.record.note move effects).updates =
      ⟨number, write, source, .outstanding⟩ :: earlier := by
  have ofDropped {other : Nat}
      (kept : (number, .writing purpose write) ∈ (chronicle.machine.dropTask other).tasks) :=
    faithful.running number purpose write (List.mem_filter.mp kept).1
  -- When a write begins no other one is in flight, and when one is over none remains.
  have ofLanded (landed : chronicle.machine.pipeline.inFlight = false)
      (older : (number, .writing purpose write) ∈ chronicle.machine.tasks) : False := by
    cases faithful.books.not_isWriting landed _ older
  cases change with
  | quiet light pipeline tasks nextNumber idle =>
      rw [Record.note_of_idle _ light idle]
      rcases tasks with same | stopped
      · exact faithful.running number purpose write (same ▸ member)
      · obtain ⟨earlier, older⟩ := Machine.exists_writing_of_stoppedTasks (stopped ▸ member)
        exact faithful.running number earlier write older
  | save content due pipeline tasks nextNumber =>
      exact faithful.running number purpose write (tasks ▸ member)
  | launch otherPurpose ready otherWrite light quieted found pipeline tasks nextNumber =>
      have landed := quieted.inFlight_eq ▸ (Pipeline.nextWrite?_eq_some found).2.1
      rw [Record.note_of_launch _ light]
      rcases List.mem_cons.mp (tasks ▸ member) with new | older
      · obtain ⟨rfl, sameTask⟩ := Prod.mk.inj new
        obtain ⟨_, rfl⟩ := Task.writing.inj sameTask
        exact ⟨_, _, faithful.settled landed, rfl⟩
      · exact (ofLanded landed older).elim
  | fetch resolution phase pipeline tasks nextNumber =>
      rcases List.mem_cons.mp (tasks ▸ member) with new | older
      · cases new
      · exact faithful.running number purpose write older
  | land other otherPurpose otherWrite reply running stopped pipeline tasks nextNumber =>
      have none := List.countP_eq_zero.mp (faithful.books.countP_dropTask_writing running)
      exact absurd rfl (none _ (tasks ▸ member))
  | refuse other resolution failure waiting pipeline tasks nextNumber =>
      exact ofDropped (tasks ▸ member)
  | adopt other resolution latest waiting lost pipeline tasks nextNumber =>
      exact ofDropped (tasks ▸ member)
  | resubmit other resolution latest otherWrite waiting found pipeline tasks nextNumber =>
      have landed : chronicle.machine.pipeline.inFlight = false :=
        (Pipeline.nextWrite?_eq_some found).2.1
      rw [Record.note_of_resubmit]
      rcases List.mem_cons.mp (tasks ▸ member) with new | older
      · obtain ⟨rfl, sameTask⟩ := Prod.mk.inj new
        obtain ⟨_, rfl⟩ := Task.writing.inj sameTask
        exact ⟨_, _, faithful.settled landed, rfl⟩
      · exact (ofLanded landed (List.mem_filter.mp older).1).elim
  | forgo other resolution waiting pipeline tasks nextNumber =>
      show ∃ source earlier, Settled earlier ∧
        (chronicle.record.settle other .abandoned).updates = _
      rw [faithful.updates_settle_of_fetching waiting]
      exact ofDropped (tasks ▸ member)
  | abandon other otherPurpose otherWrite running pipeline tasks nextNumber =>
      have none := List.countP_eq_zero.mp (faithful.books.countP_dropTask_writing running)
      exact absurd rfl (none _ (tasks ▸ member))

theorem conflict_of_change
    (faithful : chronicle.Faithful)
    (change : chronicle.machine.Change move machine effects) :
    (chronicle.record.note move effects).isConflicted = true ↔
      machine.pipeline.phase = .conflict := by
  have before := faithful.conflict_iff
  -- A write in flight is over or given up outside of a conflict.
  have calm {number : Nat} {purpose : Purpose} {write : Write}
      (running : chronicle.machine.task? number = some (.writing purpose write)) :
      chronicle.record.isConflicted = false := by
    apply Bool.eq_false_iff.mpr
    intro conflicted
    exact faithful.books.phase_ne_conflict_of_writing running (before.mp conflicted)
  cases change with
  | quiet light pipeline tasks nextNumber idle =>
      rw [Record.note_of_idle _ light idle, pipeline.phase_eq_conflict_iff]
      exact before
  | save content due pipeline tasks nextNumber =>
      rw [pipeline, Pipeline.buffer_phase_eq_conflict_iff]
      exact before
  | launch purpose ready write light quieted found pipeline tasks nextNumber =>
      have peaceful := (Pipeline.nextWrite?_eq_some found).1
      rw [Record.note_of_launch _ light, pipeline, Pipeline.launch_phase]
      simpa [before, ← quieted.phase_eq_conflict_iff] using peaceful
  | fetch resolution phase pipeline tasks nextNumber =>
      rw [pipeline]
      exact before
  | land number purpose write reply running stopped pipeline tasks nextNumber =>
      rw [Record.note_of_answer, pipeline, Pipeline.land_phase_eq_conflict_iff]
      cases reply with
      | saved version => simpa [Record.answer, Record.settle] using calm running
      | conflict => simp [Record.answer]
      | failed failure => simpa [Record.answer, Record.settle] using calm running
  | refuse number resolution failure waiting pipeline tasks nextNumber =>
      rw [pipeline]
      exact before
  | adopt number resolution latest waiting lost pipeline tasks nextNumber =>
      rw [pipeline, Pipeline.adopt_phase]
      exact ⟨nofun, nofun⟩
  | resubmit number resolution latest write waiting found pipeline tasks nextNumber =>
      rw [pipeline, Pipeline.launch_phase]
      exact ⟨nofun, nofun⟩
  | forgo number resolution waiting pipeline tasks nextNumber =>
      rw [pipeline]
      exact before
  | abandon number purpose write running pipeline tasks nextNumber =>
      rw [pipeline, Pipeline.abandon_phase_eq_conflict_iff]
      exact before

/-- Every possible move is recorded faithfully. -/
theorem kept
    (faithful : chronicle.Faithful)
    (possible : chronicle.move? move = some next) :
    next.Faithful := by
  obtain ⟨machine, effects, change, rfl⟩ := exists_change_of_move? possible
  exact retire
    { books := faithful.books.change change
      waiting_iff := faithful.waiting_of_change change
      settled := faithful.settled_of_change change
      running := fun _ _ _ => faithful.running_of_change change
      conflict_iff := faithful.conflict_of_change change }

theorem follow
    (faithful : chronicle.Faithful)
    (moves : List Move) :
    (chronicle.follow moves).Faithful :=
  takeTurns_induction (fun holds possible => kept holds possible) moves faithful

/-- What every change keeps, as long as the machine and its record agree, holds at the end of every
course. -/
theorem follow_induction
    {invariant : Chronicle → Prop}
    (changed : ∀ {chronicle : Chronicle} {move machine effects}, chronicle.Faithful →
      invariant chronicle → chronicle.machine.Change move machine effects →
        invariant ⟨machine.retire, chronicle.record.note move effects⟩)
    (faithful : chronicle.Faithful)
    (holds : invariant chronicle)
    (moves : List Move) :
    invariant (chronicle.follow moves) := by
  have kept {before after : Chronicle} {move : Move}
      (holds : before.Faithful ∧ invariant before)
      (possible : before.move? move = some after) :
      after.Faithful ∧ invariant after := by
    refine ⟨holds.1.kept possible, ?_⟩
    obtain ⟨machine, effects, change, rfl⟩ := exists_change_of_move? possible
    exact changed holds.1 holds.2 change
  exact (takeTurns_induction kept moves ⟨faithful, holds⟩).2

/-- Nothing is outstanding while nothing is in flight. -/
theorem outstanding_of_landed
    (faithful : chronicle.Faithful)
    (landed : chronicle.machine.pipeline.inFlight = false) :
    chronicle.record.outstanding = [] := by
  refine List.filter_eq_nil_iff.mpr fun update member => ?_
  simpa using faithful.settled landed update member

/-- The write in flight is all that is outstanding. -/
theorem outstanding_of_writing
    (faithful : chronicle.Faithful)
    {number : Nat}
    {purpose : Purpose}
    {write : Write}
    (member : (number, .writing purpose write) ∈ chronicle.machine.tasks) :
    ∃ source, chronicle.record.outstanding = [⟨number, write, source, .outstanding⟩] := by
  obtain ⟨source, earlier, settled, updates⟩ := faithful.running number purpose write member
  have none : earlier.filter (·.fate == .outstanding) = [] := by
    refine List.filter_eq_nil_iff.mpr fun update older => ?_
    simpa using settled update older
  exact ⟨source, by simp [Record.outstanding, updates, none]⟩

/-- A machine marks a write as in flight exactly while one is outstanding. -/
theorem inFlight_iff
    (faithful : chronicle.Faithful) :
    chronicle.machine.pipeline.inFlight = true ↔ chronicle.record.outstanding ≠ [] := by
  constructor
  · intro inFlight
    obtain ⟨number, purpose, write, member⟩ := faithful.books.exists_writing inFlight
    obtain ⟨source, one⟩ := faithful.outstanding_of_writing member
    simp [one]
  · intro some
    cases inFlight : chronicle.machine.pipeline.inFlight with
    | true => rfl
    | false => exact absurd (faithful.outstanding_of_landed inFlight) some

theorem landed_iff
    (faithful : chronicle.Faithful) :
    chronicle.machine.pipeline.inFlight = false ↔ chronicle.record.outstanding = [] := by
  rw [← Bool.not_eq_true, faithful.inFlight_iff, ne_eq, Decidable.not_not]

theorem length_outstanding_le_one
    (faithful : chronicle.Faithful) :
    chronicle.record.outstanding.length ≤ 1 := by
  cases inFlight : chronicle.machine.pipeline.inFlight with
  | false => simp [faithful.outstanding_of_landed inFlight]
  | true =>
      obtain ⟨number, purpose, write, member⟩ := faithful.books.exists_writing inFlight
      obtain ⟨source, one⟩ := faithful.outstanding_of_writing member
      simp [one]

/-- Every write but the latest has its fate. -/
theorem settled_tail
    (faithful : chronicle.Faithful) :
    Settled chronicle.record.updates.tail := by
  cases inFlight : chronicle.machine.pipeline.inFlight with
  | false => exact fun update member =>
      faithful.settled inFlight update (List.mem_of_mem_tail member)
  | true =>
      obtain ⟨number, purpose, write, member⟩ := faithful.books.exists_writing inFlight
      obtain ⟨source, earlier, settled, updates⟩ := faithful.running number purpose write member
      rw [updates]
      exact settled

/-- When a write is accepted, its content is recorded as such. -/
theorem accepted_of_saved
    (faithful : chronicle.Faithful)
    {number : Nat}
    {purpose : Purpose}
    {write : Write}
    (running : chronicle.machine.task? number = some (.writing purpose write))
    (version : Int) :
    (chronicle.record.answer number (.saved version)).accepted =
      write.content :: chronicle.record.accepted := by
  obtain ⟨source, one⟩ := faithful.outstanding_of_writing (Machine.mem_of_task? running)
  simp [Record.answer, one]

end Faithful
end Chronicle
end Autosave
end TwinEditor
