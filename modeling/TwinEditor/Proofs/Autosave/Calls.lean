import TwinEditor.Proofs.Autosave.Bookkeeping

/-!
# Where calls and versions come from

A call that has no answer yet was there before the last change or was begun by it, a write that
is begun presents the version and the document that the pipeline holds, and a pipeline holds
another version only after the store has accepted a write or handed out its document.
-/

namespace TwinEditor
namespace Autosave

open Store

/-- Whether an effect is a call to the store. -/
def Effect.isCall : Effect → Bool
  | .updateCalled .. => true
  | .fetchCalled .. => true
  | _ => false

/-- The version that an answer brings: that of an accepted write, or of a document. -/
def Occurrence.granted? : Occurrence → Option Int
  | .updateReply _ (.saved version) => some version
  | .fetchReply _ (.ok latest) => some latest.version
  | _ => none

/-- Whether a move brings a version. -/
def Move.isGrant : Move → Bool
  | .request _ => false
  | .occurrence answer => answer.granted?.isSome

namespace Machine

variable {machine next : Machine} {move : Move} {effects : List Effect}

/-- How a call came to be without an answer after a change. -/
inductive Origin (machine : Machine) (move : Move) (effects : List Effect) (next : Machine) :
    Nat → Task → Prop
  | old {number : Nat} {task : Task}
      (member : (number, task) ∈ machine.tasks) :
      Origin machine move effects next number task
  | stopped {number : Nat} {write : Write}
      (running : (number, .writing .interval write) ∈ machine.tasks) :
      Origin machine move effects next number (.writing .stopped write)
  | launched {purpose : Purpose} {write : Write}
      (light : move.isWeighty = false)
      (effects_eq : effects = [.updateCalled machine.nextNumber write])
      (documentId_eq : write.documentId = machine.pipeline.documentId)
      (version_eq : write.version = machine.pipeline.version)
      (unresolved : ∀ latest, purpose ≠ .resubmit latest) :
      Origin machine move effects next machine.nextNumber (.writing purpose write)
  | fetched {resolution : Resolution}
      (phase : machine.pipeline.phase = .conflict)
      (effects_eq : effects = [.fetchCalled machine.nextNumber machine.pipeline.project])
      (move_eq : move = .request (.resolve resolution)) :
      Origin machine move effects next machine.nextNumber (.fetching resolution)
  | resubmitted {number : Nat} {latest : Document} {write : Write}
      (move_eq : move = .occurrence (.fetchReply number (.ok latest)))
      (effects_eq : effects = [.updateCalled number write])
      (waiting : (number, .fetching .overwrite) ∈ machine.tasks)
      (documentId_eq : write.documentId = latest.id)
      (version_eq : write.version = latest.version) :
      Origin machine move effects next number (.writing (.resubmit latest) write)

/-- Every call that has no answer after a change was there before or was begun by the change. -/
theorem Change.origin
    (change : Change machine move next effects)
    {number : Nat}
    {task : Task}
    (member : (number, task) ∈ next.tasks) :
    Origin machine move effects next number task := by
  have ofDropped {other : Nat} (kept : (number, task) ∈ (machine.dropTask other).tasks) :
      Origin machine move effects next number task :=
    .old (List.mem_filter.mp kept).1
  cases change with
  | quiet light pipeline tasks nextNumber idle =>
      rcases tasks with same | stopped
      · exact .old (same ▸ member)
      · rw [stopped] at member
        obtain ⟨⟨other, older⟩, olderMember, equal⟩ := List.mem_map.mp member
        obtain ⟨rfl, rfl⟩ := Prod.mk.inj equal
        unfold stopTask
        split
        · exact .stopped olderMember
        · exact .old olderMember
  | save content due pipeline tasks nextNumber => exact .old (tasks ▸ member)
  | launch purpose ready write light quieted found pipeline tasks nextNumber unresolved =>
      rw [tasks] at member
      rcases List.mem_cons.mp member with new | older
      · obtain ⟨rfl, rfl⟩ := Prod.mk.inj new
        obtain ⟨_, _, _, documentId_eq, version_eq⟩ := Pipeline.nextWrite?_eq_some found
        exact .launched light rfl (documentId_eq.trans quieted.documentId_eq)
          (version_eq.trans quieted.version_eq) unresolved
      · exact .old older
  | fetch resolution phase pipeline tasks nextNumber =>
      rw [tasks] at member
      rcases List.mem_cons.mp member with new | older
      · obtain ⟨rfl, rfl⟩ := Prod.mk.inj new
        exact .fetched phase rfl rfl
      · exact .old older
  | land number purpose write reply task running pipeline tasks nextNumber =>
      exact ofDropped (tasks ▸ member)
  | refuse number resolution failure task pipeline tasks nextNumber =>
      exact ofDropped (tasks ▸ member)
  | adopt number resolution latest task lost pipeline tasks nextNumber =>
      exact ofDropped (tasks ▸ member)
  | resubmit number resolution latest write task found pipeline tasks nextNumber =>
      rw [tasks] at member
      rcases List.mem_cons.mp member with new | older
      · obtain ⟨rfl, rfl⟩ := Prod.mk.inj new
        obtain ⟨_, _, pending, documentId_eq, version_eq⟩ := Pipeline.nextWrite?_eq_some found
        cases resolution with
        | reload => cases pending
        | overwrite => exact .resubmitted rfl rfl (mem_of_task? task) documentId_eq version_eq
      · exact ofDropped older
  | forgo number resolution task pipeline tasks nextNumber =>
      exact ofDropped (tasks ▸ member)
  | abandon number purpose write task pipeline tasks nextNumber =>
      exact ofDropped (tasks ▸ member)

/-- A write over a document had no answer before, or the document has just come for it. -/
theorem Change.origin_of_resubmit
    (change : Change machine move next effects)
    {number : Nat}
    {latest : Document}
    {write : Write}
    (member : (number, .writing (.resubmit latest) write) ∈ next.tasks) :
    (number, .writing (.resubmit latest) write) ∈ machine.tasks ∨
      move = .occurrence (.fetchReply number (.ok latest)) := by
  cases change.origin member with
  | old older => exact .inl older
  | launched light effects_eq documentId_eq version_eq unresolved =>
      exact absurd rfl (unresolved latest)
  | resubmitted move_eq => exact .inr move_eq

/-- A write that is called for has no answer yet, and it presents the document and the version
that are held. -/
theorem Change.writing_of_updateCalled
    (change : Change machine move next effects)
    {number : Nat}
    {write : Write}
    (called : .updateCalled number write ∈ effects) :
    (∃ purpose, (number, .writing purpose write) ∈ next.tasks) ∧
      write.documentId = next.pipeline.documentId ∧ write.version = next.pipeline.version := by
  cases change with
  | quiet light pipeline tasks nextNumber idle => cases idle _ called
  | launch purpose ready other light quieted found pipeline tasks nextNumber =>
      obtain ⟨rfl, rfl⟩ := Effect.updateCalled.inj (List.mem_singleton.mp called)
      have held := (Pipeline.nextWrite?_eq_some found).2.2.2
      exact ⟨⟨purpose, tasks ▸ List.mem_cons_self⟩, pipeline ▸ held⟩
  | resubmit other resolution latest otherWrite task found pipeline tasks nextNumber =>
      obtain ⟨rfl, rfl⟩ := Effect.updateCalled.inj (List.mem_singleton.mp called)
      have held := (Pipeline.nextWrite?_eq_some found).2.2.2
      exact ⟨⟨.resubmit latest, tasks ▸ List.mem_cons_self⟩, pipeline ▸ held⟩
  | land other purpose otherWrite reply task running pipeline tasks nextNumber =>
      rcases List.mem_cons.mp called with announced | answered
      · cases announced
      · cases purpose <;> simp [answers] at answered
  | save => cases called
  | fetch => cases List.mem_singleton.mp called
  | refuse => cases List.mem_singleton.mp called
  | adopt => cases List.mem_singleton.mp called
  | forgo => cases called
  | abandon => cases called

/-- A document that is called for is the one of the project, under a number just given out. -/
theorem Change.fetching_of_fetchCalled
    (change : Change machine move next effects)
    {number : Nat}
    {project : Uuid}
    (called : .fetchCalled number project ∈ effects) :
    number = machine.nextNumber ∧ number < next.nextNumber ∧
      project = machine.pipeline.project := by
  cases change with
  | quiet light pipeline tasks nextNumber idle => cases idle _ called
  | fetch resolution phase pipeline tasks nextNumber =>
      obtain ⟨rfl, rfl⟩ := Effect.fetchCalled.inj (List.mem_singleton.mp called)
      exact ⟨rfl, nextNumber ▸ Nat.lt_succ_self _, rfl⟩
  | land other purpose otherWrite reply task running pipeline tasks nextNumber =>
      rcases List.mem_cons.mp called with announced | answered
      · cases announced
      · cases purpose <;> simp [answers] at answered
  | save => cases called
  | launch => cases List.mem_singleton.mp called
  | refuse => cases List.mem_singleton.mp called
  | adopt => cases List.mem_singleton.mp called
  | resubmit => cases List.mem_singleton.mp called
  | forgo => cases called
  | abandon => cases called

/-- Numbers that are given out stay given out. -/
theorem Change.nextNumber_le
    (change : Change machine move next effects) :
    machine.nextNumber ≤ next.nextNumber := by
  cases change <;> omega

/-- A change that brings no version leaves the version and the document that are held. -/
theorem Change.held_of_not_isGrant
    (change : Change machine move next effects)
    (plain : move.isGrant = false) :
    next.pipeline.version = machine.pipeline.version ∧
      next.pipeline.documentId = machine.pipeline.documentId := by
  cases change with
  | quiet light pipeline tasks nextNumber idle =>
      exact ⟨pipeline.version_eq, pipeline.documentId_eq⟩
  | save content due pipeline tasks nextNumber => simp [pipeline]
  | launch purpose ready write light quieted found pipeline tasks nextNumber =>
      simp [pipeline, quieted.version_eq, quieted.documentId_eq]
  | fetch resolution phase pipeline tasks nextNumber => simp [pipeline]
  | land number purpose write reply task running pipeline tasks nextNumber =>
      rw [pipeline]
      refine ⟨?_, Pipeline.land_documentId ..⟩
      cases reply with
      | saved version => cases plain
      | conflict => rfl
      | failed failure => rfl
  | refuse number resolution failure task pipeline tasks nextNumber => simp [pipeline]
  | adopt number resolution latest task lost pipeline tasks nextNumber => cases plain
  | resubmit number resolution latest write task found pipeline tasks nextNumber => cases plain
  | forgo number resolution task pipeline tasks nextNumber => simp [pipeline]
  | abandon number purpose write task pipeline tasks nextNumber => simp [pipeline]

/-- The project of a machine never changes. -/
theorem Change.project_eq
    (change : Change machine move next effects) :
    next.pipeline.project = machine.pipeline.project := by
  cases change with
  | quiet light pipeline => exact pipeline.project_eq
  | save content due pipeline => simp [pipeline]
  | launch purpose ready write light quieted found pipeline => simp [pipeline, quieted.project_eq]
  | fetch resolution phase pipeline => simp [pipeline]
  | land number purpose write reply task running pipeline => simp [pipeline]
  | refuse number resolution failure task pipeline => simp [pipeline]
  | adopt number resolution latest task lost pipeline => simp [pipeline]
  | resubmit number resolution latest write task found pipeline => simp [pipeline]
  | forgo number resolution task pipeline => simp [pipeline]
  | abandon number purpose write task pipeline => simp [pipeline]

/-- What the store grants becomes what the machine holds. -/
theorem Change.version_of_saved
    {number : Nat}
    {version : Int}
    (change : Change machine (.occurrence (.updateReply number (.saved version))) next effects) :
    next.pipeline.version = version ∧
      next.pipeline.documentId = machine.pipeline.documentId := by
  cases change with
  | quiet light => cases light
  | launch purpose ready write light => cases light
  | land number purpose write reply task running pipeline tasks nextNumber =>
      exact ⟨by rw [pipeline]; rfl, by simp [pipeline]⟩

theorem Change.held_of_document
    {number : Nat}
    {latest : Document}
    (change : Change machine (.occurrence (.fetchReply number (.ok latest))) next effects) :
    next.pipeline.version = latest.version ∧ next.pipeline.documentId = latest.id := by
  cases change with
  | quiet light => cases light
  | launch purpose ready write light => cases light
  | adopt number resolution latest task lost pipeline tasks nextNumber => simp [pipeline]
  | resubmit number resolution latest write task found pipeline tasks nextNumber =>
      simp [pipeline]

/-- The version that is held after an occurrence is the one it brings, if it brings one. -/
theorem Change.version_eq
    {occurrence : Occurrence}
    (change : Change machine (.occurrence occurrence) next effects) :
    next.pipeline.version = occurrence.granted?.getD machine.pipeline.version := by
  have held (plain : occurrence.granted?.isSome = false) :
      next.pipeline.version = occurrence.granted?.getD machine.pipeline.version := by
    rw [Option.isSome_eq_false_iff, Option.isNone_iff_eq_none] at plain
    rw [plain]
    exact (change.held_of_not_isGrant (by simp [Move.isGrant, plain])).1
  cases occurrence with
  | updateReply number reply =>
      cases reply with
      | saved version => exact change.version_of_saved.1
      | conflict => exact held rfl
      | failed failure => exact held rfl
  | fetchReply number reply =>
      cases reply with
      | ok latest => exact change.held_of_document.1
      | error failure => exact held rfl
  | _ => exact held rfl

/-- An accepted write is one that had no answer, and no write is left after it. -/
theorem Change.writing_of_saved
    {number : Nat}
    {version : Int}
    (change : Change machine (.occurrence (.updateReply number (.saved version))) next effects) :
    next.pipeline.inFlight = false ∧
      ∃ purpose write, (number, .writing purpose write) ∈ machine.tasks := by
  cases change with
  | quiet light => cases light
  | launch purpose ready write light => cases light
  | land number purpose write reply task running pipeline tasks nextNumber =>
      exact ⟨by simp [pipeline], purpose, write, mem_of_task? task⟩

/-- A document that arrives is one that a resolution waits for. -/
theorem Change.fetching_of_document
    {number : Nat}
    {latest : Document}
    (change : Change machine (.occurrence (.fetchReply number (.ok latest))) next effects) :
    ∃ resolution, (number, .fetching resolution) ∈ machine.tasks := by
  cases change with
  | quiet light => cases light
  | launch purpose ready write light => cases light
  | adopt number resolution latest task => exact ⟨resolution, mem_of_task? task⟩
  | resubmit number resolution latest write task => exact ⟨resolution, mem_of_task? task⟩

/-- If the call with a number has no answer yet, it is a write with a given property. -/
structure WritesUnder (machine : Machine) (number : Nat) (property : Write → Prop) : Prop where
  number_lt : number < machine.nextNumber
  write_of_mem : ∀ task, (number, task) ∈ machine.tasks →
    ∃ purpose write, task = .writing purpose write ∧ property write

namespace WritesUnder

variable {number : Nat} {property : Write → Prop}

theorem imp
    (writes : machine.WritesUnder number property)
    {weaker : Write → Prop}
    (implies : ∀ write, property write → weaker write) :
    machine.WritesUnder number weaker where
  number_lt := writes.number_lt
  write_of_mem task member := by
    obtain ⟨purpose, write, equal, holds⟩ := writes.write_of_mem task member
    exact ⟨purpose, write, equal, implies write holds⟩

/-- What is known of a call stays true of it until it is over. -/
theorem change
    (writes : machine.WritesUnder number property)
    (change : Change machine move next effects) :
    next.WritesUnder number property where
  number_lt := Nat.lt_of_lt_of_le writes.number_lt change.nextNumber_le
  write_of_mem task member := by
    cases change.origin member with
    | old member => exact writes.write_of_mem task member
    | stopped running =>
        obtain ⟨_, write, equal, holds⟩ := writes.write_of_mem _ running
        obtain ⟨_, rfl⟩ := Task.writing.inj equal
        exact ⟨.stopped, _, rfl, holds⟩
    | launched => exact absurd writes.number_lt (Nat.lt_irrefl _)
    | fetched => exact absurd writes.number_lt (Nat.lt_irrefl _)
    | resubmitted move_eq effects_eq waiting =>
        obtain ⟨_, _, equal, _⟩ := writes.write_of_mem _ waiting
        cases equal

theorem retire
    (writes : machine.WritesUnder number property) :
    machine.retire.WritesUnder number property where
  number_lt := by simpa using writes.number_lt
  write_of_mem := by simpa using writes.write_of_mem

/-- A write that is called for is known under its number. -/
theorem ofCall
    (sound : next.Sound)
    (change : Change machine move next effects)
    {write : Write}
    (called : .updateCalled number write ∈ effects) :
    next.WritesUnder number (· = write) := by
  obtain ⟨⟨purpose, member⟩, _⟩ := change.writing_of_updateCalled called
  refine ⟨sound.numbered.number_lt _ member, fun task other => ⟨purpose, write, ?_, rfl⟩⟩
  exact sound.numbered.eq_of_mem other member

end WritesUnder

/-- No call with a number that was given out is without an answer. -/
structure IsOver (machine : Machine) (number : Nat) : Prop where
  number_lt : number < machine.nextNumber
  absent : ∀ task, (number, task) ∉ machine.tasks

namespace IsOver

variable {number : Nat}

/-- A call that is over stays over. -/
theorem change
    (isOver : machine.IsOver number)
    (change : Change machine move next effects) :
    next.IsOver number := by
  have nothing : machine.WritesUnder number fun _ => False :=
    ⟨isOver.number_lt, fun task member => absurd member (isOver.absent task)⟩
  have still := nothing.change change
  refine ⟨still.number_lt, fun task member => ?_⟩
  obtain ⟨_, _, _, impossible⟩ := still.write_of_mem task member
  exact impossible

theorem retire (isOver : machine.IsOver number) : machine.retire.IsOver number where
  number_lt := by simpa using isOver.number_lt
  absent := by simpa using isOver.absent

end IsOver
end Machine
end Autosave
end TwinEditor
