import TwinEditor.Proofs.Autosave.Course

/-!
# The books of a machine

Every call to the store has a number of its own, exactly the write that is in flight is marked
as such, and during a conflict nothing is in flight and the debounce timer is not armed. These
facts are kept by every change, and so they hold at the end of every course.
-/

namespace TwinEditor
namespace Autosave

open Store

/-- Stopping the interval timer does not take a write back. -/
@[simp] theorem Machine.isWriting_stopTask (task : Task) :
    (stopTask task).isWriting = task.isWriting := by
  unfold stopTask
  split <;> rfl

/-- Stopping the interval timer concerns no resolution. -/
theorem Machine.mem_stoppedTasks_fetching
    {machine : Machine}
    {number : Nat}
    {resolution : Resolution} :
    (number, .fetching resolution) ∈ machine.stoppedTasks ↔
      (number, .fetching resolution) ∈ machine.tasks := by
  constructor
  · intro member
    obtain ⟨⟨other, task⟩, older, equal⟩ := List.mem_map.mp member
    obtain ⟨rfl, stopped⟩ := Prod.mk.inj equal
    unfold stopTask at stopped
    split at stopped
    · cases stopped
    · exact stopped ▸ older
  · intro older
    exact List.mem_map.mpr ⟨_, older, rfl⟩

/-- A write goes on as it is when the interval timer is stopped, except for what it was begun for. -/
theorem Machine.exists_writing_of_stoppedTasks
    {machine : Machine}
    {number : Nat}
    {purpose : Purpose}
    {write : Write}
    (member : (number, .writing purpose write) ∈ machine.stoppedTasks) :
    ∃ earlier, (number, .writing earlier write) ∈ machine.tasks := by
  obtain ⟨⟨other, task⟩, older, equal⟩ := List.mem_map.mp member
  obtain ⟨rfl, stopped⟩ := Prod.mk.inj equal
  unfold stopTask at stopped
  split at stopped
  · obtain ⟨rfl, rfl⟩ := Task.writing.inj stopped
    exact ⟨.interval, older⟩
  · exact ⟨purpose, stopped ▸ older⟩

/-- The calls have numbers that differ and have all been given out. -/
structure Numbered (tasks : List (Nat × Task)) (nextNumber : Nat) : Prop where
  number_lt : ∀ entry ∈ tasks, entry.1 < nextNumber
  nodup : (tasks.map Prod.fst).Nodup

namespace Numbered

variable {tasks : List (Nat × Task)} {nextNumber : Nat}

theorem mono
    (numbered : Numbered tasks nextNumber)
    {later : Nat}
    (le : nextNumber ≤ later) :
    Numbered tasks later :=
  ⟨fun entry member => Nat.lt_of_lt_of_le (numbered.number_lt entry member) le, numbered.nodup⟩

/-- A call may take the number that is given next. -/
theorem cons
    (numbered : Numbered tasks nextNumber)
    (task : Task) :
    Numbered ((nextNumber, task) :: tasks) (nextNumber + 1) := by
  constructor
  · intro entry member
    rcases List.mem_cons.mp member with rfl | older
    · exact Nat.lt_succ_self _
    · exact Nat.lt_succ_of_lt (numbered.number_lt entry older)
  · rw [List.map_cons, List.nodup_cons]
    refine ⟨fun taken => ?_, numbered.nodup⟩
    obtain ⟨entry, member, equal⟩ := List.mem_map.mp taken
    exact Nat.lt_irrefl _ (equal ▸ numbered.number_lt entry member)

/-- The calls that remain keep their numbers. -/
theorem filter
    (numbered : Numbered tasks nextNumber)
    (keeps : Nat × Task → Bool) :
    Numbered (tasks.filter keeps) nextNumber :=
  ⟨fun entry member => numbered.number_lt entry (List.mem_filter.mp member).1,
    numbered.nodup.sublist (List.filter_sublist.map _)⟩

/-- A call may take over the number of a call that is over. -/
theorem replace
    (numbered : Numbered tasks nextNumber)
    {number : Nat}
    (given : number < nextNumber)
    (task : Task) :
    Numbered ((number, task) :: tasks.filter (·.1 != number)) nextNumber := by
  have rest := numbered.filter (·.1 != number)
  constructor
  · intro entry member
    rcases List.mem_cons.mp member with rfl | older
    · exact given
    · exact rest.number_lt entry older
  · rw [List.map_cons, List.nodup_cons]
    refine ⟨fun taken => ?_, rest.nodup⟩
    obtain ⟨entry, member, equal⟩ := List.mem_map.mp taken
    simp [equal] at member

theorem stopped
    {machine : Machine}
    (numbered : Numbered machine.tasks nextNumber) :
    Numbered machine.stoppedTasks nextNumber := by
  have sameNumbers : machine.stoppedTasks.map Prod.fst = machine.tasks.map Prod.fst := by
    rw [Machine.stoppedTasks, List.map_map]
    rfl
  refine ⟨fun entry member => ?_, sameNumbers ▸ numbered.nodup⟩
  obtain ⟨older, olderMember, rfl⟩ := List.mem_map.mp member
  exact numbered.number_lt older olderMember

/-- A number belongs to one call only. -/
theorem eq_of_mem
    (numbered : Numbered tasks nextNumber)
    {number : Nat}
    {task other : Task}
    (member : (number, task) ∈ tasks)
    (otherMember : (number, other) ∈ tasks) :
    task = other := by
  have nodup := numbered.nodup
  clear numbered
  induction tasks with
  | nil => cases member
  | cons head tail inductionHypothesis =>
      rw [List.map_cons, List.nodup_cons] at nodup
      rcases List.mem_cons.mp member with rfl | inTail
      · rcases List.mem_cons.mp otherMember with equal | otherInTail
        · exact (Prod.mk.inj equal).2.symm
        · exact absurd (List.mem_map.mpr ⟨_, otherInTail, rfl⟩) nodup.1
      · rcases List.mem_cons.mp otherMember with rfl | otherInTail
        · exact absurd (List.mem_map.mpr ⟨_, inTail, rfl⟩) nodup.1
        · exact inductionHypothesis inTail otherInTail nodup.2

/-- The calls are one of them and those with other numbers. -/
theorem perm_filter
    (numbered : Numbered tasks nextNumber)
    {number : Nat}
    {task : Task}
    (member : (number, task) ∈ tasks) :
    tasks.Perm ((number, task) :: tasks.filter (·.1 != number)) := by
  have nodup := numbered.nodup
  clear numbered
  induction tasks with
  | nil => cases member
  | cons head tail inductionHypothesis =>
      rw [List.map_cons, List.nodup_cons] at nodup
      rcases List.mem_cons.mp member with rfl | inTail
      · have untouched : tail.filter (·.1 != number) = tail := by
          apply List.filter_eq_self.mpr
          intro entry inside
          rw [bne_iff_ne]
          intro equal
          exact nodup.1 (List.mem_map.mpr ⟨entry, inside, equal⟩)
        simp [untouched]
      · have different : head.1 ≠ number := by
          intro equal
          exact nodup.1 (List.mem_map.mpr ⟨_, inTail, equal.symm⟩)
        have kept : (head :: tail).filter (·.1 != number) =
            head :: tail.filter (·.1 != number) := by
          simp [different]
        rw [kept]
        exact ((inductionHypothesis inTail nodup.2).cons head).trans (.swap _ _ _)

end Numbered

namespace Machine

theorem mem_of_task?
    {machine : Machine}
    {number : Nat}
    {task : Task}
    (found : machine.task? number = some task) :
    (number, task) ∈ machine.tasks := by
  obtain ⟨⟨other, _⟩, foundEntry, rfl⟩ := Option.map_eq_some_iff.mp found
  have equal : other = number := by simpa using List.find?_some foundEntry
  exact equal ▸ List.mem_of_find?_eq_some foundEntry

/-- What holds of every machine that was never tampered with. -/
structure Sound (machine : Machine) : Prop where
  numbered : Numbered machine.tasks machine.nextNumber
  writes : machine.tasks.countP (·.2.isWriting) = machine.pipeline.inFlight.toNat
  halted : machine.pipeline.phase = .conflict →
    machine.pipeline.inFlight = false ∧ machine.pipeline.debounce = none

namespace Sound

variable {machine : Machine}

theorem ofDocument (config : Config) (document : Document) :
    (ofDocument config document).Sound where
  numbered := ⟨nofun, List.nodup_nil⟩
  writes := rfl
  halted _ := ⟨rfl, rfl⟩

/-- The end of a call leaves all others. -/
theorem countP_dropTask
    (sound : machine.Sound)
    {number : Nat}
    {task : Task}
    (found : machine.task? number = some task) :
    (machine.dropTask number).tasks.countP (·.2.isWriting) + task.isWriting.toNat =
      machine.pipeline.inFlight.toNat := by
  rw [← sound.writes,
    (sound.numbered.perm_filter (mem_of_task? found)).countP_eq (·.2.isWriting),
    List.countP_cons]
  cases task <;> rfl

/-- A write that has no answer yet is in flight. -/
theorem inFlight_of_writing
    (sound : machine.Sound)
    {number : Nat}
    {purpose : Purpose}
    {write : Write}
    (found : machine.task? number = some (.writing purpose write)) :
    machine.pipeline.inFlight = true := by
  have count := sound.countP_dropTask found
  cases inFlight : machine.pipeline.inFlight with
  | true => rfl
  | false => simp [inFlight] at count

/-- No write waits for its answer during a conflict. -/
theorem phase_ne_conflict_of_writing
    (sound : machine.Sound)
    {number : Nat}
    {purpose : Purpose}
    {write : Write}
    (found : machine.task? number = some (.writing purpose write)) :
    machine.pipeline.phase ≠ .conflict := by
  intro conflict
  have landed := (sound.halted conflict).1
  rw [sound.inFlight_of_writing found] at landed
  cases landed

/-- A call that has no answer yet is found by its number. -/
theorem task?_eq_some
    (sound : machine.Sound)
    {number : Nat}
    {task : Task}
    (member : (number, task) ∈ machine.tasks) :
    machine.task? number = some task := by
  cases found : machine.tasks.find? (·.1 == number) with
  | none => exact absurd (beq_self_eq_true number) (List.find?_eq_none.mp found _ member)
  | some entry =>
      have equal : entry.1 = number := by simpa using List.find?_some found
      have otherMember : (number, entry.2) ∈ machine.tasks := by
        subst equal
        exact List.mem_of_find?_eq_some found
      simp [task?, found, sound.numbered.eq_of_mem member otherMember]

/-- While nothing is in flight, no call is a write. -/
theorem not_isWriting
    (sound : machine.Sound)
    (landed : machine.pipeline.inFlight = false) :
    ∀ entry ∈ machine.tasks, entry.2.isWriting = false := by
  have none := sound.writes
  rw [landed, Bool.toNat_false, List.countP_eq_zero] at none
  intro entry member
  exact Bool.eq_false_iff.mpr (none entry member)

/-- While something is in flight, some call is a write. -/
theorem exists_writing
    (sound : machine.Sound)
    (inFlight : machine.pipeline.inFlight = true) :
    ∃ number purpose write, (number, .writing purpose write) ∈ machine.tasks := by
  have some := sound.writes
  rw [inFlight, Bool.toNat_true] at some
  obtain ⟨⟨number, task⟩, member, isWriting⟩ :=
    List.countP_pos_iff.mp (some ▸ Nat.one_pos)
  cases task with
  | fetching resolution => cases isWriting
  | writing purpose write => exact ⟨number, purpose, write, member⟩

/-- When a write is over, no other one remains. -/
theorem countP_dropTask_writing
    (sound : machine.Sound)
    {number : Nat}
    {purpose : Purpose}
    {write : Write}
    (found : machine.task? number = some (.writing purpose write)) :
    (machine.dropTask number).tasks.countP (·.2.isWriting) = 0 := by
  have count := sound.countP_dropTask found
  rw [sound.inFlight_of_writing found] at count
  simpa using count

theorem countP_dropTask_fetching
    (sound : machine.Sound)
    {number : Nat}
    {resolution : Resolution}
    (found : machine.task? number = some (.fetching resolution)) :
    (machine.dropTask number).tasks.countP (·.2.isWriting) = machine.pipeline.inFlight.toNat := by
  simpa using sound.countP_dropTask found

/-- The end of a write is not the end of a resolution. -/
theorem mem_dropTask_fetching
    (sound : machine.Sound)
    {number other : Nat}
    {purpose : Purpose}
    {write : Write}
    (found : machine.task? number = some (.writing purpose write))
    (resolution : Resolution) :
    (other, .fetching resolution) ∈ (machine.dropTask number).tasks ↔
      (other, .fetching resolution) ∈ machine.tasks := by
  refine ⟨fun kept => (List.mem_filter.mp kept).1, fun member => ?_⟩
  refine List.mem_filter.mpr ⟨member, bne_iff_ne.mpr ?_⟩
  rintro rfl
  cases sound.numbered.eq_of_mem member (mem_of_task? found)

/-- A change keeps the numbers of the calls in order. -/
theorem numbered_of_change
    (sound : machine.Sound)
    {move : Move}
    {next : Machine}
    {effects : List Effect}
    (change : Change machine move next effects) :
    Numbered next.tasks next.nextNumber := by
  cases change with
  | quiet light pipeline tasks nextNumber idle =>
      rcases tasks with same | stopped
      · exact (same ▸ sound.numbered).mono nextNumber
      · exact (stopped ▸ sound.numbered.stopped).mono nextNumber
  | save content due pipeline tasks nextNumber =>
      rw [tasks, nextNumber]
      exact sound.numbered
  | launch purpose ready write light quieted found pipeline tasks nextNumber =>
      rw [tasks, nextNumber]
      exact sound.numbered.cons _
  | fetch resolution phase pipeline tasks nextNumber =>
      rw [tasks, nextNumber]
      exact sound.numbered.cons _
  | land number purpose write reply task running pipeline tasks nextNumber =>
      rw [tasks, nextNumber]
      exact sound.numbered.filter _
  | refuse number resolution failure task pipeline tasks nextNumber =>
      rw [tasks, nextNumber]
      exact sound.numbered.filter _
  | adopt number resolution latest task lost pipeline tasks nextNumber =>
      rw [tasks, nextNumber]
      exact sound.numbered.filter _
  | resubmit number resolution latest write task found pipeline tasks nextNumber =>
      rw [tasks, nextNumber]
      exact sound.numbered.replace (sound.numbered.number_lt _ (mem_of_task? task)) _
  | forgo number resolution task pipeline tasks nextNumber =>
      rw [tasks, nextNumber]
      exact sound.numbered.filter _
  | abandon number purpose write task pipeline tasks nextNumber =>
      rw [tasks, nextNumber]
      exact sound.numbered.filter _

/-- A change marks exactly the writes that have no answer yet as in flight. -/
theorem writes_of_change
    (sound : machine.Sound)
    {move : Move}
    {next : Machine}
    {effects : List Effect}
    (change : Change machine move next effects) :
    next.tasks.countP (·.2.isWriting) = next.pipeline.inFlight.toNat := by
  cases change with
  | quiet light pipeline tasks nextNumber idle =>
      rw [pipeline.inFlight_eq, ← sound.writes]
      rcases tasks with same | stopped
      · rw [same]
      · rw [stopped, stoppedTasks, List.countP_map]
        exact List.countP_congr fun entry _ => by simp
  | save content due pipeline tasks nextNumber =>
      rw [tasks, pipeline, Pipeline.buffer_inFlight]
      exact sound.writes
  | launch purpose ready write light quieted found pipeline tasks nextNumber =>
      have landed : machine.pipeline.inFlight = false :=
        quieted.inFlight_eq ▸ (Pipeline.nextWrite?_eq_some found).2.1
      rw [tasks, pipeline, List.countP_cons, sound.writes, landed]
      rfl
  | fetch resolution phase pipeline tasks nextNumber =>
      rw [tasks, pipeline, List.countP_cons, sound.writes]
      rfl
  | land number purpose write reply task running pipeline tasks nextNumber =>
      rw [tasks, pipeline, Pipeline.land_inFlight]
      exact sound.countP_dropTask_writing task
  | refuse number resolution failure task pipeline tasks nextNumber =>
      rw [tasks, pipeline]
      exact sound.countP_dropTask_fetching task
  | adopt number resolution latest task lost pipeline tasks nextNumber =>
      rw [tasks, pipeline, Pipeline.adopt_inFlight]
      exact sound.countP_dropTask_fetching task
  | resubmit number resolution latest write task found pipeline tasks nextNumber =>
      have landed : machine.pipeline.inFlight = false :=
        (Pipeline.nextWrite?_eq_some found).2.1
      rw [tasks, pipeline, List.countP_cons, sound.countP_dropTask_fetching task, landed]
      rfl
  | forgo number resolution task pipeline tasks nextNumber =>
      rw [tasks, pipeline]
      exact sound.countP_dropTask_fetching task
  | abandon number purpose write task pipeline tasks nextNumber =>
      rw [tasks, pipeline, Pipeline.abandon_inFlight]
      exact sound.countP_dropTask_writing task

/-- A change that ends in a conflict leaves nothing in flight and no debounce timer armed. -/
theorem halted_of_change
    (sound : machine.Sound)
    {move : Move}
    {next : Machine}
    {effects : List Effect}
    (change : Change machine move next effects)
    (conflict : next.pipeline.phase = .conflict) :
    next.pipeline.inFlight = false ∧ next.pipeline.debounce = none := by
  cases change with
  | quiet light pipeline tasks nextNumber idle =>
      obtain ⟨landed, unarmed⟩ := sound.halted (pipeline.phase_eq_conflict_iff.mp conflict)
      exact ⟨pipeline.inFlight_eq.trans landed, pipeline.debounce_eq_none unarmed⟩
  | save content due pipeline tasks nextNumber =>
      rw [pipeline, Pipeline.buffer_phase_eq_conflict_iff] at conflict
      rw [pipeline, Pipeline.buffer_of_conflict conflict]
      exact sound.halted conflict
  | launch purpose ready write light quieted found pipeline tasks nextNumber =>
      rw [pipeline] at conflict
      cases conflict
  | fetch resolution phase pipeline tasks nextNumber =>
      rw [pipeline]
      exact sound.halted phase
  | land number purpose write reply task running pipeline tasks nextNumber =>
      rw [pipeline, Pipeline.land_phase_eq_conflict_iff] at conflict
      subst conflict
      rw [pipeline]
      exact ⟨rfl, rfl⟩
  | refuse number resolution failure task pipeline tasks nextNumber =>
      rw [pipeline] at conflict ⊢
      exact sound.halted conflict
  | adopt number resolution latest task lost pipeline tasks nextNumber =>
      rw [pipeline] at conflict
      cases conflict
  | resubmit number resolution latest write task found pipeline tasks nextNumber =>
      rw [pipeline] at conflict
      cases conflict
  | forgo number resolution task pipeline tasks nextNumber =>
      rw [pipeline] at conflict ⊢
      exact sound.halted conflict
  | abandon number purpose write task pipeline tasks nextNumber =>
      rw [pipeline, Pipeline.abandon_phase_eq_conflict_iff] at conflict
      rw [pipeline, Pipeline.abandon_debounce]
      exact ⟨Pipeline.abandon_inFlight _, (sound.halted conflict).2⟩

end Sound

/-- Whether somebody holds a machine, or a call that it made still waits for an answer. -/
def isNeeded (machine : Machine) : Bool :=
  machine.isHeld || !machine.tasks.isEmpty

theorem isNeeded_of_mem
    {machine : Machine}
    {entry : Nat × Task}
    (member : entry ∈ machine.tasks) :
    machine.isNeeded = true := by
  rw [isNeeded, Bool.or_eq_true, Bool.not_eq_true', List.isEmpty_eq_false_iff]
  exact .inr (List.ne_nil_of_mem member)

section Retire

variable (machine : Machine)

@[simp] theorem retire_tasks : machine.retire.tasks = machine.tasks := by
  unfold retire
  split <;> rfl

@[simp] theorem retire_nextNumber : machine.retire.nextNumber = machine.nextNumber := by
  unfold retire
  split <;> rfl

@[simp] theorem retire_phase : machine.retire.pipeline.phase = machine.pipeline.phase := by
  unfold retire
  split <;> rfl

@[simp] theorem retire_inFlight :
    machine.retire.pipeline.inFlight = machine.pipeline.inFlight := by
  unfold retire
  split <;> rfl

@[simp] theorem retire_version :
    machine.retire.pipeline.version = machine.pipeline.version := by
  unfold retire
  split <;> rfl

@[simp] theorem retire_documentId :
    machine.retire.pipeline.documentId = machine.pipeline.documentId := by
  unfold retire
  split <;> rfl

@[simp] theorem retire_project :
    machine.retire.pipeline.project = machine.pipeline.project := by
  unfold retire
  split <;> rfl

@[simp] theorem retire_pending :
    machine.retire.pipeline.pending = machine.pipeline.pending := by
  unfold retire
  split <;> rfl

@[simp] theorem retire_lastError :
    machine.retire.pipeline.lastError = machine.pipeline.lastError := by
  unfold retire
  split <;> rfl

theorem retire_debounce_eq_none
    {machine : Machine}
    (unarmed : machine.pipeline.debounce = none) :
    machine.retire.pipeline.debounce = none := by
  unfold retire
  split
  · exact unarmed
  · rfl

/-- A machine that is needed goes on. -/
theorem retire_of_isNeeded
    {machine : Machine}
    (needed : machine.isNeeded = true) :
    machine.retire = machine :=
  if_pos needed

theorem retire_of_not_isNeeded
    {machine : Machine}
    (needless : machine.isNeeded = false) :
    machine.retire =
      { machine with pipeline := { machine.pipeline with debounce := none, interval := none } } :=
  if_neg (Bool.eq_false_iff.mp needless)

@[simp] theorem retire_isNeeded : machine.retire.isNeeded = machine.isNeeded := by
  unfold retire isNeeded
  split <;> rfl

@[simp] theorem retire_retire : machine.retire.retire = machine.retire := by
  have same := machine.retire_isNeeded
  cases needed : machine.isNeeded with
  | true => rw [retire_of_isNeeded needed, retire_of_isNeeded needed]
  | false =>
      rw [retire_of_not_isNeeded (same.trans needed), retire_of_not_isNeeded needed]

/-- A machine that somebody holds goes on. -/
theorem retire_of_isHeld
    {machine : Machine}
    (held : machine.isHeld = true) :
    machine.retire = machine := by
  simp [retire, held]

end Retire

namespace Sound

variable {machine : Machine}

theorem retire (sound : machine.Sound) : machine.retire.Sound where
  numbered := by simpa using sound.numbered
  writes := by simpa using sound.writes
  halted conflict := by
    rw [retire_phase] at conflict
    obtain ⟨landed, unarmed⟩ := sound.halted conflict
    exact ⟨(retire_inFlight _).trans landed, retire_debounce_eq_none unarmed⟩

theorem change
    (sound : machine.Sound)
    {move : Move}
    {next : Machine}
    {effects : List Effect}
    (change : Change machine move next effects) :
    next.Sound :=
  ⟨sound.numbered_of_change change, sound.writes_of_change change,
    sound.halted_of_change change⟩

/-- A request keeps the books in order, whoever makes it. -/
theorem request
    (sound : machine.Sound)
    (request : Request) :
    (machine.request request).1.Sound := by
  have performed : Change machine (.request request) (machine.requestHeld request).1
      (machine.requestHeld request).2 := change_of_requestHeld rfl
  exact (sound.change performed).retire

/-- Every possible move keeps the books in order. -/
theorem move
    (sound : machine.Sound)
    {move : Move}
    {next : Machine}
    {effects : List Effect}
    (possible : machine.move? move = some (next, effects)) :
    next.Sound := by
  obtain ⟨changed, change, rfl⟩ := change_of_move? possible
  exact (sound.change change).retire

/-- The books are in order at the end of every course. -/
theorem follow
    (sound : machine.Sound)
    (moves : List Move) :
    (machine.follow moves).1.Sound :=
  follow_induction (fun kept possible => kept.move possible) moves sound

end Sound

/-- A machine is at the end of a course that began with a document just fetched. -/
def IsReachable (machine : Machine) : Prop :=
  ∃ config document moves, ((Machine.ofDocument config document).follow moves).1 = machine

theorem IsReachable.follow
    {machine : Machine}
    (reachable : machine.IsReachable)
    (moves : List Move) :
    (machine.follow moves).1.IsReachable := by
  obtain ⟨config, document, earlier, rfl⟩ := reachable
  exact ⟨config, document, earlier ++ moves, by rw [follow_append]⟩

/-- The books of every machine that can come about are in order. -/
theorem IsReachable.sound
    {machine : Machine}
    (reachable : machine.IsReachable) :
    machine.Sound := by
  obtain ⟨config, document, moves, rfl⟩ := reachable
  exact (Sound.ofDocument config document).follow moves

end Machine
end Autosave
end TwinEditor
