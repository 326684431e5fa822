import TwinEditor.Proofs.Autosave.Calls
import TwinEditor.Proofs.Autosave.Conflict
import TwinEditor.Proofs.Turns

/-!
# A machine and a store whose versions grow

A machine is run together with a store that keeps one document. The version of that document
never falls, a write is accepted only under the present version, and a document that is handed
out is the present one at some moment between the call and the answer. Calls and answers may
take any time, others may write, and the store may refuse or fail whenever it likes.

The version that the machine holds never falls as long as no resolution is overtaken, that is,
gets its document after another resolution got one while both were waiting. An overtaken
resolution can take the version back.
-/

namespace TwinEditor
namespace Autosave

open Store

/-- The numbers of the resolutions that wait for their document. -/
def Machine.waiting (machine : Machine) : List Nat :=
  machine.tasks.filterMap fun
    | (number, .fetching _) => some number
    | _ => none

theorem Machine.mem_waiting
    {machine : Machine}
    {number : Nat}
    {resolution : Resolution}
    (member : (number, .fetching resolution) ∈ machine.tasks) :
    number ∈ machine.waiting :=
  List.mem_filterMap.mpr ⟨_, member, rfl⟩

/-- A machine with the store it calls. -/
structure Exchange where
  machine : Machine
  /-- The document as the store keeps it now. -/
  present : Document
  /-- The calls that the store has not taken yet. -/
  calls : List Effect
  /-- The versions and documents that are on their way to the machine. -/
  answers : List Occurrence
  /-- The resolutions that were waiting when another one got its document. -/
  overtaken : List Nat
  /-- Whether an overtaken resolution has got its document. -/
  hasSlipped : Bool

namespace Exchange

/-- What may come next for a machine and its store. -/
inductive Turn
  /-- A move of the machine, or an answer that brings no version. -/
  | move (move : Move)
  /-- Somebody else writes. -/
  | write (document : Document)
  /-- The store accepts a write that is called for and gives it a version. -/
  | accept (index : Nat) (version : Int)
  /-- The store hands out its document. -/
  | serve (index : Nat)
  /-- An answer arrives. -/
  | deliver (index : Nat)

/-- A machine whose document has just been fetched. -/
def start (config : Config) (document : Document) : Exchange where
  machine := .ofDocument config document
  present := document
  calls := []
  answers := []
  overtaken := []
  hasSlipped := false

/-- The version that the machine holds. -/
def version (exchange : Exchange) : Int :=
  exchange.machine.pipeline.version

/-- Go on with the machine after a step of it. -/
def proceed (exchange : Exchange) (machine : Machine) (effects : List Effect) : Exchange :=
  { exchange with machine, calls := effects.filter Effect.isCall ++ exchange.calls }

/-- Remember whom an arriving document overtakes. -/
def overtake (exchange : Exchange) : Occurrence → Exchange
  | .fetchReply number _ =>
      { exchange with
        overtaken := exchange.machine.waiting ++ exchange.overtaken
        hasSlipped := exchange.hasSlipped || exchange.overtaken.contains number }
  | _ => exchange

/-- What a turn does, if it is possible now. -/
def turn? (exchange : Exchange) : Turn → Option Exchange
  | .move move =>
      if move.isGrant then none
      else (exchange.machine.move? move).map fun (machine, effects) =>
        exchange.proceed machine effects
  | .write document =>
      if exchange.present.version ≤ document.version then
        some { exchange with present := document }
      else none
  | .accept index version =>
      match exchange.calls[index]? with
      | some (.updateCalled number write) =>
          if write.version = exchange.present.version ∧ exchange.present.version ≤ version then
            some { exchange with
              present := { exchange.present with content := write.content, version }
              calls := exchange.calls.eraseIdx index
              answers := .updateReply number (.saved version) :: exchange.answers }
          else none
      | _ => none
  | .serve index =>
      match exchange.calls[index]? with
      | some (.fetchCalled number _) =>
          some { exchange with
            calls := exchange.calls.eraseIdx index
            answers := .fetchReply number (.ok exchange.present) :: exchange.answers }
      | _ => none
  | .deliver index => do
      let answer ← exchange.answers[index]?
      let (machine, effects) ← exchange.machine.move? (.occurrence answer)
      return { exchange.proceed machine effects with
        answers := exchange.answers.eraseIdx index }.overtake answer

/-- Take turns one after another. -/
def follow (exchange : Exchange) (turns : List Turn) : Exchange :=
  takeTurns turn? exchange turns

theorem mem_proceed_calls
    {exchange : Exchange}
    {machine : Machine}
    {effects : List Effect}
    {call : Effect}
    (member : call ∈ (exchange.proceed machine effects).calls) :
    call ∈ effects ∨ call ∈ exchange.calls := by
  rcases List.mem_append.mp member with new | old
  · exact .inl (List.mem_filter.mp new).1
  · exact .inr old

/-- What holds of a machine and its store after any turns: the machine never holds a version
that the store has not reached, and every call and answer under way belongs to a call that the
machine made. -/
structure Sound (exchange : Exchange) : Prop where
  machine : exchange.machine.Sound
  version_le : exchange.version ≤ exchange.present.version
  updates : ∀ number write, .updateCalled number write ∈ exchange.calls →
    exchange.machine.WritesUnder number (· = write)
  fetches : ∀ number project, .fetchCalled number project ∈ exchange.calls →
    number < exchange.machine.nextNumber
  accepted : ∀ number version, .updateReply number (.saved version) ∈ exchange.answers →
    version ≤ exchange.present.version ∧
      exchange.machine.WritesUnder number (·.version ≤ version)
  served : ∀ number latest, .fetchReply number (.ok latest) ∈ exchange.answers →
    latest.version ≤ exchange.present.version ∧ number < exchange.machine.nextNumber

/-- What holds as long as no overtaken resolution has got its document: those that were not
overtaken still wait in the conflict that they began in, where the version cannot change. -/
structure Orderly (exchange : Exchange) : Prop where
  conflict : ∀ number resolution, (number, .fetching resolution) ∈ exchange.machine.tasks →
    number ∉ exchange.overtaken → exchange.machine.pipeline.phase = .conflict
  fresh : ∀ number latest resolution, .fetchReply number (.ok latest) ∈ exchange.answers →
    (number, .fetching resolution) ∈ exchange.machine.tasks → number ∉ exchange.overtaken →
      exchange.version ≤ latest.version
  presented : ∀ number purpose write,
    (number, .writing purpose write) ∈ exchange.machine.tasks → write.version = exchange.version

theorem sound_start (config : Config) (document : Document) :
    (start config document).Sound where
  machine := .ofDocument config document
  version_le := Int.le_refl _
  updates := nofun
  fetches := nofun
  accepted := nofun
  served := nofun

theorem orderly_start (config : Config) (document : Document) :
    (start config document).Orderly where
  conflict := nofun
  fresh := nofun
  presented := nofun

section Machine

variable {exchange : Exchange} {machine : Machine} {move : Move} {effects : List Effect}

/-- A step of the machine keeps what is known of the calls and answers under way. -/
theorem Sound.proceed
    (sound : exchange.Sound)
    (change : exchange.machine.Change move machine effects)
    (version_le : machine.pipeline.version ≤ exchange.present.version) :
    (exchange.proceed machine.retire effects).Sound where
  machine := (sound.machine.change change).retire
  version_le := by simpa [version, Exchange.proceed] using version_le
  updates number write member := by
    apply Machine.WritesUnder.retire
    rcases mem_proceed_calls member with new | old
    · exact .ofCall (sound.machine.change change) change new
    · exact (sound.updates number write old).change change
  fetches number project member := by
    show number < machine.retire.nextNumber
    rw [Machine.retire_nextNumber]
    rcases mem_proceed_calls member with new | old
    · exact (change.fetching_of_fetchCalled new).2.1
    · exact Nat.lt_of_lt_of_le (sound.fetches number project old) change.nextNumber_le
  accepted number version member :=
    ⟨(sound.accepted number version member).1,
      ((sound.accepted number version member).2.change change).retire⟩
  served number latest member := by
    refine ⟨(sound.served number latest member).1, ?_⟩
    show number < machine.retire.nextNumber
    rw [Machine.retire_nextNumber]
    exact Nat.lt_of_lt_of_le (sound.served number latest member).2 change.nextNumber_le

/-- A step of the machine that brings no version keeps the order of the resolutions. -/
theorem Orderly.proceed
    (orderly : exchange.Orderly)
    (sound : exchange.Sound)
    (change : exchange.machine.Change move machine effects)
    (plain : move.isGrant = false) :
    (exchange.proceed machine.retire effects).Orderly := by
  have versionEq := (change.held_of_not_isGrant plain).1
  have absent : move.bringsDocument = false := by
    cases move with
    | request request => rfl
    | occurrence occurrence =>
        cases occurrence with
        | fetchReply number reply =>
            cases reply with
            | ok latest => cases plain
            | error failure => rfl
        | _ => rfl
  -- Every resolution that waits afterwards waited before, or has just begun in a conflict.
  have waiting {number : Nat} {resolution : Resolution}
      (member : (number, .fetching resolution) ∈ machine.tasks) :
      (number, .fetching resolution) ∈ exchange.machine.tasks ∨
        number = exchange.machine.nextNumber ∧ exchange.machine.pipeline.phase = .conflict := by
    cases change.origin member with
    | old older => exact .inl older
    | fetched phase => exact .inr ⟨rfl, phase⟩
  constructor
  · intro number resolution member free
    have before : exchange.machine.pipeline.phase = .conflict := by
      rcases waiting (Machine.retire_tasks _ ▸ member) with older | ⟨_, conflict⟩
      · exact orderly.conflict number resolution older free
      · exact conflict
    show machine.retire.pipeline.phase = .conflict
    rw [Machine.retire_phase]
    exact (change.halted sound.machine before absent).1
  · intro number latest resolution answered member free
    show machine.retire.pipeline.version ≤ latest.version
    rw [Machine.retire_version, versionEq]
    rcases waiting (Machine.retire_tasks _ ▸ member) with older | ⟨new, _⟩
    · exact orderly.fresh number latest resolution answered older free
    · have given := (sound.served number latest answered).2
      omega
  · intro number purpose write member
    show write.version = machine.retire.pipeline.version
    rw [Machine.retire_version, versionEq]
    cases change.origin (Machine.retire_tasks _ ▸ member) with
    | old older => exact orderly.presented number purpose write older
    | stopped running => exact orderly.presented number .interval write running
    | launched light effects_eq documentId_eq version_eq => exact version_eq
    | resubmitted move_eq =>
        subst move_eq
        cases plain

end Machine

section Answers

variable {exchange : Exchange}

theorem Sound.dropAnswer
    (sound : exchange.Sound)
    (index : Nat) :
    { exchange with answers := exchange.answers.eraseIdx index }.Sound where
  machine := sound.machine
  version_le := sound.version_le
  updates := sound.updates
  fetches := sound.fetches
  accepted number version member :=
    sound.accepted number version (List.mem_of_mem_eraseIdx member)
  served number latest member := sound.served number latest (List.mem_of_mem_eraseIdx member)

theorem Orderly.dropAnswer
    (orderly : exchange.Orderly)
    (index : Nat) :
    { exchange with answers := exchange.answers.eraseIdx index }.Orderly where
  conflict := orderly.conflict
  fresh number latest resolution member :=
    orderly.fresh number latest resolution (List.mem_of_mem_eraseIdx member)
  presented := orderly.presented

theorem Sound.overtake
    (sound : exchange.Sound)
    (answer : Occurrence) :
    (exchange.overtake answer).Sound := by
  cases answer with
  | fetchReply =>
      exact ⟨sound.machine, sound.version_le, sound.updates, sound.fetches, sound.accepted,
        sound.served⟩
  | _ => exact sound

theorem Orderly.overtake
    (orderly : exchange.Orderly)
    (answer : Occurrence) :
    (exchange.overtake answer).Orderly := by
  cases answer with
  | fetchReply =>
      refine ⟨fun number resolution member free => ?_,
        fun number latest resolution answered member free => ?_, orderly.presented⟩
      · exact orderly.conflict number resolution member
          fun inside => free (List.mem_append_right _ inside)
      · exact orderly.fresh number latest resolution answered member
          fun inside => free (List.mem_append_right _ inside)
  | _ => exact orderly

@[simp] theorem overtake_machine (answer : Occurrence) :
    (exchange.overtake answer).machine = exchange.machine := by
  cases answer <;> rfl

@[simp] theorem overtake_version (answer : Occurrence) :
    (exchange.overtake answer).version = exchange.version := by
  rw [version, overtake_machine, version]

end Answers

section Grants

variable {exchange : Exchange} {machine : Machine} {effects : List Effect} {number : Nat}

/-- While a write has no answer, every resolution that waits has been overtaken. -/
theorem Orderly.overtaken_of_writing
    (orderly : exchange.Orderly)
    (sound : exchange.Sound)
    {purpose : Purpose}
    {write : Write}
    (running : (number, .writing purpose write) ∈ exchange.machine.tasks)
    {other : Nat}
    {resolution : Resolution}
    (waiting : (other, .fetching resolution) ∈ exchange.machine.tasks) :
    other ∈ exchange.overtaken := by
  apply Decidable.byContradiction
  intro free
  have landed := (sound.machine.halted (orderly.conflict other resolution waiting free)).1
  cases sound.machine.not_isWriting landed _ running

/-- An accepted write does not take the version back while the resolutions are in order. -/
theorem Orderly.version_le_of_saved
    (orderly : exchange.Orderly)
    (sound : exchange.Sound)
    {version : Int}
    (change : exchange.machine.Change (.occurrence (.updateReply number (.saved version)))
      machine effects)
    (answered : .updateReply number (.saved version) ∈ exchange.answers) :
    exchange.version ≤ version := by
  obtain ⟨_, purpose, write, running⟩ := change.writing_of_saved
  obtain ⟨_, _, equal, le⟩ := (sound.accepted number version answered).2.write_of_mem _ running
  obtain ⟨rfl, rfl⟩ := Task.writing.inj equal
  rw [← orderly.presented number purpose write running]
  exact le

/-- The resolutions stay in order when a write is accepted. -/
theorem Orderly.proceed_saved
    (orderly : exchange.Orderly)
    (sound : exchange.Sound)
    {version : Int}
    (change : exchange.machine.Change (.occurrence (.updateReply number (.saved version)))
      machine effects) :
    (exchange.proceed machine.retire effects).Orderly := by
  obtain ⟨landed, purpose, write, running⟩ := change.writing_of_saved
  have overtaken {other : Nat} {resolution : Resolution}
      (member : (other, .fetching resolution) ∈ machine.tasks) :
      other ∈ exchange.overtaken := by
    cases change.origin member with
    | old older => exact orderly.overtaken_of_writing sound running older
    | fetched phase =>
        cases sound.machine.not_isWriting (sound.machine.halted phase).1 _ running
  constructor
  · intro other resolution member free
    exact absurd (overtaken (Machine.retire_tasks _ ▸ member)) free
  · intro other latest resolution answered member free
    exact absurd (overtaken (Machine.retire_tasks _ ▸ member)) free
  · intro other otherPurpose otherWrite member
    cases (sound.machine.change change).not_isWriting landed _
      (Machine.retire_tasks _ ▸ member)

/-- The document that a resolution in order gets is not older than the version held. -/
theorem Orderly.version_le_of_document
    (orderly : exchange.Orderly)
    {latest : Document}
    (change : exchange.machine.Change (.occurrence (.fetchReply number (.ok latest)))
      machine effects)
    (answered : .fetchReply number (.ok latest) ∈ exchange.answers)
    (free : number ∉ exchange.overtaken) :
    exchange.version ≤ latest.version := by
  obtain ⟨resolution, waiting⟩ := change.fetching_of_document
  exact orderly.fresh number latest resolution answered waiting free

/-- The resolutions stay in order when one of them, not overtaken, gets its document. -/
theorem Orderly.overtake_proceed
    (orderly : exchange.Orderly)
    (sound : exchange.Sound)
    {latest : Document}
    (change : exchange.machine.Change (.occurrence (.fetchReply number (.ok latest)))
      machine effects)
    (free : number ∉ exchange.overtaken) :
    ((exchange.proceed machine.retire effects).overtake
      (.fetchReply number (.ok latest))).Orderly := by
  obtain ⟨resolution, waiting⟩ := change.fetching_of_document
  have landed := (sound.machine.halted (orderly.conflict number resolution waiting free)).1
  constructor
  · intro other otherResolution member notOvertaken
    exact absurd (List.mem_append_left _ (Machine.mem_waiting member)) notOvertaken
  · intro other otherLatest otherResolution answered member notOvertaken
    exact absurd (List.mem_append_left _ (Machine.mem_waiting member)) notOvertaken
  · intro other purpose write member
    show write.version = machine.retire.pipeline.version
    rw [Machine.retire_version, change.held_of_document.1]
    cases change.origin (Machine.retire_tasks _ ▸ member) with
    | old older => cases sound.machine.not_isWriting landed _ older
    | stopped running => cases sound.machine.not_isWriting landed _ running
    | launched light => cases light
    | resubmitted move_eq effects_eq older documentId_eq version_eq =>
        obtain ⟨rfl, sameReply⟩ := Occurrence.fetchReply.inj (Move.occurrence.inj move_eq)
        rw [version_eq, Except.ok.inj sameReply]

end Grants

section Turns

variable {exchange next : Exchange} {turn : Turn}

/-- An answer that arrives makes a change of the machine. -/
theorem exists_change_of_deliver
    {index : Nat}
    (possible : exchange.turn? (.deliver index) = some next) :
    ∃ answer machine effects, exchange.answers[index]? = some answer ∧
      exchange.machine.Change (.occurrence answer) machine effects ∧
      next = { exchange.proceed machine.retire effects with
        answers := exchange.answers.eraseIdx index }.overtake answer := by
  simp only [turn?, Option.bind_eq_bind, Option.bind_eq_some_iff, Option.pure_def,
    Option.some.injEq] at possible
  obtain ⟨answer, found, ⟨after, effects⟩, moved, rfl⟩ := possible
  obtain ⟨machine, change, rfl⟩ := Machine.change_of_move? moved
  exact ⟨answer, machine, effects, found, change, rfl⟩

/-- A move of the machine that brings no version makes a change of it. -/
theorem exists_change_of_move
    {move : Move}
    (possible : exchange.turn? (.move move) = some next) :
    move.isGrant = false ∧ ∃ machine effects, exchange.machine.Change move machine effects ∧
      next = exchange.proceed machine.retire effects := by
  simp only [turn?] at possible
  split at possible
  · cases possible
  case isFalse plain =>
    obtain ⟨⟨after, effects⟩, moved, rfl⟩ := Option.map_eq_some_iff.mp possible
    obtain ⟨machine, change, rfl⟩ := Machine.change_of_move? moved
    exact ⟨Bool.eq_false_iff.mpr plain, machine, effects, change, rfl⟩

/-- The store accepts only a write that is called for and presents its version. -/
theorem exists_call_of_accept
    {index : Nat}
    {version : Int}
    (possible : exchange.turn? (.accept index version) = some next) :
    ∃ number write, .updateCalled number write ∈ exchange.calls ∧
      write.version = exchange.present.version ∧ exchange.present.version ≤ version ∧
      next = { exchange with
        present := { exchange.present with content := write.content, version }
        calls := exchange.calls.eraseIdx index
        answers := .updateReply number (.saved version) :: exchange.answers } := by
  simp only [turn?] at possible
  split at possible
  case h_1 number write found =>
    split at possible
    case isTrue current =>
      exact ⟨number, write, List.mem_of_getElem? found, current.1, current.2,
        (Option.some.inj possible).symm⟩
    case isFalse => cases possible
  case h_2 => cases possible

/-- The store hands out the present document to a call for it. -/
theorem exists_call_of_serve
    {index : Nat}
    (possible : exchange.turn? (.serve index) = some next) :
    ∃ number project, .fetchCalled number project ∈ exchange.calls ∧
      next = { exchange with
        calls := exchange.calls.eraseIdx index
        answers := .fetchReply number (.ok exchange.present) :: exchange.answers } := by
  simp only [turn?] at possible
  split at possible
  case h_1 number project found =>
    exact ⟨number, project, List.mem_of_getElem? found, (Option.some.inj possible).symm⟩
  case h_2 => cases possible

theorem write_eq
    {document : Document}
    (possible : exchange.turn? (.write document) = some next) :
    exchange.present.version ≤ document.version ∧
      next = { exchange with present := document } := by
  simp only [turn?] at possible
  split at possible
  case isTrue grows => exact ⟨grows, (Option.some.inj possible).symm⟩
  case isFalse => cases possible

/-- A version that is granted is one that the store has reached. -/
theorem Sound.granted_le
    (sound : exchange.Sound)
    {answer : Occurrence}
    (answered : answer ∈ exchange.answers)
    {machine : Machine}
    {effects : List Effect}
    (change : exchange.machine.Change (.occurrence answer) machine effects) :
    machine.pipeline.version ≤ exchange.present.version := by
  have held (plain : (Move.occurrence answer).isGrant = false) :
      machine.pipeline.version ≤ exchange.present.version := by
    rw [(change.held_of_not_isGrant plain).1]
    exact sound.version_le
  cases answer with
  | updateReply number reply =>
      cases reply with
      | saved version =>
          rw [change.version_of_saved.1]
          exact (sound.accepted number version answered).1
      | conflict => exact held rfl
      | failed failure => exact held rfl
  | fetchReply number reply =>
      cases reply with
      | ok latest =>
          rw [change.held_of_document.1]
          exact (sound.served number latest answered).1
      | error failure => exact held rfl
  | _ => exact held rfl

/-- A write of somebody else keeps what is known of the calls and answers under way. -/
theorem Sound.write
    (sound : exchange.Sound)
    {document : Document}
    (grows : exchange.present.version ≤ document.version) :
    { exchange with present := document }.Sound where
  machine := sound.machine
  version_le := Int.le_trans sound.version_le grows
  updates := sound.updates
  fetches := sound.fetches
  accepted number version member := by
    obtain ⟨reached, writes⟩ := sound.accepted number version member
    exact ⟨Int.le_trans reached grows, writes⟩
  served number latest member := by
    obtain ⟨reached, given⟩ := sound.served number latest member
    exact ⟨Int.le_trans reached grows, given⟩

theorem Sound.dropCall
    (sound : exchange.Sound)
    (index : Nat) :
    { exchange with calls := exchange.calls.eraseIdx index }.Sound where
  machine := sound.machine
  version_le := sound.version_le
  updates number write member := sound.updates number write (List.mem_of_mem_eraseIdx member)
  fetches number project member := sound.fetches number project (List.mem_of_mem_eraseIdx member)
  accepted := sound.accepted
  served := sound.served

/-- The answer to a write may be sent when the store has reached its version. -/
theorem Sound.sendSaved
    (sound : exchange.Sound)
    {number : Nat}
    {version : Int}
    (reached : version ≤ exchange.present.version)
    (writes : exchange.machine.WritesUnder number (·.version ≤ version)) :
    { exchange with
      answers := .updateReply number (.saved version) :: exchange.answers }.Sound where
  machine := sound.machine
  version_le := sound.version_le
  updates := sound.updates
  fetches := sound.fetches
  accepted other otherVersion member := by
    rcases List.mem_cons.mp member with new | old
    · obtain ⟨rfl, sameReply⟩ := Occurrence.updateReply.inj new
      obtain rfl := UpdateReply.saved.inj sameReply
      exact ⟨reached, writes⟩
    · exact sound.accepted other otherVersion old
  served other latest member := by
    rcases List.mem_cons.mp member with new | old
    · cases new
    · exact sound.served other latest old

/-- The present document may be sent to a resolution. -/
theorem Sound.sendPresent
    (sound : exchange.Sound)
    {number : Nat}
    (given : number < exchange.machine.nextNumber) :
    { exchange with
      answers := .fetchReply number (.ok exchange.present) :: exchange.answers }.Sound where
  machine := sound.machine
  version_le := sound.version_le
  updates := sound.updates
  fetches := sound.fetches
  accepted other version member := by
    rcases List.mem_cons.mp member with new | old
    · cases new
    · exact sound.accepted other version old
  served other latest member := by
    rcases List.mem_cons.mp member with new | old
    · obtain ⟨rfl, sameReply⟩ := Occurrence.fetchReply.inj new
      obtain rfl := Except.ok.inj sameReply
      exact ⟨Int.le_refl _, given⟩
    · exact sound.served other latest old

/-- Every turn keeps what is known of the calls and answers under way. -/
theorem Sound.kept
    (sound : exchange.Sound)
    (possible : exchange.turn? turn = some next) :
    next.Sound := by
  cases turn with
  | move move =>
      obtain ⟨plain, machine, effects, change, rfl⟩ := exists_change_of_move possible
      apply sound.proceed change
      rw [(change.held_of_not_isGrant plain).1]
      exact sound.version_le
  | write document =>
      obtain ⟨grows, rfl⟩ := write_eq possible
      exact sound.write grows
  | accept index version =>
      obtain ⟨number, write, called, presented, grows, rfl⟩ := exists_call_of_accept possible
      have written := (sound.write (show exchange.present.version ≤
        { exchange.present with content := write.content, version }.version from grows))
      apply (written.dropCall index).sendSaved (Int.le_refl version)
      apply (sound.updates number write called).imp
      rintro _ rfl
      exact presented ▸ grows
  | serve index =>
      obtain ⟨number, project, called, rfl⟩ := exists_call_of_serve possible
      exact (sound.dropCall index).sendPresent (sound.fetches number project called)
  | deliver index =>
      obtain ⟨answer, machine, effects, found, change, rfl⟩ := exists_change_of_deliver possible
      have answered := List.mem_of_getElem? found
      exact ((sound.proceed change (sound.granted_le answered change)).dropAnswer index).overtake
        answer

/-- A slip is never forgotten. -/
theorem hasSlipped_of_turn?
    (possible : exchange.turn? turn = some next)
    (slipped : exchange.hasSlipped = true) :
    next.hasSlipped = true := by
  cases turn with
  | move move =>
      obtain ⟨_, machine, effects, _, rfl⟩ := exists_change_of_move possible
      exact slipped
  | write document =>
      obtain ⟨_, rfl⟩ := write_eq possible
      exact slipped
  | accept index version =>
      obtain ⟨number, write, _, _, _, rfl⟩ := exists_call_of_accept possible
      exact slipped
  | serve index =>
      obtain ⟨number, project, _, rfl⟩ := exists_call_of_serve possible
      exact slipped
  | deliver index =>
      obtain ⟨answer, machine, effects, _, _, rfl⟩ := exists_change_of_deliver possible
      cases answer <;> simp [overtake, proceed, slipped]

/-- An answer that arrives keeps the resolutions in order and does not take the version back, unless
it is the document of an overtaken resolution. -/
theorem Orderly.deliver
    (orderly : exchange.Orderly)
    (sound : exchange.Sound)
    {answer : Occurrence}
    (answered : answer ∈ exchange.answers)
    {machine : Machine}
    {effects : List Effect}
    (change : exchange.machine.Change (.occurrence answer) machine effects)
    (unslipped : ((exchange.proceed machine.retire effects).overtake answer).hasSlipped = false) :
    ((exchange.proceed machine.retire effects).overtake answer).Orderly ∧
      exchange.version ≤ machine.pipeline.version := by
  have ofPlain (plain : (Move.occurrence answer).isGrant = false) :
      ((exchange.proceed machine.retire effects).overtake answer).Orderly ∧
        exchange.version ≤ machine.pipeline.version :=
    ⟨(orderly.proceed sound change plain).overtake answer,
      Int.le_of_eq (change.held_of_not_isGrant plain).1.symm⟩
  cases answer with
  | updateReply number reply =>
      cases reply with
      | saved version =>
          refine ⟨(orderly.proceed_saved sound change).overtake _, ?_⟩
          rw [change.version_of_saved.1]
          exact orderly.version_le_of_saved sound change answered
      | conflict => exact ofPlain rfl
      | failed failure => exact ofPlain rfl
  | fetchReply number reply =>
      cases reply with
      | ok latest =>
          have free : number ∉ exchange.overtaken := by
            intro inside
            simp [Exchange.overtake, Exchange.proceed, inside] at unslipped
          refine ⟨orderly.overtake_proceed sound change free, ?_⟩
          rw [change.held_of_document.1]
          exact orderly.version_le_of_document change answered free
      | error failure => exact ofPlain rfl
  | _ => exact ofPlain rfl

/-- Every turn keeps the resolutions in order and does not take the version back, unless it
brings an overtaken resolution its document. -/
theorem Orderly.kept
    (orderly : exchange.Orderly)
    (sound : exchange.Sound)
    (possible : exchange.turn? turn = some next)
    (unslipped : next.hasSlipped = false) :
    next.Orderly ∧ exchange.version ≤ next.version := by
  cases turn with
  | move move =>
      obtain ⟨plain, machine, effects, change, rfl⟩ := exists_change_of_move possible
      refine ⟨orderly.proceed sound change plain, ?_⟩
      show exchange.version ≤ machine.retire.pipeline.version
      rw [Machine.retire_version, (change.held_of_not_isGrant plain).1]
      exact Int.le_refl _
  | write document =>
      obtain ⟨grows, rfl⟩ := write_eq possible
      exact ⟨⟨orderly.conflict, orderly.fresh, orderly.presented⟩, Int.le_refl _⟩
  | accept index version =>
      obtain ⟨number, write, _, _, _, rfl⟩ := exists_call_of_accept possible
      refine ⟨⟨orderly.conflict, fun other latest resolution member => ?_, orderly.presented⟩,
        Int.le_refl _⟩
      rcases List.mem_cons.mp member with new | old
      · cases new
      · exact orderly.fresh other latest resolution old
  | serve index =>
      obtain ⟨number, project, called, rfl⟩ := exists_call_of_serve possible
      refine ⟨⟨orderly.conflict, fun other latest resolution member waiting free => ?_,
        orderly.presented⟩, Int.le_refl _⟩
      rcases List.mem_cons.mp member with new | old
      · obtain ⟨rfl, sameReply⟩ := Occurrence.fetchReply.inj new
        obtain rfl := Except.ok.inj sameReply
        exact sound.version_le
      · exact orderly.fresh other latest resolution old waiting free
  | deliver index =>
      obtain ⟨answer, machine, effects, found, change, rfl⟩ := exists_change_of_deliver possible
      have answered := List.mem_of_getElem? found
      have unslippedBefore :
          ((exchange.proceed machine.retire effects).overtake answer).hasSlipped = false := by
        cases answer <;> exact unslipped
      obtain ⟨orderlyLater, le⟩ := orderly.deliver sound answered change unslippedBefore
      refine ⟨?_, ?_⟩
      · cases answer <;> exact orderlyLater.dropAnswer index
      · rw [overtake_version]
        show exchange.version ≤ machine.retire.pipeline.version
        rwa [Machine.retire_version]

end Turns

section Courses

variable {exchange : Exchange}

theorem follow_append
    (turns later : List Turn) :
    exchange.follow (turns ++ later) = (exchange.follow turns).follow later :=
  takeTurns_append exchange turns later

theorem Sound.follow
    (sound : exchange.Sound)
    (turns : List Turn) :
    (exchange.follow turns).Sound :=
  takeTurns_induction (fun kept possible => Sound.kept kept possible) turns sound

theorem hasSlipped_follow
    (slipped : exchange.hasSlipped = true)
    (turns : List Turn) :
    (exchange.follow turns).hasSlipped = true :=
  takeTurns_induction (fun kept possible => hasSlipped_of_turn? possible kept) turns slipped

/-- As long as no overtaken resolution gets its document, the resolutions stay in order and the
version never falls. -/
theorem Orderly.follow
    (orderly : exchange.Orderly)
    (sound : exchange.Sound)
    (turns : List Turn)
    (unslipped : (exchange.follow turns).hasSlipped = false) :
    (exchange.follow turns).Orderly ∧ exchange.version ≤ (exchange.follow turns).version := by
  induction turns generalizing exchange with
  | nil => exact ⟨orderly, Int.le_refl _⟩
  | cons turn turns inductionHypothesis =>
      cases possible : exchange.turn? turn with
      | none =>
          rw [Exchange.follow, takeTurns_cons_of_none possible] at unslipped ⊢
          exact inductionHypothesis orderly sound unslipped
      | some next =>
          rw [Exchange.follow, takeTurns_cons_of_some possible] at unslipped ⊢
          have unslippedNow : next.hasSlipped = false := by
            apply Bool.eq_false_iff.mpr
            intro slipped
            have slippedLater := hasSlipped_follow slipped turns
            rw [Exchange.follow, unslipped] at slippedLater
            cases slippedLater
          obtain ⟨orderlyNext, leNext⟩ := orderly.kept sound possible unslippedNow
          obtain ⟨orderlyLater, leLater⟩ :=
            inductionHypothesis orderlyNext (sound.kept possible) unslipped
          exact ⟨orderlyLater, Int.le_trans leNext leLater⟩

end Courses

section Falls

variable {exchange next : Exchange} {turn : Turn}

/-- The version falls at a turn exactly if the turn delivers a version older than the one held. -/
theorem version_lt_iff
    (possible : exchange.turn? turn = some next) :
    next.version < exchange.version ↔
      ∃ index answer version, turn = .deliver index ∧ exchange.answers[index]? = some answer ∧
        answer.granted? = some version ∧ version < exchange.version := by
  -- A turn that delivers nothing leaves the version alone.
  have ofSame (same : next.version = exchange.version) (quiet : ∀ index, turn ≠ .deliver index) :
      next.version < exchange.version ↔
        ∃ index answer version, turn = .deliver index ∧ exchange.answers[index]? = some answer ∧
          answer.granted? = some version ∧ version < exchange.version := by
    refine ⟨fun falls => absurd falls (same ▸ Int.lt_irrefl _), ?_⟩
    rintro ⟨index, _, _, equal, _⟩
    exact absurd equal (quiet index)
  cases turn with
  | move move =>
      obtain ⟨plain, machine, effects, change, rfl⟩ := exists_change_of_move possible
      refine ofSame ?_ nofun
      show machine.retire.pipeline.version = exchange.version
      rw [Machine.retire_version, (change.held_of_not_isGrant plain).1, version]
  | write document =>
      obtain ⟨_, rfl⟩ := write_eq possible
      exact ofSame rfl nofun
  | accept index version =>
      obtain ⟨_, _, _, _, _, rfl⟩ := exists_call_of_accept possible
      exact ofSame rfl nofun
  | serve index =>
      obtain ⟨_, _, _, rfl⟩ := exists_call_of_serve possible
      exact ofSame rfl nofun
  | deliver index =>
      obtain ⟨answer, machine, effects, found, change, rfl⟩ := exists_change_of_deliver possible
      have versionEq : (overtake { exchange.proceed machine.retire effects with
          answers := exchange.answers.eraseIdx index } answer).version =
            answer.granted?.getD exchange.version := by
        rw [overtake_version]
        show machine.retire.pipeline.version = answer.granted?.getD exchange.version
        rw [Machine.retire_version]
        exact change.version_eq
      rw [versionEq]
      constructor
      · intro falls
        cases granted : answer.granted? with
        | none =>
            rw [granted] at falls
            exact absurd falls (Int.lt_irrefl _)
        | some version =>
            rw [granted] at falls
            exact ⟨index, answer, version, rfl, found, granted, falls⟩
      · rintro ⟨_, other, version, equal, otherFound, granted, older⟩
        obtain rfl := Turn.deliver.inj equal
        obtain rfl := Option.some.inj (found.symm.trans otherFound)
        rw [granted]
        exact older

/-- A turn at which the version falls brings an overtaken resolution its document, unless
another one did before. -/
theorem hasSlipped_of_version_lt
    (orderly : exchange.hasSlipped = false → exchange.Orderly)
    (sound : exchange.Sound)
    (possible : exchange.turn? turn = some next)
    (falls : next.version < exchange.version) :
    next.hasSlipped = true := by
  cases slipped : exchange.hasSlipped with
  | true => exact hasSlipped_of_turn? possible slipped
  | false =>
      apply Decidable.byContradiction
      intro unslipped
      have le := ((orderly slipped).kept sound possible (Bool.eq_false_iff.mpr unslipped)).2
      exact absurd falls (Int.not_lt.mpr le)

end Falls

/-- As long as no overtaken resolution gets its document, the version that the machine holds
never falls. It falls at a turn exactly if the turn delivers a version older than the one held,
and by then an overtaken resolution has got its document. -/
theorem version_mono_of_not_hasSlipped
    (config : Config)
    (document : Document)
    (turns : List Turn) :
    (∀ later, ((start config document).follow (turns ++ later)).hasSlipped = false →
      ((start config document).follow turns).version ≤
        ((start config document).follow (turns ++ later)).version) ∧
    ∀ turn next, ((start config document).follow turns).turn? turn = some next →
      (next.version < ((start config document).follow turns).version ↔
        ∃ index answer version, turn = .deliver index ∧
          ((start config document).follow turns).answers[index]? = some answer ∧
          answer.granted? = some version ∧
          version < ((start config document).follow turns).version) ∧
      (next.version < ((start config document).follow turns).version →
        next.hasSlipped = true) := by
  have soundStart := sound_start config document
  have orderly (unslipped : ((start config document).follow turns).hasSlipped = false) :
      ((start config document).follow turns).Orderly :=
    ((orderly_start config document).follow soundStart turns unslipped).1
  refine ⟨fun later unslipped => ?_, fun turn next possible => ⟨version_lt_iff possible, ?_⟩⟩
  · rw [follow_append] at unslipped ⊢
    have unslippedBefore : ((start config document).follow turns).hasSlipped = false := by
      apply Bool.eq_false_iff.mpr
      intro slipped
      rw [hasSlipped_follow slipped] at unslipped
      cases unslipped
    exact ((orderly unslippedBefore).follow (soundStart.follow turns) later unslipped).2
  · exact hasSlipped_of_version_lt orderly (soundStart.follow turns) possible

/-- The turns by which a machine comes to wait for its document twice, after its write was
refused. -/
def twoResolutions : List Turn :=
  [.move (.request (.save "mine")), .move (.occurrence (.pass 1000)),
    .move (.occurrence .debounce), .move (.occurrence (.updateReply 0 .conflict)),
    .move (.request (.resolve .overwrite)), .move (.request (.resolve .reload)),
    .write ⟨.nil, .nil, "theirs", 5⟩, .serve 0, .serve 0]

/-- While only one of the two resolutions gets its document, the version goes up: the document is
adopted, and then the write over it is accepted. -/
theorem version_mono_of_first_resolution :
    ((start .standard ⟨.nil, .nil, "base", 1⟩).follow twoResolutions).version ≤
      ((start .standard ⟨.nil, .nil, "base", 1⟩).follow
        (twoResolutions ++ [.deliver 0, .accept 0 6, .deliver 0])).version ∧
    ∃ next, ((start .standard ⟨.nil, .nil, "base", 1⟩).follow twoResolutions).turn?
        (.deliver 0) = some next ∧
      ¬ next.version <
        ((start .standard ⟨.nil, .nil, "base", 1⟩).follow twoResolutions).version := by
  have general := version_mono_of_not_hasSlipped .standard ⟨.nil, .nil, "base", 1⟩ twoResolutions
  refine ⟨general.1 _ (by decide), _, (Option.some_get (by decide)).symm, fun falls => ?_⟩
  have slipped := (general.2 _ _ (Option.some_get (by decide)).symm).2 falls
  exact absurd slipped (by decide)

/-- The version falls when the other resolution gets its document as well, which is older than the
write that has been accepted since. -/
theorem version_falls_after_second_resolution :
    ((start .standard ⟨.nil, .nil, "base", 1⟩).follow
      (twoResolutions ++ [.deliver 0, .accept 0 6, .deliver 0])).version = 6 ∧
    ((start .standard ⟨.nil, .nil, "base", 1⟩).follow
      (twoResolutions ++ [.deliver 0, .accept 0 6, .deliver 0, .deliver 0])).version = 5 := by
  decide

end Exchange
end Autosave
end TwinEditor
