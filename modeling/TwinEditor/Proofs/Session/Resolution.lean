import TwinEditor.Proofs.Session.Course
import TwinEditor.Proofs.Turns

/-!
# What a resolution leaves behind

The outline of a session is always the one that a new extractor makes from the document that is
edited. While a resolution waits for the store, nothing that can be read from the session changes.
If it fails, nothing has changed. If it succeeds, the document is the one that came from the store:
only a reload replaces the text by its content, and drops what is buffered.
-/

namespace TwinEditor
namespace Session

open Autosave (Machine)

/-- Make moves one after another. A move that is impossible when it comes changes nothing. -/
def follow (session : Session) (moves : List Move) : Session :=
  takeTurns (fun session move => (session.move? move).map Prod.fst) session moves

variable {session before next : Session} {machine : Machine} {effects : List Autosave.Effect}
  {options : Markdown.Options}

/-! ## The outline -/

/-- A session whose outline is the one that a new extractor makes from the document. -/
structure Outlined (options : Markdown.Options) (session : Session) : Prop where
  options_eq : session.coordinator.options = options
  outline_eq : session.outline =
    (Outline.Extractor.start.extract session.coordinator.forms.tree).1

theorem outlined_ofDocument
    (settings : Settings)
    (document : Store.Document) :
    (ofDocument settings document).Outlined settings.markdown where
  options_eq := Sync.Coordinator.perform_options (.initial settings.markdown)
    (.syncMarkdown document.content)
  outline_eq := rfl

/-- A session is outlined when its outline has been made anew. -/
theorem outlined_refreshOutline
    (options_eq : session.coordinator.options = options) :
    session.refreshOutline.Outlined options :=
  ⟨options_eq, rfl⟩

theorem Outlined.keep
    (outlined : session.Outlined options)
    {coordinator : Sync.Coordinator}
    (keeps : session.coordinator.Keeps coordinator) :
    { session with coordinator }.Outlined options where
  options_eq := keeps.options_eq.trans outlined.options_eq
  outline_eq := by
    show session.outline = (Outline.Extractor.start.extract coordinator.forms.tree).1
    rw [keeps.forms_eq]
    exact outlined.outline_eq

theorem Outlined.finish
    (outlined : session.Outlined options)
    (call : Call)
    (ending : Ending) :
    (session.finish call ending).1.Outlined options := by
  unfold Session.finish
  split
  case h_1 resolution latest =>
    cases resolution with
    | overwrite => exact ⟨outlined.options_eq, outlined.outline_eq⟩
    | reload =>
        have options_eq := Sync.Coordinator.perform_options session.coordinator
          (.syncMarkdown latest.content)
        exact ⟨options_eq.trans outlined.options_eq, rfl⟩
  case h_2 => exact ⟨outlined.options_eq, outlined.outline_eq⟩
  case h_3 => exact ⟨outlined.options_eq, outlined.outline_eq⟩

theorem Outlined.proceed
    (outlined : session.Outlined options)
    (effects : List Autosave.Effect) :
    (session.proceed effects).1.Outlined options := by
  rcases session.proceed_eq effects with same | ⟨_, call, ending, _, _, finished⟩
  · rw [same]
    exact outlined
  · rw [finished]
    exact outlined.finish call ending

theorem Outlined.abandonCall
    (outlined : session.Outlined options)
    (number : Nat) :
    (session.abandonCall number).Outlined options := by
  unfold Session.abandonCall
  split
  · split
    · split <;> exact ⟨outlined.options_eq, outlined.outline_eq⟩
    · exact outlined
  · exact outlined

/-- Every step keeps a session outlined. -/
theorem Outlined.step
    (outlined : session.Outlined options)
    {move : Move}
    (step : session.Step move next) :
    next.Outlined options := by
  cases step with
  | keep inside keeps => exact outlined.keep keeps
  | @rewrite request coordinator options_eq free same =>
      exact outlined_refreshOutline (options_eq.trans outlined.options_eq)
  | @edit request coordinator options_eq free =>
      exact ⟨options_eq.trans outlined.options_eq, rfl⟩
  | @ask request call machineRequest idle begun unsaving =>
      have asked : { session with
          autosave := (session.autosave.request machineRequest).1
          call := some (session.autosave.nextNumber, call) }.Outlined options :=
        ⟨outlined.options_eq, outlined.outline_eq⟩
      exact asked.proceed _
  | @proceed occurrence machine effects change =>
      have changed : { session with autosave := machine.retire }.Outlined options :=
        ⟨outlined.options_eq, outlined.outline_eq⟩
      exact changed.proceed effects
  | @abandon number machine effects change =>
      have changed : { session with autosave := machine.retire }.Outlined options :=
        ⟨outlined.options_eq, outlined.outline_eq⟩
      exact changed.abandonCall number

/-- A session is sound and outlined wherever its moves lead. -/
theorem sound_and_outlined_follow
    (settings : Settings)
    (document : Store.Document)
    (moves : List Move) :
    ((ofDocument settings document).follow moves).Sound ∧
      ((ofDocument settings document).follow moves).Outlined settings.markdown := by
  refine @takeTurns_induction _ _ _
    (fun session : Session => session.Sound ∧ session.Outlined settings.markdown)
    (fun {session move next} kept possible => ?_) moves _
    ⟨sound_ofDocument settings document, outlined_ofDocument settings document⟩
  obtain ⟨⟨_, notes⟩, moved, rfl⟩ := Option.map_eq_some_iff.mp possible
  have step := kept.1.step_of_move? moved
  exact ⟨kept.1.step step, kept.2.step step⟩

/-! ## What the machine does during a move -/

/-- The end of a call does nothing to the surroundings on behalf of the machine. -/
theorem not_mem_finish
    (session : Session)
    (call : Call)
    (ending : Ending)
    (effect : Autosave.Effect) :
    .autosave effect ∉ (session.finish call ending).2 := by
  intro member
  unfold finish at member
  split at member
  case h_1 resolution latest =>
    cases resolution with
    | overwrite => cases member
    | reload =>
        obtain ⟨_, _, same⟩ := List.mem_map.mp member
        cases same
  case h_2 => cases member
  case h_3 => cases member

theorem mem_of_mem_proceed
    {effect : Autosave.Effect}
    (noted : .autosave effect ∈ (session.proceed effects).2) :
    effect ∈ effects := by
  have ofMap (member : Effect.autosave effect ∈ effects.map .autosave) : effect ∈ effects := by
    obtain ⟨_, found, same⟩ := List.mem_map.mp member
    exact Effect.autosave.inj same ▸ found
  unfold proceed at noted
  split at noted
  · exact ofMap noted
  · split at noted
    · exact ofMap noted
    · rcases List.mem_append.mp noted with machine | further
      · exact ofMap machine
      · exact absurd further (not_mem_finish _ _ _ _)

/-- An edit hands the machine nothing that it does anything about at once. -/
theorem not_mem_edit
    (session : Session)
    (call : Sync.Call)
    (effect : Autosave.Effect) :
    .autosave effect ∉ (session.edit call).2 := by
  have notPushed (notes : List Sync.Note) : .autosave effect ∉ notes.map Effect.surface := by
    intro member
    obtain ⟨_, _, same⟩ := List.mem_map.mp member
    cases same
  have notQueued (session : Session) : .autosave effect ∉ session.queue.2 := by
    unfold queue
    split <;> nofun
  intro member
  simp only [edit, sync] at member
  split at member
  · rcases List.mem_append.mp member with earlier | last
    · rcases List.mem_append.mp earlier with pushed | queued
      · exact notPushed _ pushed
      · exact notQueued _ queued
    · cases List.mem_singleton.mp last
  · rcases List.mem_append.mp member with pushed | last
    · exact notPushed _ pushed
    · cases List.mem_singleton.mp last

theorem exists_change_of_ask
    {call : Call}
    {request : Autosave.Request}
    {effect : Autosave.Effect}
    (noted : .autosave effect ∈ (session.ask call request).2) :
    ∃ move machine effects, session.autosave.Change move machine effects ∧ effect ∈ effects :=
  ⟨_, (session.autosave.requestHeld request).1, (session.autosave.requestHeld request).2,
    Machine.change_of_requestHeld rfl, mem_of_mem_proceed noted⟩

/-- What the machine does during a move, it does in a change of its own. -/
theorem exists_change_of_noted
    {move : Move}
    {notes : List Effect}
    (possible : session.move? move = some (next, notes))
    {effect : Autosave.Effect}
    (noted : .autosave effect ∈ notes) :
    ∃ machineMove machine effects, session.autosave.Change machineMove machine effects ∧
      effect ∈ effects := by
  cases move with
  | destroySurface =>
      obtain ⟨_, rfl⟩ := Prod.mk.inj (Option.some.inj possible)
      cases noted
  | occurrence occurrence =>
      obtain ⟨_, effects, occurred, course⟩ := eq_of_occur? possible
      obtain ⟨machine, needed, rfl⟩ := Machine.exists_occurNeeded?_of_occur? occurred
      refine ⟨_, machine, effects, Machine.change_of_occurNeeded? needed, ?_⟩
      rcases course with ⟨number, _, _, rfl⟩ | ⟨_, _, rfl⟩
      · obtain ⟨_, found, same⟩ := List.mem_map.mp noted
        exact Effect.autosave.inj same ▸ found
      · exact mem_of_mem_proceed noted
  | request request =>
      simp only [move?, request?] at possible
      split at possible
      case isFalse => cases possible
      case isTrue =>
        obtain rfl := congrArg Prod.snd (Option.some.inj possible)
        cases request with
        | editMarkdown text => exact absurd noted (not_mem_edit _ _ _)
        | editDocument document => exact absurd noted (not_mem_edit _ _ _)
        | bind destroyed => cases destroyed <;> simp [bind] at noted
        | flush => exact exists_change_of_ask noted
        | resolve resolution => exact exists_change_of_ask noted
        | close => exact exists_change_of_ask noted

/-! ## A resolution that waits -/

/-- A session in which a resolution that was asked for before waits for the store. Nothing that can be
read from it has changed. -/
structure Waits (before : Session) (resolution : Autosave.Resolution) (session : Session) :
    Prop where
  current : session.call = some (before.autosave.nextNumber, .resolve resolution)
  document_eq : session.document = before.document
  keeps : before.coordinator.Keeps session.coordinator
  outline_eq : session.outline = before.outline

/-- A session after a resolution was asked for and moves were made. The resolution waits as long as
a call to the store has its number, and a document that is written over has come for it. -/
structure Asked (before : Session) (resolution : Autosave.Resolution) (moves : List Move)
    (session : Session) : Prop where
  sound : session.Sound
  number_lt : before.autosave.nextNumber < session.autosave.nextNumber
  waits : ∀ task, (before.autosave.nextNumber, task) ∈ session.autosave.tasks →
    Waits before resolution session
  came : ∀ latest write,
    (before.autosave.nextNumber, .writing (.resubmit latest) write) ∈ session.autosave.tasks →
    .occurrence (.fetchReply before.autosave.nextNumber (.ok latest)) ∈ moves

variable {resolution : Autosave.Resolution} {moves : List Move}

/-- A resolution that is over waits for nothing. -/
theorem Asked.of_isOver
    (sound : session.Sound)
    (isOver : session.autosave.IsOver before.autosave.nextNumber) :
    Asked before resolution moves session where
  sound := sound
  number_lt := isOver.number_lt
  waits task member := absurd member (isOver.absent task)
  came _ _ member := absurd member (isOver.absent _)

/-- In a conflict, a resolution that is asked for calls for the document of the store. -/
theorem ask_resolve_of_conflict
    (conflict : session.autosave.pipeline.phase = .conflict)
    (resolution : Autosave.Resolution) :
    session.ask (.resolve resolution) (.resolve resolution) =
      ({ session with
          autosave := { session.autosave with
            tasks :=
              (session.autosave.nextNumber, .fetching resolution) :: session.autosave.tasks
            nextNumber := session.autosave.nextNumber + 1 }.retire
          call := some (session.autosave.nextNumber, .resolve resolution) },
        [.autosave
          (.fetchCalled session.autosave.nextNumber session.autosave.pipeline.project)]) := by
  simp [ask, Machine.request, Machine.requestHeld, Machine.takeNumber, conflict, proceed, ending?]

/-- Without a conflict, a resolution that is asked for fails at once. -/
theorem ask_resolve_of_not_conflict
    (calm : session.autosave.pipeline.phase ≠ .conflict)
    (resolution : Autosave.Resolution) :
    session.ask (.resolve resolution) (.resolve resolution) =
      ({ session with
          autosave :=
            { session.autosave with nextNumber := session.autosave.nextNumber + 1 }.retire
          call := none },
        [.autosave (.resolved session.autosave.nextNumber (.error .noConflict))]) := by
  simp [ask, Machine.request, Machine.requestHeld, Machine.takeNumber, calm, proceed, ending?,
    finish]

/-- A resolution begins to wait if there is a conflict, and is over at once if there is none. -/
theorem Sound.asked_of_ask
    (sound : before.Sound)
    (idle : before.call = none)
    (resolution : Autosave.Resolution)
    (moves : List Move) :
    Asked before resolution moves (before.ask (.resolve resolution) (.resolve resolution)).1 := by
  have asked : (before.ask (.resolve resolution) (.resolve resolution)).1.Sound :=
    sound.ask idle fun _ same => by rw [Autosave.Request.resolve.inj same]
  have unused (task : Autosave.Task) :
      (before.autosave.nextNumber, task) ∉ before.autosave.tasks := fun member =>
    Nat.lt_irrefl _ (sound.autosave.numbered.number_lt _ member)
  by_cases conflict : before.autosave.pipeline.phase = .conflict
  · rw [ask_resolve_of_conflict conflict] at asked ⊢
    refine ⟨asked, ?_, fun _ _ => ⟨rfl, rfl, .refl _, rfl⟩, fun latest write member => ?_⟩
    · simp
    · rw [Machine.retire_tasks] at member
      rcases List.mem_cons.mp member with new | older
      · cases new
      · exact absurd older (unused _)
  · rw [ask_resolve_of_not_conflict conflict] at asked ⊢
    exact .of_isOver asked ⟨by simp, by simpa using unused⟩

/-- The end of a resolution is told only while it waits. -/
theorem Asked.waits_of_resolved
    (asked : Asked before resolution moves session)
    {move : Move}
    {notes : List Effect}
    (possible : session.move? move = some (next, notes))
    {reply : Store.FetchReply}
    (resolved : .autosave (.resolved before.autosave.nextNumber reply) ∈ notes) :
    Waits before resolution session := by
  obtain ⟨_, _, _, change, member⟩ := exists_change_of_noted possible resolved
  cases change.answered_of_resolved member with
  | atOnce same => exact absurd asked.number_lt (by omega)
  | came waiting => exact asked.waits _ waiting
  | written running => exact asked.waits _ running

/-- While a resolution waits, the session takes no request. -/
theorem Waits.request?_eq_none
    (waits : Waits before resolution session)
    (request : Request) :
    session.request? request = none := by
  simp [request?, isReady, waits.current]

theorem abandonCall_of_ne
    {number other : Nat}
    {call : Call}
    (current : session.call = some (number, call))
    (differ : number ≠ other) :
    session.abandonCall other = session := by
  simp [abandonCall, current, differ]

/-- Giving up a resolution leaves the machine alone. -/
theorem autosave_abandonCall_of_resolve
    {number : Nat}
    (current : session.call = some (number, .resolve resolution)) :
    (session.abandonCall number).autosave = session.autosave := by
  simp [abandonCall, current]

/-- The end of a resolution leaves the machine alone. -/
theorem autosave_finish_resolve
    (session : Session)
    (resolution : Autosave.Resolution)
    (ending : Ending) :
    (session.finish (.resolve resolution) ending).1.autosave = session.autosave := by
  unfold finish
  split
  case h_1 other latest _ => cases other <;> rfl
  case h_2 same => cases same
  case h_3 => rfl

/-- A resolution that does not end waits on. -/
theorem Asked.change
    (asked : Asked before resolution moves session)
    (waits : Waits before resolution session)
    {occurrence : Autosave.Occurrence}
    (change : session.autosave.Change (.occurrence occurrence) machine effects)
    (made : .occurrence occurrence ∈ moves) :
    Asked before resolution moves { session with autosave := machine.retire } where
  sound := asked.sound.change change (fun _ current => current) nofun
  number_lt := by
    show before.autosave.nextNumber < machine.retire.nextNumber
    rw [Machine.retire_nextNumber]
    exact Nat.lt_of_lt_of_le asked.number_lt change.nextNumber_le
  waits _ _ := ⟨waits.current, waits.document_eq, waits.keeps, waits.outline_eq⟩
  came latest write member := by
    rw [Machine.retire_tasks] at member
    rcases change.origin_of_resubmit member with older | came
    · exact asked.came latest write older
    · exact Autosave.Move.occurrence.inj came ▸ made

/-- What happens while a resolution waits lets it wait on, or ends it when no call to the store has
its number any more. -/
theorem Asked.occur
    (asked : Asked before resolution moves session)
    (waits : Waits before resolution session)
    {occurrence : Autosave.Occurrence}
    (made : .occurrence occurrence ∈ moves)
    {notes : List Effect}
    (possible : session.occur? occurrence = some (next, notes))
    (sound : next.Sound) :
    Asked before resolution moves next := by
  obtain ⟨_, effects, occurred, course⟩ := eq_of_occur? possible
  obtain ⟨machine, needed, rfl⟩ := Machine.exists_occurNeeded?_of_occur? occurred
  have change := Machine.change_of_occurNeeded? needed
  have changed := asked.change waits change made
  have isOver (settled : ∀ task, (before.autosave.nextNumber, task) ∉ machine.tasks) :
      machine.retire.IsOver before.autosave.nextNumber :=
    ⟨changed.number_lt, by simpa using settled⟩
  have current : ({ session with autosave := machine.retire } : Session).call =
      some (before.autosave.nextNumber, .resolve resolution) := waits.current
  rcases course with ⟨number, rfl, rfl, _⟩ | ⟨_, rfl, _⟩
  · by_cases own : before.autosave.nextNumber = number
    · obtain rfl := own
      refine .of_isOver sound ?_
      rw [autosave_abandonCall_of_resolve current]
      exact isOver change.not_mem_of_cancel
    · rw [abandonCall_of_ne current own]
      exact changed
  · rcases proceed_eq { session with autosave := machine.retire } effects with
      same | ⟨number, call, ending, otherCurrent, member, finished⟩
    · rw [same]
      exact changed
    · obtain ⟨rfl, rfl⟩ := Prod.mk.inj (Option.some.inj (otherCurrent.symm.trans current))
      refine .of_isOver sound ?_
      rw [finished, autosave_finish_resolve]
      exact isOver (change.unanswered asked.sound.autosave member (ending.answered?_effect _))

/-- Every move after a resolution was asked for lets it wait on or ends it. -/
theorem Asked.kept
    (asked : Asked before resolution moves session)
    {move : Move}
    (made : move ∈ moves)
    {notes : List Effect}
    (possible : session.move? move = some (next, notes)) :
    Asked before resolution moves next := by
  have step := asked.sound.step_of_move? possible
  have sound := asked.sound.step step
  by_cases present : ∃ task, (before.autosave.nextNumber, task) ∈ session.autosave.tasks
  · obtain ⟨task, member⟩ := present
    have waits := asked.waits task member
    cases move with
    | request request =>
        rw [move?, waits.request?_eq_none request] at possible
        cases possible
    | destroySurface =>
        obtain ⟨rfl, _⟩ := Prod.mk.inj (Option.some.inj possible)
        refine ⟨sound, asked.number_lt, fun _ _ => ?_, asked.came⟩
        exact ⟨waits.current, waits.document_eq, waits.keeps.trans (.destroySurface _),
          waits.outline_eq⟩
    | occurrence occurrence => exact asked.occur waits made possible sound
  · have isOver : session.autosave.IsOver before.autosave.nextNumber :=
      ⟨asked.number_lt, fun task member => present ⟨task, member⟩⟩
    have stillOver : next.autosave.IsOver before.autosave.nextNumber :=
      step.autosave (fun change isOver => (Machine.IsOver.change isOver change).retire) isOver
    exact .of_isOver sound stillOver

/-! ## The end of a resolution -/

/-- A resolution that ends was waiting, and the store has answered the last of its calls. -/
theorem Asked.finished
    (asked : Asked before resolution moves session)
    {move : Move}
    {notes : List Effect}
    (possible : session.move? move = some (next, notes))
    {reply : Store.FetchReply}
    (resolved : .autosave (.resolved before.autosave.nextNumber reply) ∈ notes) :
    Waits before resolution session ∧
      ∃ occurrence machine effects, move = .occurrence occurrence ∧
        session.autosave.Change (.occurrence occurrence) machine effects ∧
        .resolved before.autosave.nextNumber reply ∈ effects ∧
        next = ({ session with autosave := machine.retire }.finish (.resolve resolution)
          (.resolved reply)).1 := by
  have waits := asked.waits_of_resolved possible resolved
  refine ⟨waits, ?_⟩
  cases move with
  | request request =>
      rw [move?, waits.request?_eq_none request] at possible
      cases possible
  | destroySurface =>
      obtain ⟨_, rfl⟩ := Prod.mk.inj (Option.some.inj possible)
      cases resolved
  | occurrence occurrence =>
      obtain ⟨_, effects, occurred, course⟩ := eq_of_occur? possible
      obtain ⟨machine, needed, rfl⟩ := Machine.exists_occurNeeded?_of_occur? occurred
      have change := Machine.change_of_occurNeeded? needed
      rcases course with ⟨number, rfl, _, rfl⟩ | ⟨_, rfl, rfl⟩
      · -- What is given up is not answered.
        have quiet : effects = [] := change.effects_of_cancel
        rw [quiet] at resolved
        cases resolved
      · have told := mem_of_mem_proceed resolved
        refine ⟨occurrence, machine, effects, rfl, change, told, ?_⟩
        refine @proceed_of_ending? { session with autosave := machine.retire } _ _ _ _
          waits.current ?_
        cases change.answered_of_resolved told with
        | atOnce same => exact absurd asked.number_lt (by omega)
        | came waiting move_eq effects_eq => simp [effects_eq, ending?]
        | written running effects_eq => simp [effects_eq, ending?]

/-- A document that a resolution ends with has come for it. -/
theorem Asked.came_of_finished
    (asked : Asked before resolution moves session)
    {occurrence : Autosave.Occurrence}
    (made : .occurrence occurrence ∈ moves)
    (change : session.autosave.Change (.occurrence occurrence) machine effects)
    {latest : Store.Document}
    (told : .resolved before.autosave.nextNumber (.ok latest) ∈ effects) :
    .occurrence (.fetchReply before.autosave.nextNumber (.ok latest)) ∈ moves := by
  rcases change.task_of_resolved told with ⟨_, _, came⟩ | ⟨write, running⟩
  · exact Autosave.Move.occurrence.inj came ▸ made
  · exact asked.came latest write running

/-- A reload ends with nothing buffered. -/
theorem Asked.pending_of_reload
    (asked : Asked before .reload moves session)
    {occurrence : Autosave.Occurrence}
    (change : session.autosave.Change (.occurrence occurrence) machine effects)
    {latest : Store.Document}
    (told : .resolved before.autosave.nextNumber (.ok latest) ∈ effects) :
    machine.retire.pipeline.pending = none := by
  rw [Machine.retire_pending, change.pending_eq]
  rcases change.task_of_resolved told with ⟨resolution, waiting, came⟩ | ⟨write, running⟩
  · have owner := asked.sound.owned _ _ _ waiting rfl
    have current := (asked.waits _ waiting).current
    obtain rfl := Call.resolve.inj (Prod.mk.inj (Option.some.inj (owner.symm.trans current))).2
    rw [came]
    simp [Machine.pendingAfter, asked.sound.autosave.task?_eq_some waiting]
  · have owner := asked.sound.owned _ _ _ running rfl
    have current := (asked.waits _ running).current
    cases (Prod.mk.inj (Option.some.inj (owner.symm.trans current))).2

/-- A resolution is asked for now, and the last of the moves from then on tells how it ends. -/
def Resolves
    (before : Session)
    (resolution : Autosave.Resolution)
    (later : List Move)
    (reply : Store.FetchReply)
    (after : Session) : Prop :=
  before.isReady = true ∧
    ∃ earlier last notes, .request (.resolve resolution) :: later = earlier ++ [last] ∧
      (before.follow earlier).move? last = some (after, notes) ∧
      .autosave (.resolved before.autosave.nextNumber reply) ∈ notes

/-- A resolution fails at once, with nothing changed but the number that is given next, or it waits
until the last of the moves. -/
theorem Sound.end_of_resolves
    (sound : before.Sound)
    {later : List Move}
    {reply : Store.FetchReply}
    {after : Session}
    (resolves : before.Resolves resolution later reply after) :
    (reply = .error .noConflict ∧ after.document = before.document ∧
        after.coordinator = before.coordinator ∧ after.outline = before.outline) ∨
      ∃ session occurrence machine effects, Asked before resolution later session ∧
        Waits before resolution session ∧ .occurrence occurrence ∈ later ∧
        session.autosave.Change (.occurrence occurrence) machine effects ∧
        .resolved before.autosave.nextNumber reply ∈ effects ∧
        after = ({ session with autosave := machine.retire }.finish (.resolve resolution)
          (.resolved reply)).1 := by
  obtain ⟨ready, earlier, last, notes, split, possible, resolved⟩ := resolves
  have idle : before.call = none :=
    Option.isNone_iff_eq_none.mp (Bool.and_eq_true_iff.mp ready).2
  have begun : before.move? (.request (.resolve resolution)) =
      some (before.ask (.resolve resolution) (.resolve resolution)) := by
    rw [move?, request?, if_pos ready]
  cases earlier with
  | nil =>
      obtain ⟨rfl, rfl⟩ := List.cons.inj split
      rw [follow, takeTurns, List.foldl_nil, begun] at possible
      have asked := Option.some.inj possible
      by_cases conflict : before.autosave.pipeline.phase = .conflict
      · rw [ask_resolve_of_conflict conflict] at asked
        obtain ⟨_, rfl⟩ := Prod.mk.inj asked
        cases List.mem_singleton.mp resolved
      · rw [ask_resolve_of_not_conflict conflict] at asked
        obtain ⟨rfl, rfl⟩ := Prod.mk.inj asked
        obtain ⟨_, rfl⟩ := Autosave.Effect.resolved.inj
          (Effect.autosave.inj (List.mem_singleton.mp resolved))
        exact .inl ⟨rfl, rfl, rfl, rfl⟩
  | cons first earlier =>
      obtain ⟨rfl, rfl⟩ := List.cons.inj split
      have asked : Asked before resolution (earlier ++ [last])
          (before.follow (.request (.resolve resolution) :: earlier)) := by
        rw [follow, takeTurns_cons_of_some (congrArg (Option.map Prod.fst) begun)]
        refine takeTurns_induction_of_mem earlier (fun made kept possible => ?_)
          (sound.asked_of_ask idle resolution (earlier ++ [last]))
        obtain ⟨⟨_, notes⟩, moved, rfl⟩ := Option.map_eq_some_iff.mp possible
        exact kept.kept (List.mem_append_left _ made) moved
      obtain ⟨waits, occurrence, machine, effects, rfl, change, told, afterEq⟩ :=
        asked.finished possible resolved
      exact .inr ⟨_, occurrence, machine, effects, asked, waits,
        List.mem_append_right _ List.mem_cons_self, change, told, afterEq⟩

/-- The outline of a session is always the one that a new extractor makes from the document that is
edited. A resolution that fails leaves the document, the forms and the outline as they are. One
that succeeds ends with the document that has come for it. If the text was to be kept, the forms
and the outline are as they were; if it was to be loaded, the forms are made from the content of
the document, and no change is unsaved. -/
theorem outline_fresh_and_resolutions_settle
    (settings : Settings)
    (document : Store.Document)
    (moves : List Move) :
    let session := (ofDocument settings document).follow moves
    session.outline = (Outline.Extractor.start.extract session.coordinator.forms.tree).1 ∧
    ∀ resolution later reply after, session.Resolves resolution later reply after →
      (∀ failure, reply = .error failure →
        after.document = session.document ∧
        after.coordinator.forms = session.coordinator.forms ∧
        after.outline = session.outline) ∧
      ∀ latest, reply = .ok latest →
        .occurrence (.fetchReply session.autosave.nextNumber (.ok latest)) ∈ later ∧
        after.document = latest ∧
        (resolution = .overwrite →
          after.coordinator.forms = session.coordinator.forms ∧
          after.outline = session.outline) ∧
        (resolution = .reload →
          after.coordinator.forms = .ofMarkdown settings.markdown latest.content ∧
          after.hasUnsavedChanges = false) := by
  intro session
  obtain ⟨sound, outlined⟩ : session.Sound ∧ session.Outlined settings.markdown :=
    sound_and_outlined_follow settings document moves
  refine ⟨outlined.outline_eq, fun resolution later reply after resolves => ?_⟩
  rcases sound.end_of_resolves resolves with ⟨rfl, documentEq, coordinatorEq, outlineEq⟩ |
    ⟨waiting, occurrence, machine, effects, asked, waits, made, change, told, rfl⟩
  · exact ⟨fun _ _ => ⟨documentEq, congrArg _ coordinatorEq, outlineEq⟩, nofun⟩
  · constructor
    · rintro failure rfl
      exact ⟨waits.document_eq, waits.keeps.forms_eq, waits.outline_eq⟩
    · rintro latest rfl
      refine ⟨asked.came_of_finished made change told, ?_, ?_, ?_⟩
      · cases resolution <;> rfl
      · rintro rfl
        exact ⟨waits.keeps.forms_eq, waits.outline_eq⟩
      · rintro rfl
        obtain ⟨_, rests⟩ :=
          Sync.Coordinator.rests_of_syncMarkdown asked.sound.free latest.content
        have options_eq := waits.keeps.options_eq.trans outlined.options_eq
        refine ⟨rests.forms_eq.trans (by rw [options_eq]), ?_⟩
        show machine.retire.pipeline.pending.isSome = false
        rw [asked.pending_of_reload change told]
        rfl

/-- An edit whose write the store refuses. -/
def refusedEdit : List Move :=
  [.request (.editMarkdown "mine"), .request .flush,
    .occurrence (.updateReply 0 .conflict)]

theorem outline_fresh_and_resolutions_settle_of_conflict :
    let session := (ofDocument .standard ⟨.nil, .nil, "base", 1⟩).follow refusedEdit
    let theirs : Store.Document := ⟨.nil, .nil, "theirs", 7⟩
    let came : Move := .occurrence (.fetchReply 1 (.ok theirs))
    let failed : Failure := .server 503 "busy"
    (∃ after, session.Resolves .reload [came] (.ok theirs) after ∧
      after.document = theirs ∧ after.markdown = "theirs" ∧ after.hasUnsavedChanges = false) ∧
    (∃ after,
      session.Resolves .overwrite [came, .occurrence (.updateReply 1 (.saved 8))] (.ok theirs)
        after ∧
      after.document = theirs ∧ after.markdown = "mine") ∧
    ∃ after,
      session.Resolves .reload [.occurrence (.fetchReply 1 (.error failed))] (.error failed)
        after ∧
      after.document.content = "base" ∧ after.markdown = "mine" := by
  intro session theirs came failed
  obtain ⟨-, settled⟩ :=
    outline_fresh_and_resolutions_settle .standard ⟨.nil, .nil, "base", 1⟩ refusedEdit
  obtain ⟨loaded, reloads⟩ : ∃ after, session.Resolves .reload [came] (.ok theirs) after :=
    ⟨_, rfl, [_], _, _, rfl, rfl, .head _⟩
  obtain ⟨kept, overwrites⟩ : ∃ after, session.Resolves .overwrite
      [came, .occurrence (.updateReply 1 (.saved 8))] (.ok theirs) after :=
    ⟨_, rfl, [_, _], _, _, rfl, rfl, .tail _ (.head _)⟩
  obtain ⟨same, fails⟩ : ∃ after, session.Resolves .reload
      [.occurrence (.fetchReply 1 (.error failed))] (.error failed) after :=
    ⟨_, rfl, [_], _, _, rfl, rfl, .head _⟩
  obtain ⟨_, loadedDocument, _, loadedForms⟩ := (settled _ _ _ _ reloads).2 theirs rfl
  obtain ⟨_, keptDocument, keptForms, _⟩ := (settled _ _ _ _ overwrites).2 theirs rfl
  obtain ⟨sameDocument, sameForms, _⟩ := (settled _ _ _ _ fails).1 failed rfl
  exact
    ⟨⟨loaded, reloads, loadedDocument, congrArg (·.markdown) (loadedForms rfl).1,
        (loadedForms rfl).2⟩,
      ⟨kept, overwrites, keptDocument, congrArg (·.markdown) (keptForms rfl).1⟩,
      same, fails, congrArg (·.content) sameDocument, congrArg (·.markdown) sameForms⟩

end Session
end TwinEditor
