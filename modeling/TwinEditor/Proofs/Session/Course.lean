import TwinEditor.Proofs.Autosave.Buffer
import TwinEditor.Proofs.Autosave.Conflict
import TwinEditor.Proofs.Sync.Latch
import TwinEditor.Session

/-!
# Courses of a session

Between two moves of a session the latch is free, the text has been handed over, and a
resolution that waits for the store is the call that is not over. While it waits the session
takes no request, so the conflict stays and nothing is in flight until the document comes.
-/

namespace TwinEditor
namespace Session

open Autosave (Machine)

/-- What may come next for a session. -/
inductive Move
  | request (request : Request)
  | occurrence (occurrence : Autosave.Occurrence)
  /-- The bound surface is gone from now on. -/
  | destroySurface

/-- What a move does, if it is possible now. -/
def move? (session : Session) : Move → Option (Session × List Effect)
  | .request request => session.request? request
  | .occurrence occurrence => session.occur? occurrence
  | .destroySurface => some (session.destroySurface, [])

/-- The call of a session that a call to the store belongs to, if it is a resolution. -/
def owner? : Autosave.Task → Option Call
  | .fetching resolution => some (.resolve resolution)
  | .writing (.resubmit _) _ => some (.resolve .overwrite)
  | .writing _ _ => none

/-- What holds of a session between two moves. -/
structure Sound (session : Session) : Prop where
  free : session.coordinator.isSyncing = false
  saved : session.savedContent = session.markdown
  autosave : session.autosave.Sound
  buffers : session.autosave.Buffers
  owned : ∀ number task call, (number, task) ∈ session.autosave.tasks →
    owner? task = some call → session.call = some (number, call)
  conflict : ∀ number resolution, (number, .fetching resolution) ∈ session.autosave.tasks →
    session.autosave.pipeline.phase = .conflict

variable {session : Session} {machine : Machine} {move : Autosave.Move}
  {effects : List Autosave.Effect}

/-- While a resolution waits, nothing is in flight. -/
theorem Sound.landed
    (sound : session.Sound)
    {number : Nat}
    {resolution : Autosave.Resolution}
    (waiting : (number, .fetching resolution) ∈ session.autosave.tasks) :
    session.autosave.pipeline.inFlight = false :=
  (sound.autosave.halted (sound.conflict number resolution waiting)).1

/-- A call to the store that belongs to a resolution belonged to it before, or the resolution
has just begun. -/
theorem Sound.owned_of_change
    (sound : session.Sound)
    (change : session.autosave.Change move machine effects)
    {number : Nat}
    {task : Autosave.Task}
    {call : Call}
    (member : (number, task) ∈ machine.tasks)
    (owner : owner? task = some call) :
    session.call = some (number, call) ∨
      number = session.autosave.nextNumber ∧
        ∃ resolution, move = .request (.resolve resolution) ∧ call = .resolve resolution := by
  cases change.origin member with
  | old older => exact .inl (sound.owned number task call older owner)
  | stopped running => cases owner
  | @launched purpose write light effects_eq documentId_eq version_eq unresolved =>
      cases purpose with
      | resubmit latest => exact absurd rfl (unresolved latest)
      | _ => cases owner
  | @fetched resolution phase effects_eq move_eq =>
      exact .inr ⟨rfl, resolution, move_eq, (Option.some.inj owner).symm⟩
  | resubmitted move_eq effects_eq waiting =>
      exact .inl (sound.owned number _ call waiting owner)

/-- A resolution that waits after a change waits in a conflict. -/
theorem Sound.conflict_of_change
    (sound : session.Sound)
    (change : session.autosave.Change move machine effects)
    {number : Nat}
    {resolution : Autosave.Resolution}
    (member : (number, .fetching resolution) ∈ machine.tasks) :
    machine.pipeline.phase = .conflict := by
  cases change.origin member with
  | fetched phase effects_eq move_eq =>
      exact (change.halted sound.autosave phase (move_eq ▸ rfl)).1
  | old older =>
      refine (change.halted sound.autosave (sound.conflict number resolution older) ?_).1
      -- The document can only come for the one resolution that waits, which is then over.
      cases absent : move.bringsDocument with
      | false => rfl
      | true =>
          obtain ⟨other, latest, rfl⟩ : ∃ other latest,
              move = .occurrence (.fetchReply other (.ok latest)) := by
            unfold Autosave.Move.bringsDocument at absent
            split at absent
            · exact ⟨_, _, rfl⟩
            · cases absent
          obtain ⟨otherResolution, waiting⟩ := change.fetching_of_document
          have current := sound.owned number _ _ older rfl
          have otherCurrent := sound.owned other _ _ waiting rfl
          obtain ⟨rfl, _⟩ := Prod.mk.inj (Option.some.inj (current.symm.trans otherCurrent))
          exact absurd member (change.not_fetching_of_document resolution)

/-- A change of the machine keeps the session sound if the call that is not over stays, and a
resolution that begins becomes it. -/
theorem Sound.change
    (sound : session.Sound)
    (change : session.autosave.Change move machine effects)
    {call : Option (Nat × Call)}
    (kept : ∀ entry, session.call = some entry → call = some entry)
    (begun : ∀ resolution, move = .request (.resolve resolution) →
      call = some (session.autosave.nextNumber, .resolve resolution)) :
    { session with autosave := machine.retire, call }.Sound where
  free := sound.free
  saved := sound.saved
  autosave := (sound.autosave.change change).retire
  buffers := (sound.buffers.change change fun _ waiting => sound.landed waiting).retire
  owned number task owning member owner := by
    rcases sound.owned_of_change change (Machine.retire_tasks _ ▸ member) owner with
      current | ⟨rfl, resolution, move_eq, rfl⟩
    · exact kept _ current
    · exact begun resolution move_eq
  conflict number resolution member := by
    show machine.retire.pipeline.phase = .conflict
    rw [Machine.retire_phase]
    exact sound.conflict_of_change change (Machine.retire_tasks _ ▸ member)

/-- A request to the machine that begins no resolution keeps the session sound. -/
theorem Sound.request
    (sound : session.Sound)
    (request : Autosave.Request)
    (plain : ∀ resolution, request ≠ .resolve resolution) :
    { session with autosave := (session.autosave.request request).1 }.Sound :=
  sound.change (Machine.change_of_requestHeld rfl) (fun _ current => current)
    fun resolution equal => absurd (Autosave.Move.request.inj equal) (plain resolution)

/-- A call may end when no call to the store has its number. -/
theorem Sound.endCall
    (sound : session.Sound)
    {number : Nat}
    {call : Call}
    (current : session.call = some (number, call))
    (settled : ∀ task, (number, task) ∉ session.autosave.tasks) :
    { session with call := none }.Sound where
  free := sound.free
  saved := sound.saved
  autosave := sound.autosave
  buffers := sound.buffers
  owned other task owning member owner := by
    have otherCurrent := sound.owned other task owning member owner
    obtain ⟨rfl, _⟩ := Prod.mk.inj (Option.some.inj (current.symm.trans otherCurrent))
    exact absurd member (settled task)
  conflict := sound.conflict

/-- Giving the machine up keeps the session sound. -/
theorem Sound.leave (sound : session.Sound) : session.leave.Sound := by
  have stopped := sound.request .shutdown nofun
  have released := stopped.request .release nofun
  exact ⟨released.free, released.saved, released.autosave, released.buffers, released.owned,
    released.conflict⟩

/-- Adopting a document keeps the session sound. -/
theorem Sound.adopt
    (sound : session.Sound)
    (resolution : Autosave.Resolution)
    (latest : Store.Document) :
    (session.adopt resolution latest).1.Sound := by
  cases resolution with
  | overwrite =>
      exact ⟨sound.free, sound.saved, sound.autosave, sound.buffers, sound.owned, sound.conflict⟩
  | reload =>
      obtain ⟨_, rests⟩ := Sync.Coordinator.rests_of_syncMarkdown sound.free latest.content
      exact ⟨rests.isSyncing_eq, rfl, sound.autosave, sound.buffers, sound.owned, sound.conflict⟩

/-- The end of a call keeps the session sound. -/
theorem Sound.finish
    (sound : session.Sound)
    {number : Nat}
    {call : Call}
    (current : session.call = some (number, call))
    (settled : ∀ task, (number, task) ∉ session.autosave.tasks)
    (ending : Ending) :
    (session.finish call ending).1.Sound := by
  have ended := sound.endCall current settled
  unfold Session.finish
  split
  · exact ended.adopt _ _
  · exact ended.leave
  · exact ended

/-- The effect that a call ends by. -/
def Ending.effect (number : Nat) : Ending → Autosave.Effect
  | .attempted attempt => .attempted number attempt
  | .resolved reply => .resolved number reply

@[simp] theorem Ending.answered?_effect (number : Nat) (ending : Ending) :
    (ending.effect number).answered? = some number := by
  cases ending <;> rfl

/-- A call ends only by an effect that answers it. -/
theorem effect_mem_of_ending?
    {number : Nat}
    {ending : Ending}
    (found : ending? number effects = some ending) :
    ending.effect number ∈ effects := by
  induction effects with
  | nil => cases found
  | cons effect rest inductionHypothesis =>
      have inRest (skipped : ending? number rest = some ending) :
          ending.effect number ∈ effect :: rest :=
        List.mem_cons_of_mem _ (inductionHypothesis skipped)
      cases effect with
      | attempted other attempt =>
          rw [ending?] at found
          split at found
          case isTrue same =>
            obtain rfl := Option.some.inj found
            exact same ▸ List.mem_cons_self
          case isFalse => exact inRest found
      | resolved other reply =>
          rw [ending?] at found
          split at found
          case isTrue same =>
            obtain rfl := Option.some.inj found
            exact same ▸ List.mem_cons_self
          case isFalse => exact inRest found
      | updateCalled | fetchCalled | announced => exact inRest found

/-- Going on after a step of the machine leaves the session alone, or ends the call that is
answered. -/
theorem proceed_eq (session : Session) (effects : List Autosave.Effect) :
    (session.proceed effects).1 = session ∨
      ∃ number call ending, session.call = some (number, call) ∧
        ending.effect number ∈ effects ∧
        (session.proceed effects).1 = (session.finish call ending).1 := by
  unfold proceed
  split
  · exact .inl rfl
  case h_2 number call current =>
    split
    · exact .inl rfl
    case h_2 ending found =>
      exact .inr ⟨number, call, ending, current, effect_mem_of_ending? found, rfl⟩

/-- The current call ends when the machine answers it. -/
theorem proceed_of_ending?
    {number : Nat}
    {call : Call}
    {ending : Ending}
    (current : session.call = some (number, call))
    (found : ending? number effects = some ending) :
    (session.proceed effects).1 = (session.finish call ending).1 := by
  simp [proceed, current, found]

theorem proceed_of_resolved
    {number : Nat}
    {call : Call}
    (current : session.call = some (number, call))
    (reply : Store.FetchReply) :
    (session.proceed [.resolved number reply]).1 =
      (session.finish call (.resolved reply)).1 :=
  proceed_of_ending? current (by simp [ending?])

/-- Going on after a step of the machine keeps the session sound. -/
theorem Sound.proceed
    (sound : session.Sound)
    (settled : ∀ effect ∈ effects, ∀ number, effect.answered? = some number →
      ∀ task, (number, task) ∉ session.autosave.tasks) :
    (session.proceed effects).1.Sound := by
  rcases session.proceed_eq effects with same | ⟨number, call, ending, current, member, finished⟩
  · rw [same]
    exact sound
  · rw [finished]
    exact sound.finish current (settled _ member number (ending.answered?_effect number)) ending

/-- What a move can do to a session between two moves. -/
inductive Step (session : Session) : Move → Session → Prop
  /-- Only the surface changes. -/
  | keep
      {move : Move} {coordinator : Sync.Coordinator}
      (inside : ∀ occurrence, move ≠ .occurrence occurrence)
      (keeps : session.coordinator.Keeps coordinator) :
      Step session move { session with coordinator }
  /-- An edit leaves the text as it is, and the outline is made anew. -/
  | rewrite
      {request : Request} {coordinator : Sync.Coordinator}
      (options_eq : coordinator.options = session.coordinator.options)
      (free : coordinator.isSyncing = false)
      (same : coordinator.forms.markdown = session.markdown) :
      Step session (.request request) { session with coordinator }.refreshOutline
  /-- An edit changes the text, which is handed to the machine, and the outline is made anew. -/
  | edit
      {request : Request} {coordinator : Sync.Coordinator}
      (options_eq : coordinator.options = session.coordinator.options)
      (free : coordinator.isSyncing = false) :
      Step session (.request request)
        { { session with coordinator }.refreshOutline with
          autosave := (session.autosave.request (.save coordinator.forms.markdown)).1
          savedContent := coordinator.forms.markdown }
  /-- The machine is asked for something that the store may have to answer first. -/
  | ask
      {request : Request} {call : Call} {machineRequest : Autosave.Request}
      (idle : session.call = none)
      (begun : ∀ resolution, machineRequest = .resolve resolution → call = .resolve resolution)
      (unsaving : ∀ content, machineRequest ≠ .save content) :
      Step session (.request request) (session.ask call machineRequest).1
  /-- The session goes on with what happens to the machine. -/
  | proceed
      {occurrence : Autosave.Occurrence} {machine : Machine} {effects : List Autosave.Effect}
      (change : session.autosave.Change (.occurrence occurrence) machine effects) :
      Step session (.occurrence occurrence)
        ({ session with autosave := machine.retire }.proceed effects).1
  /-- A call is given up. -/
  | abandon
      {number : Nat} {machine : Machine} {effects : List Autosave.Effect}
      (change : session.autosave.Change (.occurrence (.cancel number)) machine effects) :
      Step session (.occurrence (.cancel number))
        ({ session with autosave := machine.retire }.abandonCall number)

/-- A session goes on with what happens to its machine, or gives up a call. -/
theorem eq_of_occur?
    {next : Session}
    {occurrence : Autosave.Occurrence}
    {notes : List Effect}
    (possible : session.occur? occurrence = some (next, notes)) :
    ∃ machine effects, session.autosave.occur? occurrence = some (machine, effects) ∧
      ((∃ number, occurrence = .cancel number ∧
          next = { session with autosave := machine }.abandonCall number ∧
          notes = effects.map .autosave) ∨
        (∀ number, occurrence ≠ .cancel number) ∧
          next = ({ session with autosave := machine }.proceed effects).1 ∧
          notes = ({ session with autosave := machine }.proceed effects).2) := by
  simp only [occur?, Option.bind_eq_bind, Option.bind_eq_some_iff, Option.pure_def] at possible
  obtain ⟨⟨machine, effects⟩, occurred, possible⟩ := possible
  refine ⟨machine, effects, occurred, ?_⟩
  split at possible
  case h_1 number =>
    obtain ⟨nextEq, notesEq⟩ := Prod.mk.inj (Option.some.inj possible)
    exact .inl ⟨number, rfl, nextEq.symm, notesEq.symm⟩
  case h_2 uncancelled =>
    have proceeded := Option.some.inj possible
    exact .inr ⟨uncancelled, (congrArg Prod.fst proceeded).symm,
      (congrArg Prod.snd proceeded).symm⟩

/-- An edit that is applied under a free latch either leaves the text as it is or hands it over. -/
theorem Sound.step_of_edit
    (sound : session.Sound)
    {request : Request}
    {call : Sync.Call}
    {editor : Sync.Editor}
    (applied : (Sync.Coordinator.perform call session.coordinator).2.1 = .synced (.applied editor))
    (free : (Sync.Coordinator.perform call session.coordinator).1.isSyncing = false) :
    session.Step (.request request) (session.edit call).1 := by
  have options_eq := Sync.Coordinator.perform_options session.coordinator call
  simp only [Session.edit, sync, applied, queue]
  split
  case isTrue same => exact .rewrite options_eq free (same.trans sound.saved)
  case isFalse => exact .edit options_eq free

/-- Every possible move is a step. -/
theorem Sound.step_of_move?
    (sound : session.Sound)
    {move : Move}
    {next : Session}
    {notes : List Effect}
    (possible : session.move? move = some (next, notes)) :
    session.Step move next := by
  cases move with
  | destroySurface =>
      obtain ⟨rfl, _⟩ := Prod.mk.inj (Option.some.inj possible)
      exact .keep (fun _ same => by cases same) (.destroySurface _)
  | occurrence occurrence =>
      obtain ⟨_, effects, occurred, course⟩ := eq_of_occur? possible
      obtain ⟨machine, needed, rfl⟩ := Machine.exists_occurNeeded?_of_occur? occurred
      have change := Machine.change_of_occurNeeded? needed
      rcases course with ⟨number, rfl, rfl, _⟩ | ⟨_, rfl, _⟩
      · exact .abandon change
      · exact .proceed change
  | request request =>
      simp only [move?, request?] at possible
      split at possible
      case isFalse => cases possible
      case isTrue ready =>
        have idle : session.call = none :=
          Option.isNone_iff_eq_none.mp (Bool.and_eq_true_iff.mp ready).2
        obtain rfl : next = _ := (congrArg Prod.fst (Option.some.inj possible)).symm
        cases request with
        | editMarkdown text =>
            obtain ⟨applied, rests⟩ := Sync.Coordinator.rests_of_syncMarkdown sound.free text
            exact sound.step_of_edit applied rests.isSyncing_eq
        | editDocument document =>
            obtain ⟨applied, rests⟩ :=
              Sync.Coordinator.rests_of_syncDocument sound.free (.done document)
            exact sound.step_of_edit applied rests.isSyncing_eq
        | bind destroyed => exact .keep (fun _ same => by cases same) (.bind _ _)
        | flush => exact .ask idle (fun _ same => by cases same) (fun _ same => by cases same)
        | resolve resolution =>
            exact .ask idle (fun other same => by rw [Autosave.Request.resolve.inj same])
              (fun _ same => by cases same)
        | close => exact .ask idle (fun _ same => by cases same) (fun _ same => by cases same)

theorem queue_coordinator (session : Session) :
    session.queue.1.coordinator = session.coordinator := by
  unfold queue
  split <;> rfl

/-- An edit gives the session the forms that the coordinator takes, whatever is handed over. -/
theorem edit_coordinator (session : Session) (call : Sync.Call) :
    (session.edit call).1.coordinator = (Sync.Coordinator.perform call session.coordinator).1 := by
  simp only [Session.edit, sync]
  split
  · exact queue_coordinator _
  · rfl

/-- A session that is ready takes an edit in Markdown, which becomes its text. -/
theorem Sound.exists_editMarkdown
    (sound : session.Sound)
    (ready : session.isReady = true)
    (text : String) :
    ∃ next notes, session.move? (.request (.editMarkdown text)) = some (next, notes) ∧
      next.markdown = text := by
  obtain ⟨_, rests⟩ := Sync.Coordinator.rests_of_syncMarkdown sound.free text
  refine ⟨(session.edit (.syncMarkdown text)).1, (session.edit (.syncMarkdown text)).2, ?_, ?_⟩
  · rw [move?, request?, if_pos ready]
  · rw [markdown, edit_coordinator, rests.forms_eq]
    rfl

/-- A session that is ready takes an edited document, and the Markdown of it becomes its text. -/
theorem Sound.exists_editDocument
    (sound : session.Sound)
    (ready : session.isReady = true)
    (document : RichText.Document) :
    ∃ next notes, session.move? (.request (.editDocument document)) = some (next, notes) ∧
      next.markdown = document.toMarkdown.toMarkdown := by
  obtain ⟨_, rests⟩ := Sync.Coordinator.rests_of_syncDocument sound.free (.done document)
  refine ⟨(session.edit (.syncDocument (.done document))).1,
    (session.edit (.syncDocument (.done document))).2, ?_, ?_⟩
  · rw [move?, request?, if_pos ready]
  · rw [markdown, edit_coordinator, rests.forms_eq]
    rfl

/-! ## Steps keep a session sound -/

/-- A call that has just begun is sound even before the session goes on. -/
theorem Sound.asked
    (sound : session.Sound)
    (idle : session.call = none)
    {call : Call}
    {request : Autosave.Request}
    (begun : ∀ resolution, request = .resolve resolution → call = .resolve resolution) :
    { session with
      autosave := (session.autosave.request request).1
      call := some (session.autosave.nextNumber, call) }.Sound := by
  refine sound.change (Machine.change_of_requestHeld rfl) (fun _ current => ?_)
    fun resolution equal => ?_
  · rw [idle] at current
    cases current
  · rw [begun resolution (Autosave.Move.request.inj equal)]

/-- A request to the machine that the store may have to answer first keeps the session sound. -/
theorem Sound.ask
    (sound : session.Sound)
    (idle : session.call = none)
    {call : Call}
    {request : Autosave.Request}
    (begun : ∀ resolution, request = .resolve resolution → call = .resolve resolution) :
    (session.ask call request).1.Sound := by
  have change : session.autosave.Change (.request request) (session.autosave.requestHeld request).1
      (session.autosave.requestHeld request).2 := Machine.change_of_requestHeld rfl
  apply (sound.asked idle begun).proceed
  intro effect member number answered task
  show (number, task) ∉ (session.autosave.requestHeld request).1.retire.tasks
  rw [Machine.retire_tasks]
  exact change.unanswered sound.autosave member answered task

/-- What happens to the surface keeps the session sound. -/
theorem Sound.keep
    (sound : session.Sound)
    {coordinator : Sync.Coordinator}
    (keeps : session.coordinator.Keeps coordinator) :
    { session with coordinator }.Sound where
  free := keeps.isSyncing_eq.trans sound.free
  saved := by
    show session.savedContent = coordinator.forms.markdown
    rw [keeps.forms_eq]
    exact sound.saved
  autosave := sound.autosave
  buffers := sound.buffers
  owned := sound.owned
  conflict := sound.conflict

/-- Giving up a call whose calls to the store are over keeps the session sound. -/
theorem Sound.abandonCall
    (sound : session.Sound)
    {number : Nat}
    (settled : ∀ task, (number, task) ∉ session.autosave.tasks) :
    (session.abandonCall number).Sound := by
  unfold Session.abandonCall
  split
  case h_1 current call found =>
    split
    case isTrue same =>
      have ended := sound.endCall found (same ▸ settled)
      split
      · have released := ended.request .release nofun
        exact ⟨released.free, released.saved, released.autosave, released.buffers, released.owned,
          released.conflict⟩
      · exact ended
    case isFalse => exact sound
  case h_2 => exact sound

/-- Every step keeps the session sound. -/
theorem Sound.step
    (sound : session.Sound)
    {move : Move}
    {next : Session}
    (step : session.Step move next) :
    next.Sound := by
  cases step with
  | keep inside keeps => exact sound.keep keeps
  | rewrite options_eq free same =>
      exact ⟨free, sound.saved.trans same.symm, sound.autosave, sound.buffers, sound.owned,
        sound.conflict⟩
  | @edit request coordinator options_eq free =>
      have saved := sound.request (.save coordinator.forms.markdown) nofun
      exact ⟨free, rfl, saved.autosave, saved.buffers, saved.owned, saved.conflict⟩
  | ask idle begun unsaving => exact sound.ask idle begun
  | @proceed occurrence machine effects change =>
      have changed : { session with autosave := machine.retire }.Sound :=
        sound.change change (fun _ current => current) nofun
      apply changed.proceed
      intro effect member number answered task
      show (number, task) ∉ machine.retire.tasks
      rw [Machine.retire_tasks]
      exact change.unanswered sound.autosave member answered task
  | @abandon number machine effects change =>
      have changed : { session with autosave := machine.retire }.Sound :=
        sound.change change (fun _ current => current) nofun
      apply changed.abandonCall
      intro task
      show (number, task) ∉ machine.retire.tasks
      rw [Machine.retire_tasks]
      exact change.not_mem_of_cancel task

/-! ## Steps are changes of the machine -/

section Machines

variable {property : Machine → Prop}
  (kept : ∀ {before move after effects}, Machine.Change before move after effects →
    property before → property after.retire)

include kept

/-- What changes keep is kept by requests. -/
theorem autosave_of_request
    (request : Autosave.Request)
    (holds : property machine) :
    property (machine.request request).1 :=
  kept (Machine.change_of_requestHeld rfl) holds

theorem autosave_of_finish
    (call : Call)
    (ending : Ending)
    (holds : property session.autosave) :
    property (session.finish call ending).1.autosave := by
  unfold Session.finish
  split
  case h_1 resolution latest => cases resolution <;> exact holds
  case h_2 => exact autosave_of_request kept .release (autosave_of_request kept .shutdown holds)
  case h_3 => exact holds

/-- What changes of the machine keep is kept when the session goes on. -/
theorem autosave_of_proceed
    (holds : property session.autosave) :
    property (session.proceed effects).1.autosave := by
  rcases session.proceed_eq effects with same | ⟨_, call, ending, _, _, finished⟩
  · rw [same]
    exact holds
  · rw [finished]
    exact autosave_of_finish kept call ending holds

/-- What changes of the machine keep is kept by every step of the session. -/
theorem Step.autosave
    {move : Move}
    {next : Session}
    (step : session.Step move next)
    (holds : property session.autosave) :
    property next.autosave := by
  cases step with
  | keep inside keeps => exact holds
  | rewrite options_eq free same => exact holds
  | @edit request coordinator options_eq free =>
      exact autosave_of_request kept (.save coordinator.forms.markdown) holds
  | ask idle begun unsaving =>
      exact autosave_of_proceed kept (autosave_of_request kept _ holds)
  | proceed change => exact autosave_of_proceed kept (kept change holds)
  | abandon change =>
      have changed := kept change holds
      unfold Session.abandonCall
      split
      · split
        · split
          · exact autosave_of_request kept .release changed
          · exact changed
        · exact changed
      · exact changed

end Machines

/-- A session is sound when it begins. -/
theorem sound_ofDocument
    (settings : Settings)
    (document : Store.Document) :
    (ofDocument settings document).Sound := by
  obtain ⟨_, rests⟩ := Sync.Coordinator.rests_of_syncMarkdown
    (show (Sync.Coordinator.initial settings.markdown).isSyncing = false from rfl) document.content
  have started := (Machine.Sound.ofDocument (.ofSettings settings.autosave) document).request .start
  exact ⟨rests.isSyncing_eq, congrArg Sync.Forms.markdown rests.forms_eq.symm, started,
    nofun, nofun, nofun⟩

end Session
end TwinEditor
