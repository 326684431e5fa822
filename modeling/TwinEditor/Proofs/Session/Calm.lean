import TwinEditor.Proofs.Autosave.Purpose
import TwinEditor.Proofs.Session.Course

/-!
# Sessions that meet no setback

As long as no write is refused, an open session has no conflict to resolve, and every call to the
store is a write: one that a timer has begun, or the one that the call which is not over waits
for. So when the session is ready for the next request, at most one write is in flight, and a
timer has begun it.
-/

namespace TwinEditor

namespace Autosave

/-- A conflict begins with a write that is refused. -/
theorem Machine.Change.phase_ne_conflict
    {machine next : Machine}
    {move : Move}
    {effects : List Effect}
    (change : Change machine move next effects)
    (calm : machine.pipeline.phase ≠ .conflict)
    (unrefused : ∀ number, move ≠ .occurrence (.updateReply number .conflict)) :
    next.pipeline.phase ≠ .conflict := by
  cases change with
  | quiet light pipeline => rwa [ne_eq, pipeline.phase_eq_conflict_iff]
  | save content due pipeline => rwa [pipeline, ne_eq, Pipeline.buffer_phase_eq_conflict_iff]
  | launch purpose ready write light quieted found pipeline =>
      rw [pipeline]
      nofun
  | fetch resolution phase => exact absurd phase calm
  | land number purpose write reply running stopped pipeline =>
      rw [pipeline, ne_eq, Pipeline.land_phase_eq_conflict_iff]
      rintro rfl
      exact unrefused number rfl
  | refuse number resolution failure waiting pipeline => rwa [pipeline]
  | adopt number resolution latest waiting lost pipeline =>
      rw [pipeline]
      nofun
  | resubmit number resolution latest write waiting found pipeline =>
      rw [pipeline]
      nofun
  | forgo number resolution waiting pipeline => rwa [pipeline]
  | abandon number purpose write running pipeline =>
      rwa [pipeline, ne_eq, Pipeline.abandon_phase_eq_conflict_iff]

end Autosave

namespace Session

open Autosave (Machine)

/-- How a call to the store stands in an open session that has met no conflict. -/
inductive Expected (call : Option (Nat × Call)) (number : Nat) : Autosave.Task → Prop
  | debounce (write : Autosave.Write) : Expected call number (.writing .debounce write)
  | interval (write : Autosave.Write) : Expected call number (.writing .interval write)
  /-- The call that is not over waits for it. -/
  | flush (write : Autosave.Write)
      (current : call.map Prod.fst = some number) :
      Expected call number (.writing .flush write)

/-- A session has no conflict to resolve, and its calls to the store are as expected. -/
structure Calm (session : Session) : Prop where
  phase : session.autosave.pipeline.phase ≠ .conflict
  expected : ∀ number task, (number, task) ∈ session.autosave.tasks →
    Expected session.call number task

variable {session next : Session} {machine : Machine} {effects : List Autosave.Effect}

namespace Calm

/-- No resolution waits. -/
theorem not_fetching
    (calm : session.Calm)
    (number : Nat)
    (resolution : Autosave.Resolution) :
    (number, .fetching resolution) ∉ session.autosave.tasks := by
  intro waiting
  cases calm.expected number _ waiting

/-- A change that refuses no write and stops no timer keeps a session calm, if the call that is not
over stays, and a flush that begins becomes it. -/
theorem change
    (calm : session.Calm)
    {move : Autosave.Move}
    (change : session.autosave.Change move machine effects)
    (provenance : ∀ number purpose write, (number, .writing purpose write) ∈ machine.retire.tasks →
      session.autosave.Provenance move effects number write purpose)
    (unrefused : ∀ number, move ≠ .occurrence (.updateReply number .conflict))
    (unstopped : move ≠ .request .shutdown)
    {call : Option (Nat × Call)}
    (kept : ∀ entry, session.call = some entry → call = some entry)
    (begun : move = .request .flush → call.map Prod.fst = some session.autosave.nextNumber) :
    { session with autosave := machine.retire, call }.Calm where
  phase := by
    show machine.retire.pipeline.phase ≠ .conflict
    rw [Machine.retire_phase]
    exact change.phase_ne_conflict calm.phase unrefused
  expected number task member := by
    have stays {task : Autosave.Task} (older : (number, task) ∈ session.autosave.tasks) :
        Expected call number task := by
      cases calm.expected number task older with
      | debounce write => exact .debounce write
      | interval write => exact .interval write
      | flush write current =>
          obtain ⟨entry, present, rfl⟩ := Option.map_eq_some_iff.mp current
          exact .flush write (by rw [kept entry present]; rfl)
    cases task with
    | fetching resolution =>
        rw [Machine.retire_tasks] at member
        cases change.origin member with
        | old older => exact stays older
        | fetched phase => exact absurd phase calm.phase
    | writing purpose write =>
        cases provenance number purpose write member with
        | kept older => exact stays older
        | stopped running move_eq => exact absurd move_eq unstopped
        | begun purpose_eq effects_eq number_eq =>
            have fresh : number = session.autosave.nextNumber :=
              number_eq.resolve_right fun ⟨_, waiting⟩ => calm.not_fetching _ _ waiting
            unfold Autosave.Move.purpose? at purpose_eq
            split at purpose_eq
            case h_1 =>
              obtain rfl := Option.some.inj purpose_eq
              exact .flush write (fresh ▸ begun rfl)
            case h_2 =>
              obtain rfl := Option.some.inj purpose_eq
              exact .debounce write
            case h_3 =>
              obtain rfl := Option.some.inj purpose_eq
              exact .interval write
            case h_4 other latest =>
              obtain ⟨resolution, waiting⟩ := change.fetching_of_document
              exact absurd waiting (calm.not_fetching _ _)
            case h_5 => cases purpose_eq

/-- A call may end when no call to the store has its number. -/
theorem endCall
    (calm : session.Calm)
    {number : Nat}
    {call : Call}
    (current : session.call = some (number, call))
    (settled : ∀ task, (number, task) ∉ session.autosave.tasks) :
    { session with call := none }.Calm where
  phase := calm.phase
  expected other task member := by
    cases calm.expected other task member with
    | debounce write => exact .debounce write
    | interval write => exact .interval write
    | flush write waits =>
        rw [current] at waits
        obtain rfl := Option.some.inj waits
        exact absurd member (settled _)

/-- Going on after a step of the machine keeps an open session calm. -/
theorem proceed
    (calm : session.Calm)
    (settled : ∀ effect ∈ effects, ∀ number, effect.answered? = some number →
      ∀ task, (number, task) ∉ session.autosave.tasks)
    (stillOpen : (session.proceed effects).1.isOpen = true) :
    (session.proceed effects).1.Calm := by
  rcases session.proceed_eq effects with same | ⟨number, call, ending, current, member, finished⟩
  · rw [same]
    exact calm
  · have ended := calm.endCall current (settled _ member number (ending.answered?_effect number))
    rw [finished] at stillOpen ⊢
    unfold Session.finish at stillOpen ⊢
    split
    case h_1 resolution latest => cases resolution <;> exact ⟨ended.phase, ended.expected⟩
    case h_2 => cases stillOpen
    case h_3 => exact ended

/-- Giving up a call whose calls to the store are over keeps an open session calm. -/
theorem abandonCall
    (calm : session.Calm)
    {number : Nat}
    (settled : ∀ task, (number, task) ∉ session.autosave.tasks)
    (stillOpen : (session.abandonCall number).isOpen = true) :
    (session.abandonCall number).Calm := by
  unfold Session.abandonCall at stillOpen ⊢
  split
  case h_1 current call found =>
    rw [found] at stillOpen
    dsimp only at stillOpen
    split
    case isTrue same =>
      rw [if_pos same] at stillOpen
      split
      · cases stillOpen
      · exact calm.endCall found (same ▸ settled)
    case isFalse => exact calm
  case h_2 => exact calm

/-- A call that a ready session makes to its machine keeps it calm. -/
theorem ask
    (calm : session.Calm)
    (sound : session.Sound)
    (idle : session.call = none)
    {call : Call}
    {request : Autosave.Request}
    (unstopped : request ≠ .shutdown)
    (stillOpen : (session.ask call request).1.isOpen = true) :
    (session.ask call request).1.Calm := by
  have change : session.autosave.Change (.request request) (session.autosave.requestHeld request).1
      (session.autosave.requestHeld request).2 := Machine.change_of_requestHeld rfl
  have asked : { session with
      autosave := (session.autosave.request request).1
      call := some (session.autosave.nextNumber, call) }.Calm := by
    refine calm.change change (fun _ _ _ => Machine.provenance_of_request rfl) nofun
      (fun same => unstopped (Autosave.Move.request.inj same)) (fun _ current => ?_) fun _ => rfl
    rw [idle] at current
    cases current
  refine asked.proceed (fun effect member number answered task => ?_) stillOpen
  show (number, task) ∉ (session.autosave.requestHeld request).1.retire.tasks
  rw [Machine.retire_tasks]
  exact change.unanswered sound.autosave member answered task

/-- A content that is handed over keeps a session calm. -/
theorem save
    (calm : session.Calm)
    (content : String) :
    { session with autosave := (session.autosave.request (.save content)).1 }.Calm := by
  have change : session.autosave.Change (.request (.save content))
      (session.autosave.requestHeld (.save content)).1 [] := Machine.change_of_requestHeld rfl
  exact calm.change change (fun _ _ _ => Machine.provenance_of_request rfl) nofun nofun
    (fun _ current => current) nofun

/-- An edit keeps a session calm. -/
theorem edit
    (calm : session.Calm)
    (call : Sync.Call) :
    (session.edit call).1.Calm := by
  unfold Session.edit
  dsimp only
  split
  · simp only [Session.queue]
    split
    · exact ⟨calm.phase, calm.expected⟩
    · have saved := calm.save (session.sync call).1.refreshOutline.markdown
      exact ⟨saved.phase, saved.expected⟩
  · exact ⟨calm.phase, calm.expected⟩

end Calm

/-- Whether a move tells of a write that was refused or failed. -/
def Move.isSetback : Move → Bool
  | .occurrence (.updateReply _ .conflict) => true
  | .occurrence (.updateReply _ (.failed _)) => true
  | _ => false

theorem proceed_isOpen
    (session : Session)
    (effects : List Autosave.Effect)
    (stillOpen : (session.proceed effects).1.isOpen = true) :
    session.isOpen = true := by
  rcases session.proceed_eq effects with same | ⟨number, call, ending, current, member, finished⟩
  · rwa [same] at stillOpen
  · rw [finished] at stillOpen
    unfold finish at stillOpen
    split at stillOpen
    case h_1 resolution latest => cases resolution <;> exact stillOpen
    case h_2 => cases stillOpen
    case h_3 => exact stillOpen

theorem abandonCall_isOpen
    (session : Session)
    (number : Nat)
    (stillOpen : (session.abandonCall number).isOpen = true) :
    session.isOpen = true := by
  unfold abandonCall at stillOpen
  split at stillOpen
  · split at stillOpen
    · split at stillOpen
      · cases stillOpen
      · exact stillOpen
    · exact stillOpen
  · exact stillOpen

/-- Every possible move that is no setback keeps an open session calm. -/
theorem Sound.calm_of_move?
    (sound : session.Sound)
    (calm : session.isOpen = true → session.Calm)
    {move : Move}
    {notes : List Effect}
    (possible : session.move? move = some (next, notes))
    (forward : move.isSetback = false)
    (stillOpen : next.isOpen = true) :
    next.Calm := by
  cases move with
  | destroySurface =>
      obtain ⟨rfl, _⟩ := Prod.mk.inj (Option.some.inj possible)
      exact ⟨(calm stillOpen).phase, (calm stillOpen).expected⟩
  | occurrence occurrence =>
      obtain ⟨machine, effects, occurred, course⟩ := eq_of_occur? possible
      have moved : session.autosave.move? (.occurrence occurrence) = some (machine, effects) :=
        occurred
      obtain ⟨changed, change, rfl⟩ := Machine.change_of_move? moved
      have unrefused (number : Nat) :
          Autosave.Move.occurrence occurrence ≠ .occurrence (.updateReply number .conflict) := by
        rintro same
        obtain rfl := Autosave.Move.occurrence.inj same
        cases forward
      have stepped (wasOpen : session.isOpen = true) :
          { session with autosave := changed.retire }.Calm :=
        (calm wasOpen).change change (fun _ _ _ => Machine.provenance_of_occur? occurred) unrefused
          (by rintro ⟨⟩) (fun _ current => current) (by rintro ⟨⟩)
      rcases course with ⟨number, rfl, rfl, _⟩ | ⟨_, rfl, _⟩
      · have wasOpen :=
          abandonCall_isOpen { session with autosave := changed.retire } number stillOpen
        refine (stepped wasOpen).abandonCall (fun task => ?_) stillOpen
        show (number, task) ∉ changed.retire.tasks
        rw [Machine.retire_tasks]
        exact change.not_mem_of_cancel task
      · have wasOpen :=
          proceed_isOpen { session with autosave := changed.retire } effects stillOpen
        refine (stepped wasOpen).proceed
          (fun effect member number answered task => ?_) stillOpen
        show (number, task) ∉ changed.retire.tasks
        rw [Machine.retire_tasks]
        exact change.unanswered sound.autosave member answered task
  | request request =>
      simp only [move?, request?] at possible
      split at possible
      case isFalse => cases possible
      case isTrue ready =>
        obtain ⟨isOpen, none⟩ := Bool.and_eq_true_iff.mp ready
        have idle := Option.isNone_iff_eq_none.mp none
        have calm := calm isOpen
        obtain rfl : next = _ := (congrArg Prod.fst (Option.some.inj possible)).symm
        cases request with
        | editMarkdown text => exact calm.edit _
        | editDocument document => exact calm.edit _
        | bind destroyed => exact ⟨calm.phase, calm.expected⟩
        | flush => exact calm.ask sound idle (by rintro ⟨⟩) stillOpen
        | resolve resolution => exact calm.ask sound idle (by rintro ⟨⟩) stillOpen
        | close => exact calm.ask sound idle (by rintro ⟨⟩) stillOpen

theorem calm_ofDocument
    (settings : Settings)
    (document : Store.Document) :
    (ofDocument settings document).Calm :=
  ⟨nofun, nofun⟩

/-- Between two calls of a calm session nothing is open but a write that a timer has begun. -/
theorem Calm.tasks_of_idle
    (calm : session.Calm)
    (sound : session.Sound)
    (idle : session.call = none) :
    session.autosave.tasks = [] ∧ session.autosave.pipeline.inFlight = false ∨
      ∃ number purpose write, (purpose = .debounce ∨ purpose = .interval) ∧
        session.autosave.tasks = [(number, .writing purpose write)] ∧
        session.autosave.pipeline.inFlight = true := by
  have writing : ∀ entry ∈ session.autosave.tasks, entry.2.isWriting = true := by
    intro ⟨number, task⟩ member
    cases calm.expected number task member <;> rfl
  have length := List.countP_eq_length.mpr writing
  rw [sound.autosave.writes] at length
  cases inFlight : session.autosave.pipeline.inFlight with
  | false =>
      rw [inFlight] at length
      exact .inl ⟨List.eq_nil_of_length_eq_zero length.symm, rfl⟩
  | true =>
      rw [inFlight] at length
      obtain ⟨⟨number, task⟩, tasks⟩ := List.length_eq_one_iff.mp length.symm
      have expected := calm.expected number task (tasks ▸ List.mem_singleton.mpr rfl)
      rw [idle] at expected
      cases expected with
      | debounce write => exact .inr ⟨number, _, write, .inl rfl, tasks, rfl⟩
      | interval write => exact .inr ⟨number, _, write, .inr rfl, tasks, rfl⟩
      | flush write current => cases current

end Session
end TwinEditor
