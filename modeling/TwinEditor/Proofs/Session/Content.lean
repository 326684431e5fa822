import TwinEditor.Proofs.Session.Course
import TwinEditor.Proofs.Turns

/-!
# No edit is missing

A session is run together with an account of what the store has taken from it. The store may
accept a write at any time between the call and the answer, and it may still refuse the write,
fail, or not be listened to any more after that. It tells the machine that a write is accepted
only when it is. Whatever comes, the text of the session is the buffered content and, when none
is buffered, the content that the store accepted or handed out last.
-/

namespace TwinEditor

open Autosave (Machine)

/-- A session and what the store has taken from it. -/
structure Account where
  session : Session
  /-- The writes that the store has accepted. -/
  accepted : List Nat
  /-- The content of the write that the store accepted last or, if that came later, of the document
  that the session loaded last. -/
  content : String

namespace Account

/-- What may come next for a session and the store. -/
inductive Turn
  | move (move : Session.Move)
  /-- The store accepts a write that has no answer yet. -/
  | accept (number : Nat)

/-- A session that begins. -/
def start (settings : Settings) (document : Store.Document) : Account where
  session := .ofDocument settings document
  accepted := []
  content := document.content

/-- Whether a move tells of no write that the store has not accepted. -/
def allows (account : Account) : Session.Move → Bool
  | .occurrence (.updateReply number (.saved _)) => account.accepted.contains number
  | _ => true

/-- The content of the document that a move loads into the session. -/
def loaded? (account : Account) : Session.Move → Option String
  | .occurrence (.fetchReply number (.ok latest)) =>
      if account.session.autosave.task? number = some (.fetching .reload) then some latest.content
      else none
  | _ => none

/-- What a turn does, if it is possible now. -/
def turn? (account : Account) : Turn → Option Account
  | .move move =>
      if account.allows move then
        (account.session.move? move).map fun (session, _) =>
          { account with session, content := (account.loaded? move).getD account.content }
      else none
  | .accept number =>
      match account.session.autosave.task? number with
      | some (.writing _ write) =>
          if account.accepted.contains number then none
          else
            some { account with
              accepted := number :: account.accepted
              content := write.content }
      | _ => none

/-- Take turns one after another. -/
def follow (account : Account) (turns : List Turn) : Account :=
  takeTurns turn? account turns

/-- What holds of a session and its account after any turns. -/
structure Sound (account : Account) : Prop where
  session : account.session.Sound
  markdown_eq : account.session.markdown =
    account.session.autosave.pipeline.pending.getD account.content
  accepted : ∀ number ∈ account.accepted,
    account.session.autosave.WritesUnder number (account.content = ·.content)

end Account

namespace Session

variable {session : Session} {effects : List Autosave.Effect}

/-- The content that the end of a call loads into the session. -/
def Ending.loaded? : Call → Ending → Option String
  | .resolve .reload, .resolved (.ok latest) => some latest.content
  | _, _ => none

/-- The end of a call changes the text only if it loads a document, and it leaves the buffer
alone. -/
theorem Sound.finish_markdown
    (sound : session.Sound)
    (call : Call)
    (ending : Ending) :
    (session.finish call ending).1.markdown =
        (Ending.loaded? call ending).getD session.markdown ∧
      (session.finish call ending).1.autosave.pipeline.pending =
        session.autosave.pipeline.pending := by
  unfold Session.finish
  split
  case h_1 resolution latest =>
    cases resolution with
    | overwrite => exact ⟨rfl, rfl⟩
    | reload =>
        obtain ⟨_, rests⟩ := Sync.Coordinator.rests_of_syncMarkdown sound.free latest.content
        exact ⟨congrArg Sync.Forms.markdown rests.forms_eq, rfl⟩
  case h_2 =>
    exact ⟨rfl, (Machine.request_pending _ .release).trans (Machine.request_pending _ .shutdown)⟩
  case h_3 notClosing notLoading =>
    refine ⟨?_, rfl⟩
    unfold Ending.loaded?
    split
    case h_1 latest => exact (notLoading .reload latest rfl rfl).elim
    case h_2 => rfl

/-- Going on after a step of the machine changes the text only if the current call loads a
document. -/
theorem Sound.proceed_markdown
    (sound : session.Sound)
    (effects : List Autosave.Effect) :
    (session.proceed effects).1.autosave.pipeline.pending = session.autosave.pipeline.pending ∧
      ((session.proceed effects).1.markdown = session.markdown ∨
        ∃ number latest, session.call = some (number, .resolve .reload) ∧
          .resolved number (.ok latest) ∈ effects ∧
          (session.proceed effects).1.markdown = latest.content) := by
  rcases session.proceed_eq effects with same | ⟨number, call, ending, current, member, finished⟩
  · rw [same]
    exact ⟨rfl, .inl rfl⟩
  · obtain ⟨markdownEq, pendingEq⟩ := sound.finish_markdown call ending
    rw [finished, markdownEq, pendingEq]
    refine ⟨rfl, ?_⟩
    unfold Ending.loaded?
    split
    case h_1 latest => exact .inr ⟨number, latest, current, member, rfl⟩
    case h_2 => exact .inl rfl

/-- A call that the session is asked for loads no document at once. -/
theorem Sound.ask_markdown
    (sound : session.Sound)
    (idle : session.call = none)
    {call : Call}
    {request : Autosave.Request}
    (begun : ∀ resolution, request = .resolve resolution → call = .resolve resolution) :
    (session.ask call request).1.autosave.pipeline.pending =
        session.autosave.pendingAfter (.request request) ∧
      (session.ask call request).1.markdown = session.markdown := by
  have change : session.autosave.Change (.request request) (session.autosave.requestHeld request).1
      (session.autosave.requestHeld request).2 := Machine.change_of_requestHeld rfl
  obtain ⟨pendingEq, outcome⟩ := (sound.asked idle begun).proceed_markdown
    (session.autosave.requestHeld request).2
  refine ⟨pendingEq.trans (Machine.request_pending session.autosave request), ?_⟩
  rcases outcome with same | ⟨number, latest, _, resolved, _⟩
  · exact same
  · rcases change.task_of_resolved resolved with ⟨_, _, move_eq⟩ | ⟨write, running⟩
    · cases move_eq
    · have current := sound.owned number _ _ running rfl
      rw [idle] at current
      cases current

/-- Giving up a call leaves the text and the buffer alone. -/
theorem abandonCall_markdown (session : Session) (number : Nat) :
    (session.abandonCall number).markdown = session.markdown ∧
      (session.abandonCall number).autosave.pipeline.pending =
        session.autosave.pipeline.pending := by
  unfold abandonCall
  split
  · split
    · split
      · exact ⟨rfl, Machine.request_pending _ .release⟩
      · exact ⟨rfl, rfl⟩
    · exact ⟨rfl, rfl⟩
  · exact ⟨rfl, rfl⟩

/-- What happens to the machine loads the document that comes for a reload, and nothing else. -/
theorem Sound.occur_markdown
    (sound : session.Sound)
    {occurrence : Autosave.Occurrence}
    {machine : Machine}
    (change : session.autosave.Change (.occurrence occurrence) machine effects) :
    ({ session with autosave := machine.retire }.proceed effects).1.autosave.pipeline.pending =
        session.autosave.pendingAfter (.occurrence occurrence) ∧
      ((∃ number latest, occurrence = .fetchReply number (.ok latest) ∧
          session.autosave.task? number = some (.fetching .reload) ∧
          ({ session with autosave := machine.retire }.proceed effects).1.markdown =
            latest.content) ∨
        (∀ number latest, occurrence = .fetchReply number (.ok latest) →
          session.autosave.task? number ≠ some (.fetching .reload)) ∧
        ({ session with autosave := machine.retire }.proceed effects).1.markdown =
          session.markdown) := by
  have changed : { session with autosave := machine.retire }.Sound :=
    sound.change change (fun _ current => current) nofun
  obtain ⟨pendingEq, outcome⟩ := changed.proceed_markdown effects
  refine ⟨pendingEq.trans ((Machine.retire_pending _).trans change.pending_eq), ?_⟩
  by_cases loads : ∃ number latest, occurrence = .fetchReply number (.ok latest) ∧
      session.autosave.task? number = some (.fetching .reload)
  · obtain ⟨number, latest, rfl, waiting⟩ := loads
    have current : session.call = some (number, .resolve .reload) :=
      sound.owned number _ _ (Machine.mem_of_task? waiting) rfl
    refine .inl ⟨number, latest, rfl, waiting, ?_⟩
    obtain rfl := change.effects_of_reload waiting
    rw [@proceed_of_resolved { session with autosave := machine.retire } _ _ current]
    exact (changed.finish_markdown (.resolve .reload) (.resolved (.ok latest))).1
  · refine .inr ⟨fun number latest equal waiting => loads ⟨number, latest, equal, waiting⟩, ?_⟩
    rcases outcome with same | ⟨number, latest, current, resolved, _⟩
    · exact same
    · rcases change.task_of_resolved resolved with ⟨resolution, waiting, move_eq⟩ | ⟨_, running⟩
      · have owner := sound.owned number _ _ waiting rfl
        obtain rfl := Call.resolve.inj (Prod.mk.inj (Option.some.inj (current.symm.trans owner))).2
        exact absurd ⟨number, latest, Autosave.Move.occurrence.inj move_eq,
          sound.autosave.task?_eq_some waiting⟩ loads
      · have owner := sound.owned number _ _ running rfl
        cases (Prod.mk.inj (Option.some.inj (current.symm.trans owner))).2

end Session

namespace Account

variable {account next : Account} {turn : Turn}

/-- A session has its text accounted for when it begins. -/
theorem sound_start (settings : Settings) (document : Store.Document) :
    (start settings document).Sound := by
  have session := Session.sound_ofDocument settings document
  exact ⟨session, session.saved.symm, nofun⟩

/-- What the store accepts is buffered still. -/
theorem Sound.accept
    (sound : account.Sound)
    {number : Nat}
    {purpose : Autosave.Purpose}
    {write : Autosave.Write}
    (running : account.session.autosave.task? number = some (.writing purpose write))
    (new : number ∉ account.accepted) :
    { account with accepted := number :: account.accepted, content := write.content }.Sound where
  session := sound.session
  markdown_eq := by
    have buffered := sound.session.buffers (sound.session.autosave.inFlight_of_writing running)
    obtain ⟨content, pending⟩ := Option.isSome_iff_exists.mp buffered
    have markdownEq := sound.markdown_eq
    rw [pending] at markdownEq
    show account.session.markdown = account.session.autosave.pipeline.pending.getD write.content
    rw [pending]
    exact markdownEq
  accepted := by
    have member := Machine.mem_of_task? running
    intro other otherAccepted
    rcases List.mem_cons.mp otherAccepted with rfl | older
    · refine ⟨sound.session.autosave.numbered.number_lt _ member, fun task otherMember => ?_⟩
      exact ⟨purpose, write, sound.session.autosave.numbered.eq_of_mem otherMember member, rfl⟩
    · -- The write accepted before is over, since no two writes are without an answer.
      refine ⟨(sound.accepted other older).number_lt, fun task otherMember => ?_⟩
      obtain ⟨_, _, rfl, _⟩ := (sound.accepted other older).write_of_mem task otherMember
      exact absurd (sound.session.autosave.writing_unique otherMember member ▸ older) new

/-- While a document is to be loaded, no write that was accepted is without an answer. -/
theorem Sound.accepted_of_loaded
    (sound : account.Sound)
    (move : Session.Move) :
    ∀ number ∈ account.accepted, account.session.autosave.WritesUnder number
      ((account.loaded? move).getD account.content = ·.content) := by
  intro number accepted
  have writes := sound.accepted number accepted
  cases loads : account.loaded? move with
  | none => exact writes
  | some content =>
      refine ⟨writes.number_lt, fun task member => ?_⟩
      unfold loaded? at loads
      split at loads
      · split at loads
        case isTrue waiting =>
          obtain ⟨_, _, rfl, _⟩ := writes.write_of_mem task member
          have landed := sound.session.landed (Machine.mem_of_task? waiting)
          cases sound.session.autosave.not_isWriting landed _ member
        case isFalse => cases loads
      · cases loads

/-- When the session learns of an accepted write, the buffer is left empty only if the text is
what was accepted. -/
theorem Sound.markdown_of_saved
    (sound : account.Sound)
    {number : Nat}
    {version : Int}
    {machine : Machine}
    {effects : List Autosave.Effect}
    (change : account.session.autosave.Change (.occurrence (.updateReply number (.saved version)))
      machine effects)
    (accepted : number ∈ account.accepted) :
    account.session.markdown =
      (account.session.autosave.pendingAfter
        (.occurrence (.updateReply number (.saved version)))).getD account.content := by
  obtain ⟨_, purpose, write, member⟩ := change.writing_of_saved
  obtain ⟨_, _, equal, contentEq⟩ := (sound.accepted number accepted).write_of_mem _ member
  obtain ⟨_, rfl⟩ := Autosave.Task.writing.inj equal
  have running := sound.session.autosave.task?_eq_some member
  have markdownEq := sound.markdown_eq
  simp only [Machine.pendingAfter, running]
  split
  case isTrue same =>
    rw [same] at markdownEq
    exact markdownEq.trans contentEq.symm
  case isFalse => exact markdownEq

/-- After what happens to the machine, the text is the buffered content or the one accounted for. -/
theorem Sound.markdown_of_proceed
    (sound : account.Sound)
    {occurrence : Autosave.Occurrence}
    {machine : Machine}
    {effects : List Autosave.Effect}
    (change : account.session.autosave.Change (.occurrence occurrence) machine effects)
    (allowed : account.allows (.occurrence occurrence) = true) :
    ({ account.session with autosave := machine.retire }.proceed effects).1.markdown =
      (account.session.autosave.pendingAfter (.occurrence occurrence)).getD
        ((account.loaded? (.occurrence occurrence)).getD account.content) := by
  obtain ⟨_, ⟨number, latest, rfl, waiting, loaded⟩ | ⟨absent, same⟩⟩ :=
    sound.session.occur_markdown change
  · rw [loaded]
    simp [Machine.pendingAfter, loaded?, waiting]
  · rw [same]
    cases occurrence with
    | updateReply number reply =>
        cases reply with
        | saved version => exact sound.markdown_of_saved change (by simpa [allows] using allowed)
        | conflict => exact sound.markdown_eq
        | failed failure => exact sound.markdown_eq
    | fetchReply number reply =>
        cases reply with
        | error failure => exact sound.markdown_eq
        | ok latest =>
            have other := absent number latest rfl
            simp only [Machine.pendingAfter, loaded?, other, if_false]
            exact sound.markdown_eq
    | _ => exact sound.markdown_eq

/-- After every step the text is the buffered content or the one accounted for. -/
theorem Sound.markdown_of_step
    (sound : account.Sound)
    {move : Session.Move}
    {session : Session}
    (step : account.session.Step move session)
    (allowed : account.allows move = true) :
    session.markdown =
      session.autosave.pipeline.pending.getD ((account.loaded? move).getD account.content) := by
  cases step with
  | keep inside keeps =>
      have loadsNothing : account.loaded? move = none := by
        cases move with
        | occurrence occurrence => exact absurd rfl (inside occurrence)
        | _ => rfl
      rw [loadsNothing]
      exact (congrArg Sync.Forms.markdown keeps.forms_eq).trans sound.markdown_eq
  | rewrite options_eq free same => exact same.trans sound.markdown_eq
  | @edit request coordinator options_eq free =>
      show coordinator.forms.markdown = (account.session.autosave.request
        (.save coordinator.forms.markdown)).1.pipeline.pending.getD account.content
      rw [Machine.request_pending]
      rfl
  | @ask request call machineRequest idle begun unsaving =>
      obtain ⟨pendingEq, same⟩ := sound.session.ask_markdown idle begun
      have light : (Autosave.Move.request machineRequest).isWeighty = false := by
        cases machineRequest with
        | save content => exact absurd rfl (unsaving content)
        | _ => rfl
      rw [same, pendingEq, Machine.pendingAfter_of_light light]
      exact sound.markdown_eq
  | proceed change =>
      rw [(sound.session.occur_markdown change).1]
      exact sound.markdown_of_proceed change allowed
  | @abandon number machine effects change =>
      obtain ⟨same, pendingEq⟩ :=
        { account.session with autosave := machine.retire }.abandonCall_markdown number
      rw [same, pendingEq]
      show account.session.markdown = machine.retire.pipeline.pending.getD account.content
      rw [Machine.retire_pending, change.pending_eq]
      exact sound.markdown_eq

/-- Every turn keeps the text accounted for. -/
theorem Sound.kept
    (sound : account.Sound)
    (possible : account.turn? turn = some next) :
    next.Sound := by
  cases turn with
  | accept number =>
      simp only [turn?] at possible
      split at possible
      case h_1 purpose write running =>
        split at possible
        case isTrue => cases possible
        case isFalse new =>
          obtain rfl := Option.some.inj possible
          exact sound.accept running (by simpa using new)
      case h_2 => cases possible
  | move move =>
      simp only [turn?] at possible
      split at possible
      case isFalse => cases possible
      case isTrue allowed =>
        obtain ⟨⟨session, notes⟩, moved, rfl⟩ := Option.map_eq_some_iff.mp possible
        have step := sound.session.step_of_move? moved
        refine ⟨sound.session.step step, sound.markdown_of_step step allowed, ?_⟩
        intro number accepted
        have kept {before after : Machine} {change : Autosave.Move}
            {effects : List Autosave.Effect} (changes : before.Change change after effects)
            (writes : before.WritesUnder number
              ((account.loaded? move).getD account.content = ·.content)) :
            after.retire.WritesUnder number
              ((account.loaded? move).getD account.content = ·.content) :=
          (writes.change changes).retire
        exact step.autosave kept (sound.accepted_of_loaded move number accepted)

theorem Sound.follow
    (sound : account.Sound)
    (turns : List Turn) :
    (account.follow turns).Sound :=
  takeTurns_induction (fun kept possible => Sound.kept kept possible) turns sound

/-- The text of a session is the buffered content. When none is buffered, it is the content of
the write that the store accepted last or, if that came later, of the document that was fetched
at the beginning or loaded to resolve a conflict. So no edit is missing from the store when no
change is unsaved, and every edit that is made becomes the text. -/
theorem markdown_eq_pending_or_content
    (settings : Settings)
    (document : Store.Document)
    (turns : List Turn) :
    (∀ content,
      ((start settings document).follow turns).session.autosave.pipeline.pending = some content →
      ((start settings document).follow turns).session.markdown = content) ∧
    (((start settings document).follow turns).session.autosave.pipeline.pending = none →
      ((start settings document).follow turns).session.markdown =
        ((start settings document).follow turns).content) ∧
    (((start settings document).follow turns).session.hasUnsavedChanges = false →
      ((start settings document).follow turns).session.markdown =
        ((start settings document).follow turns).content) ∧
    (((start settings document).follow turns).session.isReady = true →
      (∀ text, ∃ next notes,
        ((start settings document).follow turns).session.move? (.request (.editMarkdown text)) =
          some (next, notes) ∧ next.markdown = text) ∧
      ∀ edited, ∃ next notes,
        ((start settings document).follow turns).session.move? (.request (.editDocument edited)) =
          some (next, notes) ∧ next.markdown = edited.toMarkdown.toMarkdown) := by
  have sound := (sound_start settings document).follow turns
  have markdownEq := sound.markdown_eq
  refine ⟨?_, ?_, ?_, ?_⟩
  · intro content pending
    rw [pending] at markdownEq
    exact markdownEq
  · intro pending
    rw [pending] at markdownEq
    exact markdownEq
  · intro saved
    have pending := Option.isNone_iff_eq_none.mp (Option.isSome_eq_false_iff.mp saved)
    rw [pending] at markdownEq
    exact markdownEq
  · intro ready
    exact ⟨sound.session.exists_editMarkdown ready, sound.session.exists_editDocument ready⟩

/-- An edit whose write is begun, and then accepted. -/
def acceptedEdit : List Turn :=
  [.move (.request (.editMarkdown "mine")), .move (.occurrence (.pass 1000)),
    .move (.occurrence .debounce), .accept 0, .move (.occurrence (.updateReply 0 (.saved 2)))]

/-- An edit that is dropped for the document of the store after a conflict. -/
def droppedEdit : List Turn :=
  [.move (.request (.editMarkdown "mine")), .move (.request .flush),
    .move (.occurrence (.updateReply 0 .conflict)), .move (.request (.resolve .reload)),
    .move (.occurrence (.fetchReply 1 (.ok ⟨.nil, .nil, "theirs", 7⟩)))]

theorem markdown_eq_pending_or_content_of_edits :
    ((start .standard ⟨.nil, .nil, "base", 1⟩).follow (acceptedEdit.take 4)).session.markdown =
      "mine" ∧
    ((start .standard ⟨.nil, .nil, "base", 1⟩).follow acceptedEdit).session.markdown =
      ((start .standard ⟨.nil, .nil, "base", 1⟩).follow acceptedEdit).content ∧
    (∃ next notes, ((start .standard ⟨.nil, .nil, "base", 1⟩).follow acceptedEdit).session.move?
      (.request (.editMarkdown "more")) = some (next, notes) ∧ next.markdown = "more") ∧
    ((start .standard ⟨.nil, .nil, "base", 1⟩).follow droppedEdit).session.markdown =
      ((start .standard ⟨.nil, .nil, "base", 1⟩).follow droppedEdit).content ∧
    ((start .standard ⟨.nil, .nil, "base", 1⟩).follow droppedEdit).content = "theirs" :=
  ⟨(markdown_eq_pending_or_content _ _ _).1 "mine" rfl,
    (markdown_eq_pending_or_content _ _ _).2.2.1 rfl,
    ((markdown_eq_pending_or_content _ _ _).2.2.2 rfl).1 "more",
    (markdown_eq_pending_or_content _ _ _).2.1 rfl, rfl⟩

end Account
end TwinEditor
