import TwinEditor.Proofs.Sync.Coherence

/-!
# Calls that come back

What a surface or an editor calls while it is used leaves no trace. Such a program may make any calls in
any number: the edit has the outcome that it would have had with a silent surface, and afterwards the
coordinator is the same. A rich-text edit depends on nothing but the document that was read.
-/

namespace TwinEditor
namespace Sync

/-- What a surface answers when it is asked whether it is gone. -/
def Surface.isGone (surface : Surface) (coordinator : Coordinator) : Bool :=
  (surface.isDestroyed.run Coordinator.perform .answered coordinator).2.1

/-- Whether something that happened is that a document was handed to a surface. -/
def Note.isPush : Note → Bool
  | .pushed _ => true
  | .answered _ => false

theorem AreNested.filter_isPush
    {forms : Forms}
    {inUse : Bool}
    {notes : List Note}
    (nested : AreNested forms inUse notes) :
    notes.filter Note.isPush = [] := by
  rw [List.filter_eq_nil_iff]
  intro note member
  obtain ⟨_, rfl, _⟩ := nested note member
  exact nofun

namespace Coordinator

variable {options : Markdown.Options} {coordinator : Coordinator}

/-- The document that an editor gives when it is read. -/
def documentOf
    (coordinator : Coordinator)
    (source : Program Call Answer RichText.Document) :
    RichText.Document :=
  (source.run perform .answered (coordinator.editing coordinator.forms)).2.1

theorem documentOf_eq
    (coordinator : Coordinator)
    (source : Program Call Answer RichText.Document) :
    coordinator.documentOf source =
      (source.run performHeld .answered (coordinator.editing coordinator.forms)).2.1 := by
  rw [documentOf]
  exact congrArg (·.2.1) (@run_of_isSyncing (coordinator.editing coordinator.forms) _ rfl 1 source)

/-- A surface that is not gone gets exactly one document. -/
theorem filter_isPush_push
    (locked : coordinator.isSyncing = true)
    (unused : coordinator.surfaceInUse = false)
    {surface : Surface}
    (bound : coordinator.surface = some surface)
    (present : surface.isGone coordinator.occupied = false) :
    (push performHeld coordinator).2.filter Note.isPush = [.pushed coordinator.forms.document] := by
  have nested {Result : Type} (program : Program Call Answer Result) :=
    (@areNested_run coordinator.occupied _ locked program).filter_isPush
  have asked : (surface.isDestroyed.run performHeld .answered coordinator.occupied).2.1 = false := by
    rw [← present, Surface.isGone]
    exact congrArg (·.2.1)
      (@run_of_isSyncing coordinator.occupied _ locked 1 surface.isDestroyed).symm
  rw [push_performHeld_of_bound unused bound]
  simp only [asked, Bool.false_eq_true, if_false, List.filter_append, nested, List.nil_append]
  rw [List.filter_cons_of_pos rfl, nested]

/-- Turns lead from a new coordinator to this one. -/
def IsReached (options : Markdown.Options) (coordinator : Coordinator) : Prop :=
  ∃ turns, ((initial options).follow turns).1 = coordinator

theorem IsReached.sound (reached : coordinator.IsReached options) : coordinator.Sound options := by
  obtain ⟨turns, rfl⟩ := reached
  exact ((Sound.initial options).follow turns).1

/-- Whatever a surface calls while it is asked and filled, a Markdown edit has the outcome that it has
with a silent surface and leaves the same coordinator, every call is turned away, and the surface is
filled once. Whatever an editor calls while it is read, the forms afterwards are those of the document
that it gives, every edit is turned away, and nothing is filled. Any call leaves the latch free. -/
theorem nested_calls_leave_no_trace
    (reached : coordinator.IsReached options)
    {surface : Surface}
    (bound : coordinator.surface = some surface)
    (text : String)
    (present : surface.isGone (coordinator.editing (.ofMarkdown options text)).occupied = false)
    (source : Program Call Answer RichText.Document) :
    let silent := { coordinator with surface := some (.quiet false) }
    let edited := coordinator.perform (.syncMarkdown text)
    let edited' := silent.perform (.syncMarkdown text)
    let read := coordinator.perform (.syncDocument source)
    (edited.2.1 = edited'.2.1 ∧ edited.1 = { edited'.1 with surface := some surface } ∧
        (∀ answer, .answered answer ∈ edited.2.2 →
          answer.IsNested (.ofMarkdown options text) true) ∧
        edited.2.2.filter Note.isPush = [.pushed (Forms.ofMarkdown options text).document]) ∧
      (read.2.1 = .synced (.applied .richText) ∧
        read.1.forms = .ofDocument (coordinator.documentOf source) ∧
        (∀ answer, .answered answer ∈ read.2.2 → answer.IsNested coordinator.forms false) ∧
        read.2.2.filter Note.isPush = []) ∧
      ∀ call, (coordinator.perform call).1.isSyncing = false := by
  intro silent edited edited' read
  have sound := reached.sound
  obtain rfl := sound.options_eq
  refine ⟨⟨?_, ?_, ?_, ?_⟩, ⟨?_, ?_, ?_, ?_⟩, fun call => (sound.perform call).free⟩
  · simp only [edited, edited', perform_syncMarkdown sound.free sound.unused]
    rw [@perform_syncMarkdown silent sound.free sound.unused]
  · simp only [edited, edited', perform_syncMarkdown sound.free sound.unused]
    rw [@perform_syncMarkdown silent sound.free sound.unused, ← bound]
  · exact fun answer => isNested_of_mem_syncMarkdown sound.free sound.unused
  · simp only [edited, perform_syncMarkdown sound.free sound.unused]
    exact @filter_isPush_push (coordinator.editing _) rfl sound.unused surface bound present
  · simp only [read, perform_syncDocument sound.free]
  · simp only [read, perform_syncDocument sound.free, documentOf_eq]
  · rw [← sound.unused]
    exact fun answer => (areNested_syncDocument sound.free source).isNested
  · exact (areNested_syncDocument sound.free source).filter_isPush

/-- A surface that makes every kind of call while it is filled. -/
def meddling : Surface :=
  ⟨.done false, fun document =>
    .call (.syncMarkdown "b") fun _ => .call (.syncDocument (.done document)) fun _ =>
      .call (.bind (.done true) fun _ => .done ()) fun _ => .call .unbind fun _ =>
        .call .look fun _ => .done ()⟩

theorem nested_calls_leave_no_trace_of_meddling :
    let bound := ((initial .all).follow [.call (.bind meddling.isDestroyed meddling.fill)]).1
    let silent := { bound with surface := some (.quiet false) }
    let edited := bound.perform (.syncMarkdown "a")
    let edited' := silent.perform (.syncMarkdown "a")
    let filled := Forms.ofMarkdown .all "a"
    bound.surface = some meddling ∧ meddling.isGone (bound.editing filled).occupied = false ∧
      edited.1 = { edited'.1 with surface := some meddling } ∧
      edited.2.2 = [.pushed filled.document, .answered (.synced .skipped),
        .answered (.synced .skipped), .answered .bound, .answered (.unbound false),
        .answered (.view ⟨filled, true, true⟩)] ∧
      edited.2.2.filter Note.isPush = [.pushed filled.document] := by
  intro bound silent edited edited' filled
  obtain ⟨⟨-, kept, -, once⟩, -⟩ :=
    @nested_calls_leave_no_trace .all bound ⟨_, rfl⟩ meddling rfl "a" rfl (.done ⟨[]⟩)
  exact ⟨rfl, rfl, kept, rfl, once⟩

end Coordinator
end Sync
end TwinEditor
