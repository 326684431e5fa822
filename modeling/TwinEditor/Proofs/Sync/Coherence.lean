import TwinEditor.Proofs.Sync.Nested

/-!
# The forms of a text belong together

Whenever the state of a coordinator can be read, its forms belong together: one of them is the edit that
came last, and the others are made from it. This holds between calls, and it holds inside every
program that a surface or an editor runs during a call. What such a program sees is always the same:
a surface sees the forms that it is filled with, an editor that is read those before the edit.
-/

namespace TwinEditor
namespace Sync

/-- Forms of which the others are made from the one that was edited last. -/
def Forms.AreCoherent (options : Markdown.Options) (forms : Forms) : Prop :=
  match forms.lastEditor with
  | some .richText =>
      forms.tree = forms.document.toMarkdown ∧ forms.markdown = forms.tree.toMarkdown
  | some .markdown | none =>
      forms.tree = .ofMarkdown options forms.markdown ∧ forms.document = .ofMarkdown forms.tree

namespace Forms

variable (options : Markdown.Options)

theorem areCoherent_initial : initial.AreCoherent options :=
  ⟨rfl, rfl⟩

theorem areCoherent_ofMarkdown (text : String) : (ofMarkdown options text).AreCoherent options :=
  ⟨rfl, rfl⟩

theorem areCoherent_ofDocument (document : RichText.Document) :
    (ofDocument document).AreCoherent options :=
  ⟨rfl, rfl⟩

end Forms

/-- What happens to a coordinator from outside: it is called, or the bound surface changes what it does
when it is used. -/
inductive Turn
  | call (call : Call)
  | alter (change : Surface → Surface)

namespace Coordinator

/-- A coordinator after a turn, and what happened during the turn. -/
def turn (coordinator : Coordinator) : Turn → Coordinator × List Note
  | .call call =>
      let (coordinator, answer, notes) := coordinator.perform call
      (coordinator, notes ++ [.answered answer])
  | .alter change => ({ coordinator with surface := coordinator.surface.map change }, [])

/-- A coordinator after turns, and what happened during them in order. -/
def follow (coordinator : Coordinator) : List Turn → Coordinator × List Note
  | [] => (coordinator, [])
  | turn :: turns =>
      let (coordinator, notes) := coordinator.turn turn
      let (coordinator, later) := coordinator.follow turns
      (coordinator, notes ++ later)

/-- A coordinator between turns: nothing is in use, and the forms belong together. -/
structure Sound (options : Markdown.Options) (coordinator : Coordinator) : Prop where
  options_eq : coordinator.options = options
  free : coordinator.isSyncing = false
  unused : coordinator.surfaceInUse = false
  coherent : coordinator.forms.AreCoherent options

/-- Whether everything that some notes show has coherent forms. -/
def ShowCoherent (options : Markdown.Options) (notes : List Note) : Prop :=
  ∀ seen, .answered (.view seen) ∈ notes → seen.forms.AreCoherent options

namespace Sound

variable {options : Markdown.Options} {coordinator : Coordinator}

theorem initial (options : Markdown.Options) : (initial options).Sound options :=
  ⟨rfl, rfl, rfl, Forms.areCoherent_initial options⟩

/-- The surface sees the forms that it is filled with. -/
theorem forms_eq_of_syncMarkdown
    (sound : coordinator.Sound options)
    {text : String}
    {seen : View}
    (member : .answered (.view seen) ∈ (coordinator.perform (.syncMarkdown text)).2.2) :
    seen.forms = .ofMarkdown options text := by
  have nested := isNested_of_mem_syncMarkdown sound.free sound.unused member
  rw [← sound.options_eq]
  exact nested.1

/-- An editor that is read sees the forms before the edit. -/
theorem forms_eq_of_syncDocument
    (sound : coordinator.Sound options)
    {source : Program Call Answer RichText.Document}
    {seen : View}
    (member : .answered (.view seen) ∈ (coordinator.perform (.syncDocument source)).2.2) :
    seen.forms = coordinator.forms := by
  have nested := (areNested_syncDocument sound.free source).isNested member
  exact nested.1

theorem of_keeps
    {after : Coordinator}
    (sound : coordinator.Sound options)
    (keeps : coordinator.Keeps after)
    (same : after.surfaceInUse = coordinator.surfaceInUse) :
    after.Sound options := by
  refine ⟨keeps.options_eq.trans sound.options_eq, keeps.isSyncing_eq.trans sound.free,
    same.trans sound.unused, ?_⟩
  rw [keeps.forms_eq]
  exact sound.coherent

theorem perform
    (sound : coordinator.Sound options)
    (call : Call) :
    (coordinator.perform call).1.Sound options := by
  cases call with
  | syncMarkdown text =>
      rw [perform_syncMarkdown sound.free sound.unused]
      refine ⟨sound.options_eq, sound.free, sound.unused, ?_⟩
      rw [sound.options_eq]
      exact Forms.areCoherent_ofMarkdown options text
  | syncDocument source =>
      have keeps := @Keeps.run (coordinator.editing coordinator.forms) _ rfl 1 source
      rw [run_of_isSyncing rfl] at keeps
      rw [perform_syncDocument sound.free]
      exact ⟨keeps.options_eq.trans sound.options_eq, rfl,
        (run_surfaceInUse source).trans sound.unused, Forms.areCoherent_ofDocument options _⟩
  | bind isDestroyed fill =>
      exact sound.of_keeps (.bind coordinator _) (performHeld_surfaceInUse (.bind isDestroyed fill))
  | unbind => exact sound.of_keeps (.unbind coordinator) (performHeld_surfaceInUse .unbind)
  | look => exact sound

/-- Whoever looks during a call sees coherent forms. -/
theorem showCoherent_perform
    (sound : coordinator.Sound options)
    (call : Call) :
    ShowCoherent options (coordinator.perform call).2.2 := by
  intro seen member
  cases call with
  | syncMarkdown text =>
      rw [sound.forms_eq_of_syncMarkdown member]
      exact Forms.areCoherent_ofMarkdown options text
  | syncDocument source =>
      rw [sound.forms_eq_of_syncDocument member]
      exact sound.coherent
  | bind isDestroyed fill => cases member
  | unbind => cases member
  | look => cases member

/-- Whoever looks from outside sees the forms as they are. -/
theorem view_eq_of_perform
    (sound : coordinator.Sound options)
    {call : Call}
    {seen : View}
    (answered : (coordinator.perform call).2.1 = .view seen) :
    seen = coordinator.view := by
  cases call with
  | syncMarkdown text =>
      rw [perform_syncMarkdown sound.free sound.unused] at answered
      cases answered
  | syncDocument source =>
      rw [perform_syncDocument sound.free] at answered
      cases answered
  | bind isDestroyed fill => cases answered
  | unbind => cases answered
  | look => exact (Answer.view.inj answered).symm

theorem turn
    (sound : coordinator.Sound options)
    (turn : Turn) :
    (coordinator.turn turn).1.Sound options ∧
      ShowCoherent options (coordinator.turn turn).2 := by
  cases turn with
  | call call =>
      refine ⟨sound.perform call, fun seen member => ?_⟩
      rcases List.mem_append.mp member with during | last
      · exact sound.showCoherent_perform call seen during
      · have answered := Note.answered.inj (List.mem_singleton.mp last)
        rw [sound.view_eq_of_perform answered.symm]
        exact sound.coherent
  | alter change =>
      exact ⟨⟨sound.options_eq, sound.free, sound.unused, sound.coherent⟩, nofun⟩

theorem follow
    (sound : coordinator.Sound options)
    (turns : List Turn) :
    (coordinator.follow turns).1.Sound options ∧
      ShowCoherent options (coordinator.follow turns).2 := by
  induction turns generalizing coordinator with
  | nil => exact ⟨sound, nofun⟩
  | cons turn turns inductionHypothesis =>
      obtain ⟨next, shown⟩ := sound.turn turn
      obtain ⟨last, later⟩ := inductionHypothesis next
      refine ⟨last, fun seen member => ?_⟩
      rcases List.mem_append.mp member with now | after
      · exact shown seen now
      · exact later seen after

end Sound

/-- Between calls, and wherever someone looks during one, the forms belong together. A surface that is
asked or filled sees the forms of the text that is edited, and an editor that is read sees the forms
from before the edit. -/
theorem forms_areCoherent_wherever_seen
    (options : Markdown.Options)
    (turns : List Turn) :
    let after := ((initial options).follow turns).1
    after.forms.AreCoherent options ∧
      (∀ seen, .answered (.view seen) ∈ ((initial options).follow turns).2 →
        seen.forms.AreCoherent options) ∧
      (∀ text seen, .answered (.view seen) ∈ (after.perform (.syncMarkdown text)).2.2 →
        seen.forms = .ofMarkdown options text) ∧
      ∀ source seen, .answered (.view seen) ∈ (after.perform (.syncDocument source)).2.2 →
        seen.forms = after.forms := by
  obtain ⟨sound, shown⟩ := (Sound.initial options).follow turns
  exact ⟨sound.coherent, shown, fun _ _ => sound.forms_eq_of_syncMarkdown,
    fun _ _ => sound.forms_eq_of_syncDocument⟩

/-- A surface that tries an edit of its own while it is filled, and looks before and after. -/
def curious : Surface :=
  ⟨.call .look fun _ => .done false, fun document =>
    .call (.syncDocument (.done document)) fun _ => .call .look fun _ => .done ()⟩

theorem forms_areCoherent_wherever_seen_of_callbacks :
    let turns : List Turn :=
      [.call (.bind curious.isDestroyed curious.fill), .alter id, .call .look]
    let after := ((initial .all).follow turns).1
    let outside : View := ⟨.initial, true, false⟩
    let filled : View := ⟨.ofMarkdown .all "a", true, true⟩
    let read : View := ⟨.initial, true, true⟩
    let source : Program Call Answer RichText.Document := .call .look fun _ => .done ⟨[]⟩
    (.answered (.view outside) ∈ ((initial .all).follow turns).2 ∧
        outside.forms.AreCoherent .all) ∧
      (.answered (.view filled) ∈ (after.perform (.syncMarkdown "a")).2.2 ∧
        filled.forms = .ofMarkdown .all "a") ∧
      .answered (.view read) ∈ (after.perform (.syncDocument source)).2.2 ∧
        read.forms = after.forms := by
  intro turns after outside filled read source
  obtain ⟨_, shown, pushed, taken⟩ := forms_areCoherent_wherever_seen .all turns
  have first : .answered (.view outside) ∈ ((initial .all).follow turns).2 := .tail _ (.head _)
  have second : .answered (.view filled) ∈ (after.perform (.syncMarkdown "a")).2.2 := .head _
  have third : .answered (.view read) ∈ (after.perform (.syncDocument source)).2.2 := .head _
  exact ⟨⟨first, shown outside first⟩, ⟨second, pushed "a" filled second⟩, third,
    taken source read third⟩

end Coordinator
end Sync
end TwinEditor
