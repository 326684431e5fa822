import TwinEditor.Sync.Coordinator

/-!
# The latch of the coordinator

While the latch is taken, no call changes the forms: calls that bring an edit are skipped, and
no other call touches them. Surfaces and editors run their programs only under the latch. So an
edit taken from a free latch ends with the forms that it brings, whatever those programs call,
and the latch is free again.
-/

namespace TwinEditor
namespace Sync
namespace Coordinator

variable {before after last : Coordinator}

/-- What no call changes while the latch is taken. -/
structure Keeps (before after : Coordinator) : Prop where
  options_eq : after.options = before.options
  forms_eq : after.forms = before.forms
  isSyncing_eq : after.isSyncing = before.isSyncing

namespace Keeps

theorem refl (coordinator : Coordinator) : coordinator.Keeps coordinator :=
  ⟨rfl, rfl, rfl⟩

theorem trans
    (first : before.Keeps after)
    (second : after.Keeps last) :
    before.Keeps last :=
  ⟨second.options_eq.trans first.options_eq, second.forms_eq.trans first.forms_eq,
    second.isSyncing_eq.trans first.isSyncing_eq⟩

/-- Binding a surface leaves the forms alone. -/
theorem bind
    (coordinator : Coordinator)
    (surface : Surface) :
    coordinator.Keeps (coordinator.bind surface) := by
  unfold Coordinator.bind
  split <;> exact ⟨rfl, rfl, rfl⟩

theorem unbind (coordinator : Coordinator) : coordinator.Keeps coordinator.unbind.1 := by
  unfold Coordinator.unbind
  split <;> exact ⟨rfl, rfl, rfl⟩

theorem destroySurface (coordinator : Coordinator) : coordinator.Keeps coordinator.destroySurface :=
  ⟨rfl, rfl, rfl⟩

/-- Under the latch every call leaves the forms alone. -/
theorem performWithin
    (locked : before.isSyncing = true)
    (depth : Nat)
    (call : Call) :
    before.Keeps (performWithin depth call before).1 := by
  cases depth with
  | zero => exact refl before
  | succ depth =>
      cases call with
      | syncMarkdown text =>
          simp only [Coordinator.performWithin, locked, if_true]
          exact refl before
      | syncDocument source =>
          simp only [Coordinator.performWithin, locked, if_true]
          exact refl before
      | bind isDestroyed fill => exact bind before ⟨isDestroyed, fill⟩
      | unbind => exact unbind before
      | look => exact refl before

/-- Under the latch every program leaves the forms alone. -/
theorem run
    {Result : Type}
    (locked : before.isSyncing = true)
    (depth : Nat)
    (program : Program Call Answer Result) :
    before.Keeps (program.run (Coordinator.performWithin depth) Note.answered before).1 := by
  induction program generalizing before with
  | done result => exact refl before
  | call request next inductionHypothesis =>
      have called := performWithin locked depth request
      exact called.trans (inductionHypothesis _ (called.isSyncing_eq.trans locked))

/-- Under the latch the surface may be filled without changing the forms. -/
theorem push
    (locked : before.isSyncing = true)
    (depth : Nat) :
    before.Keeps (push (Coordinator.performWithin depth) before).1 := by
  unfold Coordinator.push
  split
  · exact refl before
  case h_2 surface bound =>
    have inUse : before.Keeps { before with surfaceInUse := true } := ⟨rfl, rfl, rfl⟩
    have asked := inUse.trans (run (inUse.isSyncing_eq.trans locked) depth surface.isDestroyed)
    dsimp only
    split
    · exact ⟨asked.options_eq, asked.forms_eq, asked.isSyncing_eq⟩
    · have filled := asked.trans (run (asked.isSyncing_eq.trans locked) depth
        (surface.fill before.forms.document))
      exact ⟨filled.options_eq, filled.forms_eq, filled.isSyncing_eq⟩

end Keeps

/-- A coordinator whose latch is free, holding given forms. -/
structure Rests (coordinator : Coordinator) (forms : Forms) : Prop where
  forms_eq : coordinator.forms = forms
  isSyncing_eq : coordinator.isSyncing = false

variable {coordinator : Coordinator}

/-- A Markdown edit taken from a free latch is applied and gives the forms of its text, whatever the
surface calls while it is filled. -/
theorem rests_of_syncMarkdown
    (free : coordinator.isSyncing = false)
    (text : String) :
    (coordinator.perform (.syncMarkdown text)).2.1 = .synced (.applied .markdown) ∧
      (coordinator.perform (.syncMarkdown text)).1.Rests
        (.ofMarkdown coordinator.options text) := by
  simp only [perform, maxDepth, performWithin, free, Bool.false_eq_true, if_false]
  have pushed := @Keeps.push
    { coordinator with isSyncing := true, forms := .ofMarkdown coordinator.options text } rfl 1
  exact ⟨trivial, pushed.forms_eq, rfl⟩

/-- A rich-text edit taken from a free latch is applied and gives the forms of the document that is
read, whatever the editor calls while it is read. -/
theorem rests_of_syncDocument
    (free : coordinator.isSyncing = false)
    (source : Program Call Answer RichText.Document) :
    (coordinator.perform (.syncDocument source)).2.1 = .synced (.applied .richText) ∧
      (coordinator.perform (.syncDocument source)).1.Rests (.ofDocument
        (source.run (performWithin 1) .answered { coordinator with isSyncing := true }).2.1) := by
  simp only [perform, maxDepth, performWithin, free, Bool.false_eq_true, if_false]
  exact ⟨trivial, rfl, rfl⟩

/-- No call changes the options. -/
theorem perform_options
    (coordinator : Coordinator)
    (call : Call) :
    (coordinator.perform call).1.options = coordinator.options := by
  cases free : coordinator.isSyncing with
  | true => exact (Keeps.performWithin free maxDepth call).options_eq
  | false =>
      cases call with
      | syncMarkdown text =>
          simp only [perform, maxDepth, performWithin, free, Bool.false_eq_true, if_false]
          have pushed := @Keeps.push
            { coordinator with isSyncing := true, forms := .ofMarkdown coordinator.options text }
            rfl 1
          exact pushed.options_eq
      | syncDocument source =>
          simp only [perform, maxDepth, performWithin, free, Bool.false_eq_true, if_false]
          have read := @Keeps.run { coordinator with isSyncing := true } _ rfl 1 source
          exact read.options_eq
      | bind isDestroyed fill => exact (Keeps.bind coordinator ⟨isDestroyed, fill⟩).options_eq
      | unbind => exact (Keeps.unbind coordinator).options_eq
      | look => rfl

end Coordinator
end Sync
end TwinEditor
