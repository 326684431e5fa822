import TwinEditor.Proofs.Sync.Latch

/-!
# Calls during an edit

Surfaces and editors call back while an edit is taken. The latch is then taken, so that none of these
calls runs a program of its own: what a program does during an edit follows from what each of its
calls does under the latch, and calls never nest more deeply than that. Such a call is answered the
same way whatever came before it, as long as nothing but the latch matters to it.
-/

namespace TwinEditor
namespace Sync

/-- Whether an answer is one that a call gets during an edit: a further edit is skipped, and whoever
looks sees the given forms and the latch taken. While a surface is in use, none is given back and one
is seen. -/
def Answer.IsNested (forms : Forms) (inUse : Bool) : Answer → Prop
  | .synced outcome => outcome = .skipped
  | .bound => True
  | .unbound found => inUse = true → found = false
  | .view seen =>
      seen.forms = forms ∧ seen.isSyncing = true ∧ (inUse = true → seen.hasSurface = true)

/-- Whether all of some notes are such answers. -/
def AreNested (forms : Forms) (inUse : Bool) (notes : List Note) : Prop :=
  ∀ note ∈ notes, ∃ answer, note = .answered answer ∧ answer.IsNested forms inUse

namespace AreNested

variable {forms : Forms} {inUse : Bool} {notes later : List Note}

theorem nil : AreNested forms inUse [] :=
  nofun

theorem append
    (first : AreNested forms inUse notes)
    (second : AreNested forms inUse later) :
    AreNested forms inUse (notes ++ later) :=
  List.forall_mem_append.mpr ⟨first, second⟩

theorem cons
    {answer : Answer}
    (first : answer.IsNested forms inUse)
    (second : AreNested forms inUse later) :
    AreNested forms inUse (.answered answer :: later) :=
  List.forall_mem_cons.mpr ⟨⟨answer, rfl, first⟩, second⟩

theorem isNested
    (nested : AreNested forms inUse notes)
    {answer : Answer}
    (member : .answered answer ∈ notes) :
    answer.IsNested forms inUse := by
  obtain ⟨_, same, isNested⟩ := nested _ member
  obtain rfl := Note.answered.inj same
  exact isNested

end AreNested

namespace Coordinator

variable {coordinator : Coordinator} {Result : Type}

/-- Perform a call while the latch is taken. -/
def performHeld (call : Call) (coordinator : Coordinator) : Coordinator × Answer × List Note :=
  match call with
  | .syncMarkdown _ | .syncDocument _ => (coordinator, .synced .skipped, [])
  | .bind isDestroyed fill => (coordinator.bind ⟨isDestroyed, fill⟩, .bound, [])
  | .unbind => (coordinator.unbind.1, .unbound coordinator.unbind.2.isSome, [])
  | .look => (coordinator, .view coordinator.view, [])

theorem performWithin_of_isSyncing
    (locked : coordinator.isSyncing = true)
    (depth : Nat)
    (call : Call) :
    performWithin (depth + 1) call coordinator = performHeld call coordinator := by
  cases call with
  | syncMarkdown text => simp only [performWithin, performHeld, locked, if_true]
  | syncDocument source => simp only [performWithin, performHeld, locked, if_true]
  | bind isDestroyed fill => rfl
  | unbind => rfl
  | look => rfl

theorem keeps_performHeld
    (locked : coordinator.isSyncing = true)
    (call : Call) :
    coordinator.Keeps (performHeld call coordinator).1 :=
  performWithin_of_isSyncing locked 0 call ▸ Keeps.performWithin locked 1 call

@[simp] theorem performHeld_notes (call : Call) : (performHeld call coordinator).2.2 = [] := by
  cases call <;> rfl

theorem performHeld_surfaceInUse (call : Call) :
    (performHeld call coordinator).1.surfaceInUse = coordinator.surfaceInUse := by
  cases call with
  | bind isDestroyed fill =>
      simp only [performHeld, bind]
      split <;> rfl
  | unbind =>
      simp only [performHeld, unbind]
      split <;> rfl
  | _ => rfl

/-- A surface in use is neither replaced nor given back. -/
theorem performHeld_of_surfaceInUse
    (inUse : coordinator.surfaceInUse = true)
    (call : Call) :
    (performHeld call coordinator).1 = coordinator := by
  cases call with
  | bind isDestroyed fill => simp [performHeld, bind, inUse]
  | unbind => simp [performHeld, unbind, inUse]
  | _ => rfl

theorem isNested_performHeld
    (locked : coordinator.isSyncing = true)
    (call : Call) :
    (performHeld call coordinator).2.1.IsNested coordinator.forms coordinator.surfaceInUse := by
  cases call with
  | syncMarkdown text => rfl
  | syncDocument source => rfl
  | bind isDestroyed fill => trivial
  | unbind =>
      intro inUse
      simp [unbind, inUse]
  | look =>
      refine ⟨rfl, locked, fun inUse => ?_⟩
      simp [view, hasSurface, inUse]

/-- While the latch is taken, a program runs as its calls do. -/
theorem run_of_isSyncing
    (locked : coordinator.isSyncing = true)
    (depth : Nat)
    (program : Program Call Answer Result) :
    program.run (performWithin (depth + 1)) Note.answered coordinator =
      program.run performHeld Note.answered coordinator := by
  induction program generalizing coordinator with
  | done result => rfl
  | call request next inductionHypothesis =>
      have keeps := Keeps.performWithin locked (depth + 1) request
      rw [performWithin_of_isSyncing locked] at keeps
      have rest := inductionHypothesis (performHeld request coordinator).2.1
        (keeps.isSyncing_eq.trans locked)
      simp only [Program.run_call, performWithin_of_isSyncing locked, rest]

/-- A program that runs while the latch is taken is answered as during an edit. -/
theorem areNested_run
    (locked : coordinator.isSyncing = true)
    (program : Program Call Answer Result) :
    AreNested coordinator.forms coordinator.surfaceInUse
      (program.run performHeld .answered coordinator).2.2 := by
  induction program generalizing coordinator with
  | done result => exact .nil
  | call request next inductionHypothesis =>
      have keeps := keeps_performHeld locked request
      have later := inductionHypothesis (performHeld request coordinator).2.1
        (keeps.isSyncing_eq.trans locked)
      rw [keeps.forms_eq, performHeld_surfaceInUse] at later
      simp only [Program.run_call, performHeld_notes, List.nil_append]
      exact .cons (isNested_performHeld locked request) later

theorem run_surfaceInUse (program : Program Call Answer Result) :
    (program.run performHeld .answered coordinator).1.surfaceInUse = coordinator.surfaceInUse := by
  induction program generalizing coordinator with
  | done result => rfl
  | call request next inductionHypothesis =>
      exact (inductionHypothesis _).trans (performHeld_surfaceInUse request)

/-- A program that runs while the surface is in use changes nothing. -/
theorem run_of_surfaceInUse
    (inUse : coordinator.surfaceInUse = true)
    (program : Program Call Answer Result) :
    (program.run performHeld .answered coordinator).1 = coordinator := by
  induction program with
  | done result => rfl
  | call request next inductionHypothesis =>
      simp only [Program.run_call, performHeld_of_surfaceInUse inUse, inductionHypothesis]

/-- A coordinator while its surface is in use. -/
def occupied (coordinator : Coordinator) : Coordinator :=
  { coordinator with surfaceInUse := true }

/-- A bound surface is asked whether it is gone, and filled if it is not. -/
theorem push_of_bound
    (perform : Call → Coordinator → Coordinator × Answer × List Note)
    {surface : Surface}
    (bound : coordinator.surface = some surface) :
    push perform coordinator =
      let document := coordinator.forms.document
      let asked := surface.isDestroyed.run perform .answered coordinator.occupied
      let filled := (surface.fill document).run perform .answered asked.1
      if asked.2.1 then ({ asked.1 with surfaceInUse := false }, asked.2.2)
      else ({ filled.1 with surfaceInUse := false }, asked.2.2 ++ .pushed document :: filled.2.2) := by
  rw [push, occupied, bound]

/-- While the latch is taken, a surface is filled as the calls that it makes are performed. -/
theorem push_of_isSyncing
    (locked : coordinator.isSyncing = true)
    (depth : Nat) :
    push (performWithin (depth + 1)) coordinator = push performHeld coordinator := by
  cases bound : coordinator.surface with
  | none => rw [push, push, bound]
  | some surface =>
      have asked := @run_of_isSyncing coordinator.occupied _ locked depth
        surface.isDestroyed
      have kept := (@Keeps.run coordinator.occupied _ locked (depth + 1)
        surface.isDestroyed).isSyncing_eq.trans locked
      rw [asked] at kept
      simp only [push_of_bound _ bound, asked, run_of_isSyncing kept]

/-- A coordinator while an edit is taken, with the forms that it has then. -/
def editing (coordinator : Coordinator) (forms : Forms) : Coordinator :=
  { coordinator with forms := forms, isSyncing := true }

/-- A Markdown edit that finds the latch free gives the forms of its text and fills the surface. -/
theorem performWithin_syncMarkdown
    (free : coordinator.isSyncing = false)
    (depth : Nat)
    (text : String) :
    performWithin (depth + 2) (.syncMarkdown text) coordinator =
      let pushed := push performHeld (coordinator.editing (.ofMarkdown coordinator.options text))
      ({ pushed.1 with isSyncing := false }, .synced (.applied .markdown), pushed.2) := by
  rw [performWithin]
  simp only [free, Bool.false_eq_true, if_false]
  rw [push_of_isSyncing rfl, editing]

/-- A rich-text edit that finds the latch free gives the forms of the document that is read. -/
theorem performWithin_syncDocument
    (free : coordinator.isSyncing = false)
    (depth : Nat)
    (source : Program Call Answer RichText.Document) :
    performWithin (depth + 2) (.syncDocument source) coordinator =
      let read := source.run performHeld .answered (coordinator.editing coordinator.forms)
      ({ read.1 with isSyncing := false, forms := .ofDocument read.2.1 },
        .synced (.applied .richText), read.2.2) := by
  rw [performWithin]
  simp only [free, Bool.false_eq_true, if_false]
  rw [run_of_isSyncing rfl, editing]

/-- Calls never nest so deeply that the bound on their depth would matter. -/
theorem performWithin_add_two
    (depth : Nat)
    (call : Call)
    (coordinator : Coordinator) :
    performWithin (depth + 2) call coordinator = perform call coordinator := by
  rw [perform, maxDepth]
  cases taken : coordinator.isSyncing with
  | true => rw [performWithin_of_isSyncing taken, performWithin_of_isSyncing taken]
  | false =>
      cases call with
      | syncMarkdown text =>
          rw [performWithin_syncMarkdown taken, performWithin_syncMarkdown taken 0]
      | syncDocument source =>
          rw [performWithin_syncDocument taken, performWithin_syncDocument taken 0]
      | bind isDestroyed fill => rfl
      | unbind => rfl
      | look => rfl

/-- Nothing changes while a surface is in use. -/
theorem push_performHeld_of_bound
    (unused : coordinator.surfaceInUse = false)
    {surface : Surface}
    (bound : coordinator.surface = some surface) :
    push performHeld coordinator =
      let document := coordinator.forms.document
      let asked := surface.isDestroyed.run performHeld .answered coordinator.occupied
      let filled := (surface.fill document).run performHeld .answered coordinator.occupied
      (coordinator, asked.2.2 ++ if asked.2.1 then [] else .pushed document :: filled.2.2) := by
  have asked := @run_of_surfaceInUse coordinator.occupied _ rfl surface.isDestroyed
  have filled := @run_of_surfaceInUse coordinator.occupied _ rfl
    (surface.fill coordinator.forms.document)
  have released : ({ coordinator.occupied with surfaceInUse := false } : Coordinator) = coordinator := by
    rw [occupied, ← unused]
  rw [push_of_bound _ bound]
  simp only [asked, filled, released]
  split
  · rw [List.append_nil]
  · rfl

theorem push_performHeld_fst (unused : coordinator.surfaceInUse = false) :
    (push performHeld coordinator).1 = coordinator := by
  cases bound : coordinator.surface with
  | none => rw [push, bound]
  | some surface => rw [push_performHeld_of_bound unused bound]

/-- Whoever runs while a surface is asked and filled is answered as during an edit. -/
theorem isNested_of_mem_push
    (locked : coordinator.isSyncing = true)
    (unused : coordinator.surfaceInUse = false)
    {answer : Answer}
    (member : .answered answer ∈ (push performHeld coordinator).2) :
    answer.IsNested coordinator.forms true := by
  cases bound : coordinator.surface with
  | none =>
      rw [push, bound] at member
      cases member
  | some surface =>
      have nested {Result : Type} (program : Program Call Answer Result) :=
        @areNested_run coordinator.occupied _ locked program
      rw [push_performHeld_of_bound unused bound] at member
      rcases List.mem_append.mp member with asked | later
      · exact (nested surface.isDestroyed).isNested asked
      · split at later
        · cases later
        · have filled := (List.mem_cons.mp later).resolve_left nofun
          exact (nested (surface.fill coordinator.forms.document)).isNested filled

/-- An edit from a free latch, with the surface out of use, leaves everything but the forms. -/
theorem perform_syncMarkdown
    (free : coordinator.isSyncing = false)
    (unused : coordinator.surfaceInUse = false)
    (text : String) :
    let forms := Forms.ofMarkdown coordinator.options text
    coordinator.perform (.syncMarkdown text) =
      ({ coordinator with forms := forms }, .synced (.applied .markdown),
        (push performHeld (coordinator.editing forms)).2) := by
  intro forms
  have filled : (push performHeld (coordinator.editing forms)).1 = coordinator.editing forms :=
    push_performHeld_fst unused
  rw [perform, maxDepth, performWithin_syncMarkdown free 0]
  simp only [filled, forms]
  rw [editing, ← free]

theorem perform_syncDocument
    (free : coordinator.isSyncing = false)
    (source : Program Call Answer RichText.Document) :
    coordinator.perform (.syncDocument source) =
      let read := source.run performHeld .answered (coordinator.editing coordinator.forms)
      ({ read.1 with isSyncing := false, forms := .ofDocument read.2.1 },
        .synced (.applied .richText), read.2.2) :=
  performWithin_syncDocument free 0 source

theorem isNested_of_mem_syncMarkdown
    (free : coordinator.isSyncing = false)
    (unused : coordinator.surfaceInUse = false)
    {text : String}
    {answer : Answer}
    (member : .answered answer ∈ (coordinator.perform (.syncMarkdown text)).2.2) :
    answer.IsNested (.ofMarkdown coordinator.options text) true := by
  rw [perform_syncMarkdown free unused] at member
  exact @isNested_of_mem_push (coordinator.editing _) rfl unused answer member

theorem areNested_syncDocument
    (free : coordinator.isSyncing = false)
    (source : Program Call Answer RichText.Document) :
    AreNested coordinator.forms coordinator.surfaceInUse
      (coordinator.perform (.syncDocument source)).2.2 := by
  rw [perform_syncDocument free]
  exact @areNested_run (coordinator.editing coordinator.forms) _ rfl source

end Coordinator
end Sync
end TwinEditor
