import TwinEditor.Sync.Forms
import TwinEditor.Sync.Program

/-!
# The coordinator of two editors

The coordinator holds the forms of a text and takes edits from both editors. An edit made in Markdown
is pushed into the surface of the rich-text editor, which may well call back while it is filled; a
rich-text editor may call back while its document is read. One latch covers every edit from its start
to its end. A call that brings another edit while the latch is taken is skipped, never kept for later.
-/

namespace TwinEditor
namespace Sync

/-- What becomes of an edit. -/
inductive Outcome
  | applied (editor : Editor)
  | skipped
  deriving Repr, DecidableEq

/-- What can be read from a coordinator. -/
structure View where
  forms : Forms
  hasSurface : Bool
  isSyncing : Bool
  deriving Repr, BEq

/-- What a call is answered. -/
inductive Answer
  | synced (outcome : Outcome)
  | bound
  /-- Whether a surface was given back. -/
  | unbound (found : Bool)
  | view (view : View)
  deriving Repr, BEq

/-- A call to a coordinator. A call that hands over a rich-text document, or a surface, comes with the
programs that run while the coordinator uses it. -/
inductive Call
  | syncMarkdown (text : String)
  /-- Take an edit from the rich-text editor. The program gives the document when it is read. -/
  | syncDocument (source : Program Call Answer RichText.Document)
  | bind (isDestroyed : Program Call Answer Bool)
      (fill : RichText.Document → Program Call Answer Unit)
  | unbind
  | look

/-- A surface of a rich-text editor: the programs it runs when it is asked whether it is gone, and when
it is filled with a document. -/
structure Surface where
  isDestroyed : Program Call Answer Bool
  fill : RichText.Document → Program Call Answer Unit

/-- A surface that makes no calls. -/
def Surface.quiet (destroyed : Bool) : Surface :=
  ⟨.done destroyed, fun _ => .done ()⟩

/-- What happens during a call, in order. -/
inductive Note
  /-- A document is handed to a surface. -/
  | pushed (document : RichText.Document)
  /-- A program that runs during the call is answered. -/
  | answered (answer : Answer)
  deriving Repr, BEq

/-- The forms of a text, the surface that is bound, and what is in use. -/
structure Coordinator where
  options : Markdown.Options
  forms : Forms
  surface : Option Surface
  /-- The latch: whether an edit is being taken. -/
  isSyncing : Bool
  /-- Whether the bound surface is being filled. -/
  surfaceInUse : Bool

namespace Coordinator

/-- A coordinator before the first edit. -/
def initial (options : Markdown.Options) : Coordinator :=
  ⟨options, .initial, none, false, false⟩

/-- Whether a surface is bound. -/
def hasSurface (coordinator : Coordinator) : Bool :=
  coordinator.surfaceInUse || coordinator.surface.isSome

/-- What can be read from a coordinator now. -/
def view (coordinator : Coordinator) : View :=
  ⟨coordinator.forms, coordinator.hasSurface, coordinator.isSyncing⟩

/-- Bind a surface in place of the one that is bound, unless that one is being filled. -/
def bind (coordinator : Coordinator) (surface : Surface) : Coordinator :=
  if coordinator.surfaceInUse then coordinator else { coordinator with surface := some surface }

/-- Give the bound surface back, unless it is being filled. -/
def unbind (coordinator : Coordinator) : Coordinator × Option Surface :=
  if coordinator.surfaceInUse then (coordinator, none)
  else ({ coordinator with surface := none }, coordinator.surface)

/-- The bound surface is gone from now on. -/
def destroySurface (coordinator : Coordinator) : Coordinator :=
  { coordinator with
    surface := coordinator.surface.map fun surface => { surface with isDestroyed := .done true } }

/-- Fill the bound surface with the current document unless it is gone, given how calls are performed
while it is in use. -/
def push (perform : Call → Coordinator → Coordinator × Answer × List Note)
    (coordinator : Coordinator) : Coordinator × List Note :=
  match coordinator.surface with
  | none => (coordinator, [])
  | some surface =>
      let document := coordinator.forms.document
      let inUse := { coordinator with surfaceInUse := true }
      let (coordinator, destroyed, asked) := surface.isDestroyed.run perform .answered inUse
      if destroyed then ({ coordinator with surfaceInUse := false }, asked)
      else
        let (coordinator, _, filled) := (surface.fill document).run perform .answered coordinator
        ({ coordinator with surfaceInUse := false }, asked ++ .pushed document :: filled)

/-- Perform a call: the coordinator afterwards, the answer, and what happened during the call. Calls
made during the call are performed in the same way, and the first argument bounds how deeply they
nest: beyond it they are skipped. -/
def performWithin : Nat → Call → Coordinator → Coordinator × Answer × List Note
  | 0, _, coordinator => (coordinator, .synced .skipped, [])
  | depth + 1, call, coordinator =>
      match call with
      | .syncMarkdown text =>
          if coordinator.isSyncing then (coordinator, .synced .skipped, [])
          else
            let (coordinator, notes) := push (performWithin depth)
              { coordinator with
                isSyncing := true
                forms := .ofMarkdown coordinator.options text }
            ({ coordinator with isSyncing := false }, .synced (.applied .markdown), notes)
      | .syncDocument source =>
          if coordinator.isSyncing then (coordinator, .synced .skipped, [])
          else
            let (coordinator, document, notes) :=
              source.run (performWithin depth) .answered { coordinator with isSyncing := true }
            ({ coordinator with isSyncing := false, forms := .ofDocument document },
              .synced (.applied .richText), notes)
      | .bind isDestroyed fill => (coordinator.bind ⟨isDestroyed, fill⟩, .bound, [])
      | .unbind =>
          let (coordinator, surface) := coordinator.unbind
          (coordinator, .unbound surface.isSome, [])
      | .look => (coordinator, .view coordinator.view, [])

/-- How deeply calls nest. Programs run only during an edit, and then the latch is taken: a call made by
such a program runs no program of its own. -/
def maxDepth : Nat := 2

/-- Perform a call: the coordinator afterwards, the answer, and what happened during the call. -/
def perform (call : Call) (coordinator : Coordinator) : Coordinator × Answer × List Note :=
  performWithin maxDepth call coordinator

end Coordinator
end Sync
end TwinEditor
