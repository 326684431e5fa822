import TwinEditor.Autosave.Pipeline
import TwinEditor.Store.Shelf

/-!
# Stores that are called

A machine calls a store and gets each answer some time later. Two stores are given here: a shelf, which
answers at once, and a script, which gives answers that were written down beforehand.
-/

namespace TwinEditor
namespace Autosave

open Store

/-- An answer and the milliseconds it takes. -/
structure Delayed (α : Type) where
  delay : Nat
  reply : α
  deriving Repr

/-- A store that can be called. -/
class Remote (σ : Type) where
  update : σ → Write → σ × Delayed UpdateReply
  fetch : σ → Uuid → σ × Delayed FetchReply

instance : Remote Shelf where
  update shelf write :=
    let (shelf, reply) := shelf.update write.documentId write.content write.version
    (shelf, ⟨0, reply⟩)
  fetch shelf project := (shelf, ⟨0, shelf.fetch project⟩)

/-- An answer to a write that is written down beforehand. -/
inductive PlannedReply
  /-- The write is accepted under a given version, or else under the one after the version presented. -/
  | saved (version : Option Int)
  | conflict
  | failed (failure : Failure)
  deriving Repr, DecidableEq

/-- The version after another one. Versions are words of 64 bits with a sign. -/
def nextVersion (version : Int) : Int :=
  (version + 1).bmod Int64.size

/-- The answer to a write that presents a version. -/
def PlannedReply.toReply (presented : Int) : PlannedReply → UpdateReply
  | .saved version => .saved (version.getD (nextVersion presented))
  | .conflict => .conflict
  | .failed failure => .failed failure

/-- Answers in the order in which they will be given. -/
structure Script where
  updates : List (Delayed PlannedReply)
  fetches : List (Delayed FetchReply)

namespace Script

/-- The answer to a fetch when none is written down. -/
def unavailable : FetchReply :=
  .error (.server 503 "unavailable")

/-- The script that goes on with another one. -/
def append (script later : Script) : Script :=
  ⟨script.updates ++ later.updates, script.fetches ++ later.fetches⟩

end Script

instance : Remote Script where
  update script write :=
    let planned := script.updates.head?.getD ⟨0, .saved none⟩
    ({ script with updates := script.updates.tail },
      ⟨planned.delay, planned.reply.toReply write.version⟩)
  fetch script _ :=
    ({ script with fetches := script.fetches.tail },
      script.fetches.head?.getD ⟨0, Script.unavailable⟩)

end Autosave
end TwinEditor
