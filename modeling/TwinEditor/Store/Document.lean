import TwinEditor.Failure
import TwinEditor.Store.Uuid

/-!
# Stored documents

A store keeps one Markdown text for each project. Every accepted write gives the document its next
version, and a write is accepted only when it presents the version that the store holds.
-/

namespace TwinEditor
namespace Store

/-- A document as a store keeps it. Versions have no upper bound here: that a version of 64 bits would run
over is left out. -/
structure Document where
  id : Uuid
  project : Uuid
  content : String
  version : Int
  deriving Repr, DecidableEq

/-- How a store answers a write. -/
inductive UpdateReply
  /-- The write is accepted and the document has a new version. -/
  | saved (version : Int)
  /-- The write presents a version that is not the current one. -/
  | conflict
  | failed (failure : Failure)
  deriving Repr, DecidableEq

/-- How a store answers a request for the document of a project. -/
abbrev FetchReply := Except Failure Document

end Store
end TwinEditor
