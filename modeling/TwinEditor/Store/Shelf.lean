import TwinEditor.Store.Document

/-!
# Stores in memory

A shelf is a store that keeps its documents in memory, in the order in which they were made. It applies
the rules of every store: a document starts at version one, a write that presents another version than
the current one is a conflict, and an accepted write makes the next version.
-/

namespace TwinEditor
namespace Store

/-- The documents of a store, the oldest first. -/
structure Shelf where
  documents : List Document
  deriving Repr, DecidableEq

namespace Shelf

/-- The store with no documents. -/
def empty : Shelf :=
  ⟨[]⟩

/-- The document with an identifier. -/
def get? (shelf : Shelf) (id : Uuid) : Option Document :=
  shelf.documents.find? (·.id == id)

/-- Make the document of a project under an identifier that is not in use. -/
def create (shelf : Shelf) (id project : Uuid) (content : String) : Shelf × Document :=
  let document : Document := ⟨id, project, content, 1⟩
  (⟨shelf.documents ++ [document]⟩, document)

/-- The store with a document in place of the one that has its identifier. -/
def replace (shelf : Shelf) (document : Document) : Shelf :=
  ⟨shelf.documents.map fun other => if other.id == document.id then document else other⟩

/-- A document with a new content and the version after its own, which always exists. -/
def revise (document : Document) (content : String) : Document :=
  { document with content, version := document.version + 1 }

/-- Write as somebody would who does not look at the version. -/
def overwrite (shelf : Shelf) (id : Uuid) (content : String) : Except Failure (Shelf × Document) :=
  match shelf.get? id with
  | none => .error (.documentNotFound id.toText)
  | some document =>
      let revised := revise document content
      .ok (shelf.replace revised, revised)

/-- Write under a version. -/
def update (shelf : Shelf) (id : Uuid) (content : String) (version : Int) : Shelf × UpdateReply :=
  match shelf.get? id with
  | none => (shelf, .failed (.documentNotFound id.toText))
  | some document =>
      if document.version = version then
        let revised := revise document content
        (shelf.replace revised, .saved revised.version)
      else (shelf, .conflict)

/-- The document of a project. -/
def fetch (shelf : Shelf) (project : Uuid) : FetchReply :=
  match shelf.documents.find? (·.project == project) with
  | none => .error (.documentNotFound ("project " ++ project.toText))
  | some document => .ok document

end Shelf
end Store
end TwinEditor
