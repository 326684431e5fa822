import TwinEditor.Json.Printer
import TwinEditor.Json.Reader
import TwinEditor.Json.Record
import TwinEditor.Store.Document
import TwinEditor.Store.Timestamp

/-!
# Responses of a remote store

A remote store answers a write with a status code and a body. The body of an accepted write is the
document as it is now; the body of a refused one may carry a message.
-/

namespace TwinEditor
namespace Store

/-- A document together with the time of its last write. -/
structure DatedDocument where
  document : Document
  updatedAt : Timestamp
  deriving Repr, DecidableEq

namespace DatedDocument

/-- The names of the members of a document. -/
def memberNames : List String :=
  ["id", "projectId", "contentMd", "version", "updatedAt"]

/-- A document as JSON. -/
def toJson (dated : DatedDocument) : Json :=
  .object [("id", .string dated.document.id.toText),
    ("projectId", .string dated.document.project.toText),
    ("contentMd", .string dated.document.content), ("version", .integer dated.document.version),
    ("updatedAt", .string dated.updatedAt.toText)]

/-- Read a version. -/
def versionOfJson? : Json → Option Int
  | .integer value =>
      if Int64.minValue.toInt ≤ value ∧ value ≤ Int64.maxValue.toInt then some value else none
  | _ => none

/-- Read a document. Every member must be given. -/
def ofJson? (json : Json) : Option DatedDocument := do
  let [some id, some project, some content, some version, some updatedAt] ←
    (← Json.Fields.ofJson? json).read? memberNames | none
  let document : Document := {
    id := ← Uuid.ofText? (← id.string?)
    project := ← Uuid.ofText? (← project.string?)
    content := ← content.string?
    version := ← versionOfJson? version }
  return ⟨document, ← Timestamp.ofText? (← updatedAt.string?)⟩

/-- Read the JSON text of a document. -/
def ofText? (text : String) : Option DatedDocument := do
  ofJson? (← Json.read? text)

end DatedDocument

/-- The body of a request to write a content. -/
def updateRequest (content : String) : Json :=
  .object [("contentMd", .string content)]

/-- The short error and the message that the body of a refusal gives. -/
def errorTexts? (body : String) : Option (Option String × Option String) := do
  let [error, message] ← (← Json.Fields.ofJson? (← Json.read? body)).read? ["error", "message"] | none
  return (← (error.getD .null).optionalString?, ← (message.getD .null).optionalString?)

/-- What the body of a refusal says: its message, else its short error, else the body itself. -/
def errorMessage (body : String) : String :=
  match errorTexts? body with
  | some (_, some message) => message
  | some (some error, none) => error
  | _ => .ofList (Text.trim Text.isBlank body.toList)

/-- What a response to a write means. -/
inductive Response
  | saved (dated : DatedDocument)
  | conflict
  | failed (failure : Failure)
  deriving Repr, DecidableEq

/-- The meaning of a status code and body that answer a write to a document. -/
def Response.ofStatus (document : Uuid) (status : Nat) (body : String) : Response :=
  if status = 200 then
    match DatedDocument.ofText? body with
    | some dated => .saved dated
    | none => .failed (.malformedReply "invalid document" none)
  else if status = 409 then .conflict
  else if status = 404 then .failed (.documentNotFound document.toText)
  else .failed (.server status (errorMessage body))

end Store
end TwinEditor
