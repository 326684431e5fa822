import TwinEditor.Json.Printer
import TwinEditor.Json.Reader
import TwinEditor.Json.Record
import TwinEditor.RichText.Document

/-!
# Rich-text documents as JSON

Every node and mark is an object with its kind in the member `type`. Attributes stand in an object of
their own. Empty content is left out where a node is usually filled with text, and written where a
node is a container of blocks. Reading never fails on an unknown kind: it becomes a place holder.
-/

namespace TwinEditor
namespace RichText

/-- A member that is left out when its list is empty. -/
def unlessEmpty (name : String) (items : List Json) : List (String × Json) :=
  if items.isEmpty then [] else [(name, .array items)]

namespace Mark

/-- The names of the kinds of marks in the order that numbers them. -/
def kinds : List String :=
  ["bold", "italic", "code", "link"]

/-- A mark as JSON. -/
def toJson : Mark → Json
  | .bold => .variant "bold" []
  | .italic => .variant "italic" []
  | .code => .variant "code" []
  | .link href target =>
      .variant "link" [("attrs", .object (("href", .string href) ::
        match target with
        | some target => [("target", .string target)]
        | none => []))]
  | .unsupported => .variant "unsupported" []

/-- Read the attributes of a link. -/
def linkOfJson? (attrs : Json) : Option Mark := do
  let [href, target] ← (← Json.Fields.ofJson? attrs).read? ["href", "target"] | none
  return .link (← (href.getD (.string "")).string?) (← (target.getD .null).optionalString?)

/-- Read a mark. Marks always stand inside a node. -/
def ofJson? (json : Json) : Option Mark := do
  let (tag, fields) ← json.variant? true
  match tag.resolve kinds with
  | some "bold" => Json.withoutFields? .bold fields
  | some "italic" => Json.withoutFields? .italic fields
  | some "code" => Json.withoutFields? .code fields
  | some "link" =>
      let [attrs] ← fields.read? ["attrs"] | none
      linkOfJson? (attrs.getD (.object []))
  | _ => Json.withoutFields? .unsupported fields

end Mark

namespace Node

/-- The names of the kinds of nodes in the order that numbers them. -/
def kinds : List String :=
  ["heading", "paragraph", "bulletList", "orderedList", "listItem", "codeBlock", "blockquote",
    "horizontalRule", "text"]

mutual

/-- A node as JSON. -/
def toJson : Node → Json
  | .heading level content =>
      .variant "heading" (("attrs", .object [("level", .ofNat level.toNat)]) ::
        unlessEmpty "content" (toJsons content))
  | .paragraph content => .variant "paragraph" (unlessEmpty "content" (toJsons content))
  | .bulletList content => .variant "bulletList" [("content", .array (toJsons content))]
  | .orderedList content => .variant "orderedList" [("content", .array (toJsons content))]
  | .listItem content => .variant "listItem" [("content", .array (toJsons content))]
  | .codeBlock language content =>
      .variant "codeBlock" (("attrs", .object [("language", .ofOptionalString language)]) ::
        unlessEmpty "content" (toJsons content))
  | .blockquote content => .variant "blockquote" [("content", .array (toJsons content))]
  | .horizontalRule => .variant "horizontalRule" []
  | .text value marks =>
      .variant "text" (("text", .string value) :: unlessEmpty "marks" (marks.map Mark.toJson))
  | .unsupported => .variant "unsupported" []

/-- A sequence of nodes as JSON. -/
def toJsons : List Node → List Json
  | [] => []
  | node :: rest => node.toJson :: toJsons rest

end

/-- Read the level of a heading from its attributes. Without attributes it is one. -/
def levelOfJson? : Option Json → Option UInt8
  | none => some 1
  | some attrs => do
      let [some level] ← (← Json.Fields.ofJson? attrs).read? ["level"] | none
      return UInt8.ofNat (← level.natBelow? 256)

/-- Read the language of a code block from its attributes. -/
def languageOfJson? : Option Json → Option (Option String)
  | none => some none
  | some attrs => do
      let [language] ← (← Json.Fields.ofJson? attrs).read? ["language"] | none
      (language.getD .null).optionalString?

/-- Read a node from its kind and fields, given how to read the nodes inside it. -/
def ofFields? (read : Json → Option Node) (kind : Option String) (fields : Json.Fields) :
    Option Node := do
  let contentOnly (make : List Node → Node) : Option Node := do
    let [content] ← fields.read? ["content"] | none
    return make (← Json.optionalList? read content)
  match kind with
  | some "heading" =>
      let [attrs, content] ← fields.read? ["attrs", "content"] | none
      return .heading (← levelOfJson? attrs) (← Json.optionalList? read content)
  | some "paragraph" => contentOnly .paragraph
  | some "bulletList" => contentOnly .bulletList
  | some "orderedList" => contentOnly .orderedList
  | some "listItem" => contentOnly .listItem
  | some "codeBlock" =>
      let [attrs, content] ← fields.read? ["attrs", "content"] | none
      return .codeBlock (← languageOfJson? attrs) (← Json.optionalList? read content)
  | some "blockquote" => contentOnly .blockquote
  | some "horizontalRule" => Json.withoutFields? .horizontalRule fields
  | some "text" =>
      let [value, marks] ← fields.read? ["text", "marks"] | none
      return .text (← (value.getD (.string "")).string?) (← Json.optionalList? Mark.ofJson? marks)
  | _ => Json.withoutFields? .unsupported fields

/-- Read a node, given a bound on how deeply it is nested and whether it stands inside another. -/
def ofJsonWithin? : Nat → Bool → Json → Option Node :=
  Json.variantWithin? fun read tag fields => ofFields? read (tag.resolve kinds) fields

/-- Read a node that stands directly in a document. -/
def ofJson? (json : Json) : Option Node :=
  ofJsonWithin? (json.depth + 1) false json

end Node

namespace Document

/-- How deeply the JSON text of a document may nest arrays and objects. -/
def depthLimit : Nat := 127

/-- A document as JSON. -/
def toJson (document : Document) : Json :=
  .variant "doc" [("content", .array (Node.toJsons document.content))]

/-- The JSON text of a document over several lines. -/
def toText (document : Document) : String :=
  document.toJson.pretty

/-- The content that the outermost value of a document gives. Its kind is not looked at. -/
def contentOfJson? (json : Json) : Option (Option Json) := do
  let [content] ← (← Json.Fields.ofJson? json).read? ["content"] | none
  return content

/-- Read a document. -/
def ofJson? (json : Json) : Option Document := do
  return ⟨← Json.optionalList? Node.ofJson? (← contentOfJson? json)⟩

/-- Read a document from JSON text. The content must not nest beyond the limit. -/
def ofText? (text : String) : Option Document := do
  let json ← Json.read? text
  match ← contentOfJson? json with
  | some content =>
      if content.hasValue ∧ content.depth + 1 ≤ depthLimit then ofJson? json else none
  | none => ofJson? json

end Document
end RichText
end TwinEditor
