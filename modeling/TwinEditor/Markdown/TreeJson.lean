import TwinEditor.Json.Record
import TwinEditor.Markdown.Tree

/-!
# Markdown trees as JSON

Every node is an object with its kind in the member `type` and its fields under their own names. All
fields are written, except that a code block without a language has no member for it. Reading is
stricter about values than about absence: children, alignments and the text of an image may be left
out, everything else must be there and of the right type.
-/

namespace TwinEditor
namespace Markdown

namespace Alignment

/-- The name of an alignment. -/
def name : Alignment → String
  | .none => "none"
  | .left => "left"
  | .center => "center"
  | .right => "right"

/-- The alignment with a given name. -/
def ofName? : String → Option Alignment
  | "none" => some .none
  | "left" => some .left
  | "center" => some .center
  | "right" => some .right
  | _ => Option.none

/-- Read an alignment: its name, or an object whose only member has that name and no value. -/
def ofJson? : Json → Option Alignment
  | .string name => ofName? name
  | .object [(name, .null)] => ofName? name
  | _ => Option.none

theorem ofName?_name (align : Alignment) : ofName? align.name = some align := by
  cases align <;> rfl

end Alignment

namespace Node

/-- The names of the kinds of nodes in the order that numbers them. -/
def kinds : List String :=
  ["heading", "paragraph", "list", "listItem", "code", "blockquote", "thematicBreak", "text",
    "strong", "emphasis", "inlineCode", "link", "delete", "break", "html", "image", "table",
    "tableRow", "tableCell"]

mutual

/-- A node as JSON. -/
def toJson : Node → Json
  | .heading depth children =>
      .variant "heading" [("depth", .ofNat depth.toNat), ("children", .array (toJsons children))]
  | .paragraph children => .variant "paragraph" [("children", .array (toJsons children))]
  | .list ordered children =>
      .variant "list" [("ordered", .bool ordered), ("children", .array (toJsons children))]
  | .listItem children => .variant "listItem" [("children", .array (toJsons children))]
  | .code (some lang) value =>
      .variant "code" [("lang", .string lang), ("value", .string value)]
  | .code none value => .variant "code" [("value", .string value)]
  | .blockquote children => .variant "blockquote" [("children", .array (toJsons children))]
  | .thematicBreak => .variant "thematicBreak" []
  | .text value => .variant "text" [("value", .string value)]
  | .strong children => .variant "strong" [("children", .array (toJsons children))]
  | .emphasis children => .variant "emphasis" [("children", .array (toJsons children))]
  | .inlineCode value => .variant "inlineCode" [("value", .string value)]
  | .link url children =>
      .variant "link" [("url", .string url), ("children", .array (toJsons children))]
  | .delete children => .variant "delete" [("children", .array (toJsons children))]
  | .lineBreak => .variant "break" []
  | .html value => .variant "html" [("value", .string value)]
  | .image url alt => .variant "image" [("url", .string url), ("alt", .string alt)]
  | .table align children =>
      .variant "table" [("align", .array (align.map fun a => .string a.name)),
        ("children", .array (toJsons children))]
  | .tableRow children => .variant "tableRow" [("children", .array (toJsons children))]
  | .tableCell children => .variant "tableCell" [("children", .array (toJsons children))]

/-- A sequence of nodes as JSON. -/
def toJsons : List Node → List Json
  | [] => []
  | node :: rest => node.toJson :: toJsons rest

end

/-- Read a node from its kind and fields, given how to read the nodes inside it. -/
def ofFields? (read : Json → Option Node) (kind : String) (fields : Json.Fields) :
    Option Node := do
  let childrenOnly (make : List Node → Node) : Option Node := do
    let [children] ← fields.read? ["children"] | none
    return make (← Json.optionalList? read children)
  let valueOnly (make : String → Node) : Option Node := do
    let [some (.string value)] ← fields.read? ["value"] | none
    return make value
  match kind with
  | "heading" =>
      let [some depth, children] ← fields.read? ["depth", "children"] | none
      return .heading (UInt8.ofNat (← depth.natBelow? 256)) (← Json.optionalList? read children)
  | "paragraph" => childrenOnly .paragraph
  | "list" =>
      let [some (.bool ordered), children] ← fields.read? ["ordered", "children"] | none
      return .list ordered (← Json.optionalList? read children)
  | "listItem" => childrenOnly .listItem
  | "code" =>
      let [lang, some (.string value)] ← fields.read? ["lang", "value"] | none
      return .code (← (lang.getD .null).optionalString?) value
  | "blockquote" => childrenOnly .blockquote
  | "thematicBreak" => Json.withoutFields? .thematicBreak fields
  | "text" => valueOnly .text
  | "strong" => childrenOnly .strong
  | "emphasis" => childrenOnly .emphasis
  | "inlineCode" => valueOnly .inlineCode
  | "link" =>
      let [some (.string url), children] ← fields.read? ["url", "children"] | none
      return .link url (← Json.optionalList? read children)
  | "delete" => childrenOnly .delete
  | "break" => Json.withoutFields? .lineBreak fields
  | "html" => valueOnly .html
  | "image" =>
      let [some (.string url), alt] ← fields.read? ["url", "alt"] | none
      return .image url (← (alt.getD (.string "")).string?)
  | "table" =>
      let [align, children] ← fields.read? ["align", "children"] | none
      return .table (← Json.optionalList? Alignment.ofJson? align) (← Json.optionalList? read children)
  | "tableRow" => childrenOnly .tableRow
  | "tableCell" => childrenOnly .tableCell
  | _ => none

/-- Read a node, given a bound on how deeply it is nested and whether it stands inside another. -/
def ofJsonWithin? : Nat → Bool → Json → Option Node :=
  Json.variantWithin? fun read tag fields => do ofFields? read (← tag.resolve kinds) fields

/-- Read a node that stands directly in a document. -/
def ofJson? (json : Json) : Option Node :=
  ofJsonWithin? (json.depth + 1) false json

end Node

namespace Tree

/-- A document as JSON. -/
def toJson (tree : Tree) : Json :=
  .variant "root" [("children", .array (Node.toJsons tree.children))]

/-- Read a document. The kind of the outermost object is not looked at. -/
def ofJson? (json : Json) : Option Tree := do
  let [children] ← (← Json.Fields.ofJson? json).read? ["children"] | none
  return ⟨← Json.optionalList? Node.ofJson? children⟩

end Tree
end Markdown
end TwinEditor
