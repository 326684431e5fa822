import TwinEditor.Json.Record
import TwinEditor.Markdown.Options

/-!
# Reader options as JSON

Options are an object with one boolean for each extension; an extension that is not mentioned is on.
-/

namespace TwinEditor
namespace Markdown
namespace Options

/-- Options as JSON. -/
def toJson (options : Options) : Json :=
  .object [("tables", .bool options.tables), ("strikethrough", .bool options.strikethrough),
    ("autolink", .bool options.autolink), ("tasklist", .bool options.tasklist)]

/-- Read options. -/
def ofJson? (json : Json) : Option Options := do
  let [tables, strikethrough, autolink, tasklist] ← (← Json.Fields.ofJson? json).read?
    ["tables", "strikethrough", "autolink", "tasklist"] | none
  let flag (value : Option Json) : Option Bool := (value.getD (.bool true)).bool?
  return ⟨← flag tables, ← flag strikethrough, ← flag autolink, ← flag tasklist⟩

end Options
end Markdown
end TwinEditor
