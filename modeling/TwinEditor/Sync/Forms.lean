import TwinEditor.Markdown.BlockPrinter
import TwinEditor.Markdown.Reader.Document
import TwinEditor.RichText.Conversion

/-!
# The three forms of a text

A text that is edited is held in three forms at once: as Markdown, as a tree and as a rich-text
document. An edit gives one of the outer two forms, and the others are made from it.
-/

namespace TwinEditor
namespace Sync

/-- The editor that an edit comes from. -/
inductive Editor
  | markdown
  | richText
  deriving Repr, DecidableEq

/-- A text in all its forms, with the editor that changed it last. -/
structure Forms where
  markdown : String
  tree : Markdown.Tree
  document : RichText.Document
  lastEditor : Option Editor
  deriving Repr, BEq

namespace Forms

/-- The forms before the first edit. -/
def initial : Forms :=
  ⟨"", ⟨[]⟩, .ofMarkdown ⟨[]⟩, none⟩

/-- The forms of a Markdown text. -/
def ofMarkdown (options : Markdown.Options) (text : String) : Forms :=
  let tree := Markdown.Tree.ofMarkdown options text
  ⟨text, tree, .ofMarkdown tree, some .markdown⟩

/-- The forms of a rich-text document. -/
def ofDocument (document : RichText.Document) : Forms :=
  let tree := document.toMarkdown
  ⟨tree.toMarkdown, tree, document, some .richText⟩

end Forms
end Sync
end TwinEditor
