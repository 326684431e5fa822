import TwinEditor.Markdown.Tree
import TwinEditor.RichText.Document

/-!
# Between Markdown trees and rich-text documents

Both directions are total; a node without a counterpart on the other side is dropped with all inside.
Nested inline wrappers become text runs whose marks list the wrappers from the outermost inwards.
Going back, marks wrap the text in list order, so the first mark becomes the innermost wrapper: a run
with one mark returns to its shape, and a run with several comes back with their order reversed.
-/

namespace TwinEditor
namespace RichText

/-- A text run, unless its text is empty. -/
def run (text : String) (marks : List Mark) : List Node :=
  if text.isEmpty then [] else [.text text marks]

/-- A walk over inline nodes: the marks of the wrappers around the next node, from the outermost
inwards, and the text runs so far. -/
structure Walk where
  marks : List Mark
  runs : List Node
  deriving Repr, BEq

namespace Walk

/-- A walk that has met nothing. -/
def start : Walk :=
  ⟨[], []⟩

/-- Add a run with the marks of the wrappers around it. -/
def emit (text : String) (walk : Walk) : Walk :=
  { walk with runs := walk.runs ++ run text walk.marks }

/-- Walk on inside a wrapper. Its mark is taken off afterwards only if it was put on before: a
wrapper that repeats one around it adds no mark and takes none away. -/
def within (mark : Mark) (inside : Walk → Walk) (walk : Walk) : Walk :=
  let left := inside { walk with marks := mark.addTo walk.marks }
  if mark ∈ walk.marks then left else { left with marks := left.marks.dropLast }

mutual

/-- Walk over an inline node. -/
def visit : Markdown.Node → Walk → Walk
  | .text value, walk => walk.emit value
  | .inlineCode value, walk => walk.within .code (emit value)
  | .strong children, walk => walk.within .bold (visitAll children)
  | .emphasis children, walk => walk.within .italic (visitAll children)
  | .link url children, walk => walk.within (.linkTo url) (visitAll children)
  | _, walk => walk

/-- Walk over a sequence of inline nodes. -/
def visitAll : List Markdown.Node → Walk → Walk
  | [], walk => walk
  | node :: rest, walk => visitAll rest (visit node walk)

end

end Walk

/-- The text runs of the children of a heading or paragraph. -/
def inlineRuns (children : List Markdown.Node) : List Node :=
  (Walk.visitAll children .start).runs

mutual

/-- The rich-text block for a Markdown block, if there is one. -/
def blockOfMarkdown? : Markdown.Node → Option Node
  | .heading depth children => some (.heading depth (inlineRuns children))
  | .paragraph children => some (.paragraph (inlineRuns children))
  | .list true children => some (.orderedList (itemsOfMarkdown children))
  | .list false children => some (.bulletList (itemsOfMarkdown children))
  | .listItem children => some (.listItem (blocksOfMarkdown children))
  | .code lang value => some (.codeBlock lang (run value []))
  | .blockquote children => some (.blockquote (blocksOfMarkdown children))
  | .thematicBreak => some .horizontalRule
  | _ => none

/-- The rich-text blocks for a sequence of Markdown blocks. -/
def blocksOfMarkdown : List Markdown.Node → List Node
  | [] => []
  | node :: rest => (blockOfMarkdown? node).toList ++ blocksOfMarkdown rest

/-- The rich-text items for the children of a Markdown list, of which only list items count. -/
def itemsOfMarkdown : List Markdown.Node → List Node
  | [] => []
  | .listItem children :: rest => .listItem (blocksOfMarkdown children) :: itemsOfMarkdown rest
  | _ :: rest => itemsOfMarkdown rest

end

/-- The rich-text document for a Markdown tree. It always holds a block: a tree without convertible
content gives one empty paragraph. -/
def Document.ofMarkdown (tree : Markdown.Tree) : Document :=
  match blocksOfMarkdown tree.children with
  | [] => ⟨[.paragraph []]⟩
  | content => ⟨content⟩

/-- Wrap a Markdown node for a mark. -/
def Mark.wrap (inner : Markdown.Node) : Mark → Markdown.Node
  | .bold => .strong [inner]
  | .italic => .emphasis [inner]
  | .link href _ => .link href [inner]
  | .code | .unsupported => inner

/-- The Markdown node for a text run: its text, as inline code if one of the marks says so, wrapped
for the other marks in their order. -/
def markdownOfRun (text : String) (marks : List Mark) : Markdown.Node :=
  marks.foldl Mark.wrap (if Mark.code ∈ marks then .inlineCode text else .text text)

/-- The Markdown nodes for the runs of a heading or paragraph. -/
def inlinesToMarkdown : List Node → List Markdown.Node
  | [] => []
  | .text text marks :: rest => markdownOfRun text marks :: inlinesToMarkdown rest
  | _ :: rest => inlinesToMarkdown rest

mutual

/-- The Markdown block for a rich-text block, if there is one. Headings have at least level one, and
an empty language counts as none. -/
def blockToMarkdown? : Node → Option Markdown.Node
  | .heading level content => some (.heading (max level 1) (inlinesToMarkdown content))
  | .paragraph content => some (.paragraph (inlinesToMarkdown content))
  | .bulletList content => some (.list false (itemsToMarkdown content))
  | .orderedList content => some (.list true (itemsToMarkdown content))
  | .listItem content => some (.listItem (blocksToMarkdown content))
  | .codeBlock language content =>
      some (.code (language.filter (!·.isEmpty)) (Node.textContents content))
  | .blockquote content => some (.blockquote (blocksToMarkdown content))
  | .horizontalRule => some .thematicBreak
  | .text .. | .unsupported => none

/-- The Markdown blocks for a sequence of rich-text blocks. -/
def blocksToMarkdown : List Node → List Markdown.Node
  | [] => []
  | node :: rest => (blockToMarkdown? node).toList ++ blocksToMarkdown rest

/-- The Markdown items for the content of a rich-text list, of which only list items count. -/
def itemsToMarkdown : List Node → List Markdown.Node
  | [] => []
  | .listItem content :: rest => .listItem (blocksToMarkdown content) :: itemsToMarkdown rest
  | _ :: rest => itemsToMarkdown rest

end

/-- The Markdown tree for a rich-text document. -/
def Document.toMarkdown (document : Document) : Markdown.Tree :=
  ⟨blocksToMarkdown document.content⟩

end RichText
end TwinEditor
