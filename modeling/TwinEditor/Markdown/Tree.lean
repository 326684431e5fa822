/-!
# Markdown trees

The tree of a Markdown document. One type of node covers blocks and inline content, because a tree may
come from outside with nodes in places where no reader of Markdown would put them; every operation
says what it does with those.
-/

namespace TwinEditor
namespace Markdown

/-- How the cells of a table column are aligned. -/
inductive Alignment
  | none
  | left
  | center
  | right
  deriving Repr, DecidableEq, Inhabited

/-- A node of a Markdown tree. -/
inductive Node
  | heading (depth : UInt8) (children : List Node)
  | paragraph (children : List Node)
  | list (ordered : Bool) (children : List Node)
  | listItem (children : List Node)
  | code (lang : Option String) (value : String)
  | blockquote (children : List Node)
  | thematicBreak
  | text (value : String)
  | strong (children : List Node)
  | emphasis (children : List Node)
  | inlineCode (value : String)
  | link (url : String) (children : List Node)
  | delete (children : List Node)
  | lineBreak
  | html (value : String)
  | image (url : String) (alt : String)
  | table (align : List Alignment) (children : List Node)
  | tableRow (children : List Node)
  | tableCell (children : List Node)
  deriving Repr, BEq, Inhabited

namespace Node

/-- The nodes directly inside a node. -/
def children : Node → List Node
  | .heading _ children | .paragraph children | .list _ children | .listItem children
  | .blockquote children | .strong children | .emphasis children | .link _ children
  | .delete children | .table _ children | .tableRow children | .tableCell children => children
  | .code .. | .thematicBreak | .text _ | .inlineCode _ | .lineBreak | .html _ | .image .. => []

mutual

/-- The text of all leaves inside a node in document order. A line break counts as a line feed; raw
HTML and images have no text. -/
def textContent : Node → String
  | .text value | .inlineCode value | .code _ value => value
  | .lineBreak => "\n"
  | .thematicBreak | .html _ | .image .. => ""
  | .heading _ children | .paragraph children | .list _ children | .listItem children
  | .blockquote children | .strong children | .emphasis children | .link _ children
  | .delete children | .table _ children | .tableRow children | .tableCell children =>
      textContents children

/-- The text of all leaves inside a sequence of nodes in document order. -/
def textContents : List Node → String
  | [] => ""
  | node :: rest => node.textContent ++ textContents rest

end

/-- Whether a node is a list item. -/
def isListItem : Node → Bool
  | .listItem _ => true
  | _ => false

end Node

/-- A whole Markdown document as a tree. -/
structure Tree where
  children : List Node
  deriving Repr, BEq, Inhabited

namespace Tree

/-- Whether the document has no blocks. -/
def isEmpty (tree : Tree) : Bool :=
  tree.children.isEmpty

/-- The text of all leaves of the document. -/
def textContent (tree : Tree) : String :=
  Node.textContents tree.children

end Tree
end Markdown
end TwinEditor
