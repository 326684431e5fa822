/-!
# Rich-text documents

The document that a rich-text surface edits: blocks with attributes, and text runs that each carry a
list of marks. Nodes and marks of a kind that the editor does not know are kept as place holders
without content.
-/

namespace TwinEditor
namespace RichText

/-- A formatting mark on a text run. -/
inductive Mark
  | bold
  | italic
  | code
  | link (href : String) (target : Option String)
  | unsupported
  deriving Repr, DecidableEq, Inhabited

namespace Mark

/-- A link that opens in a new window. -/
def linkTo (href : String) : Mark :=
  .link href (some "_blank")

/-- Add a mark behind the others unless it is already there. -/
def addTo (marks : List Mark) (mark : Mark) : List Mark :=
  if mark ∈ marks then marks else marks ++ [mark]

end Mark

/-- A node of a rich-text document. -/
inductive Node
  | heading (level : UInt8) (content : List Node)
  | paragraph (content : List Node)
  | bulletList (content : List Node)
  | orderedList (content : List Node)
  | listItem (content : List Node)
  | codeBlock (language : Option String) (content : List Node)
  | blockquote (content : List Node)
  | horizontalRule
  | text (value : String) (marks : List Mark)
  | unsupported
  deriving Repr, BEq, Inhabited

namespace Node

/-- The nodes directly inside a node. -/
def content : Node → List Node
  | .heading _ content | .paragraph content | .bulletList content | .orderedList content
  | .listItem content | .codeBlock _ content | .blockquote content => content
  | .horizontalRule | .text .. | .unsupported => []

mutual

/-- The text of all runs inside a node in document order. -/
def textContent : Node → String
  | .text value _ => value
  | .horizontalRule | .unsupported => ""
  | .heading _ content | .paragraph content | .bulletList content | .orderedList content
  | .listItem content | .codeBlock _ content | .blockquote content => textContents content

/-- The text of all runs inside a sequence of nodes in document order. -/
def textContents : List Node → String
  | [] => ""
  | node :: rest => node.textContent ++ textContents rest

end

/-- Whether a node is a list item. -/
def isListItem : Node → Bool
  | .listItem _ => true
  | _ => false

end Node

/-- A whole rich-text document. -/
structure Document where
  content : List Node
  deriving Repr, BEq, Inhabited

namespace Document

/-- The text of all runs of the document. -/
def textContent (document : Document) : String :=
  Node.textContents document.content

end Document
end RichText
end TwinEditor
