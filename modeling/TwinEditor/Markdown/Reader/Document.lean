import TwinEditor.Markdown.Options
import TwinEditor.Markdown.Tree
import TwinEditor.Markdown.Reader.Autolink
import TwinEditor.Markdown.Reader.Inline
import TwinEditor.Markdown.Reader.OpenBlock

/-!
# Reading documents

A document is read in two passes: first its block structure with all link definitions, then the inline
content of its blocks. Every text is a document.
-/

namespace TwinEditor
namespace Markdown
namespace Reader

namespace Inline

/-- Put a node in front of others. Neighbouring texts become one, and empty texts go. -/
def consJoined : Inline → List Inline → List Inline
  | .text value, .text next :: rest => .text (value ++ next) :: rest
  | .text [], rest => rest
  | node, rest => node :: rest

/-- The nodes with neighbouring texts put together. -/
def joinTexts (nodes : List Inline) : List Inline :=
  nodes.foldr consJoined []

/-- The nodes with the bare addresses in their texts made links. -/
def expandTexts (autolink : Bool) (nodes : List Inline) : List Inline :=
  nodes.flatMap fun node =>
    match node with
    | .text value => if autolink then Autolink.expand value else [node]
    | _ => [node]

mutual

/-- A node with the bare addresses inside it made links. Links and images stay as they are. -/
def settle (autolink : Bool) : Inline → Inline
  | .emphasis children => .emphasis (expandTexts autolink (joinTexts (settleAll autolink children)))
  | .strong children => .strong (expandTexts autolink (joinTexts (settleAll autolink children)))
  | .delete children => .delete (expandTexts autolink (joinTexts (settleAll autolink children)))
  | node => node

/-- The nodes with the bare addresses inside each of them made links. -/
def settleAll (autolink : Bool) : List Inline → List Inline
  | [] => []
  | node :: rest => node.settle autolink :: settleAll autolink rest

end

/-- A text without the task marker at its start: a space or the letter x in brackets, with white space
or nothing behind it. -/
def dropTaskMarker (text : List Char) : List Char :=
  match text.dropWhile Text.isAsciiSpace with
  | '[' :: mark :: ']' :: rest =>
      if (mark = ' ' ∨ mark = 'x' ∨ mark = 'X') ∧ rest.head?.all Text.isAsciiSpace then rest.drop 1
      else text
  | _ => text

/-- The nodes without the task marker that the first of them begins with. -/
def dropTask : List Inline → List Inline
  | .text value :: rest => .text (dropTaskMarker value) :: rest
  | nodes => nodes

/-- Put a node of a tree in front of others. Neighbouring texts become one, and empty texts go. -/
def consNode : Node → List Node → List Node
  | .text value, .text next :: rest => .text (value ++ next) :: rest
  | .text value, rest => if value.isEmpty then rest else .text value :: rest
  | node, rest => node :: rest

mutual

/-- The node of a tree for a node of inline content. The description of an image is the text of its
content. -/
def toNode : Inline → Node
  | .text value => .text (String.ofList value)
  | .softBreak => .text "\n"
  | .hardBreak => .lineBreak
  | .code value => .inlineCode (String.ofList value)
  | .html value => .html (String.ofList value)
  | .emphasis children => .emphasis (toNodes children)
  | .strong children => .strong (toNodes children)
  | .delete children => .delete (toNodes children)
  | .link destination children => .link (String.ofList destination) (toNodes children)
  | .image destination children =>
      .image (String.ofList destination) (Node.textContents (toNodes children))

/-- The nodes of a tree for a sequence of nodes of inline content. -/
def toNodes : List Inline → List Node
  | [] => []
  | node :: rest => consNode node.toNode (toNodes rest)

end

end Inline

namespace Block

mutual

/-- The definitions inside a block in document order. -/
def allDefinitions : Block → List Definition
  | .definitions found => found
  | .list _ items => definitionsOfItems items
  | .quote children => definitionsOfBlocks children
  | _ => []

/-- The definitions inside a sequence of blocks in document order. -/
def definitionsOfBlocks : List Block → List Definition
  | [] => []
  | block :: rest => block.allDefinitions ++ definitionsOfBlocks rest

/-- The definitions inside the items of a list in document order. -/
def definitionsOfItems : List (List Block) → List Definition
  | [] => []
  | item :: rest => definitionsOfBlocks item ++ definitionsOfItems rest

end

/-- What the inline content of a document is read with. -/
structure Context where
  options : Options
  setting : Setting
  deriving Repr

/-- The nodes of an inline text. A text that begins a task may open with a task marker. -/
def inlineNodes (context : Context) (mayBeTask : Bool) (expanded : Nat) (text : List Char) :
    List Node × Nat :=
  let (inlines, expanded) := readInlines context.setting expanded text
  let joined := Inline.joinTexts (Inline.settleAll context.options.autolink inlines)
  let joined := if mayBeTask && context.options.tasklist then Inline.dropTask joined else joined
  (Inline.toNodes (Inline.expandTexts context.options.autolink joined), expanded)

/-- The cells of a table row. -/
def cellNodes (context : Context) (expanded : Nat) : List (List Char) → List Node × Nat
  | [] => ([], expanded)
  | cell :: rest =>
      let (children, expanded) := inlineNodes context false expanded cell
      let (others, expanded) := cellNodes context expanded rest
      (.tableCell children :: others, expanded)

/-- The rows of a table. -/
def rowNodes (context : Context) (expanded : Nat) : List (List (List Char)) → List Node × Nat
  | [] => ([], expanded)
  | row :: rest =>
      let (cells, expanded) := cellNodes context expanded row
      let (others, expanded) := rowNodes context expanded rest
      (.tableRow cells :: others, expanded)

/-- The first word of the information on a fence. -/
def languageOf (info : List Char) : Option String :=
  let word := (info.dropWhile Text.isBlank).takeWhile (!Text.isBlank ·)
  if word.isEmpty then none else some (String.ofList word)

/-- A text without one line feed at its end. -/
def dropLineFeed (text : List Char) : List Char :=
  if text.getLast? = some '\n' then text.dropLast else text

mutual

/-- The nodes for a block: one, or none for definitions. -/
def toNodes (context : Context) (mayBeTask : Bool) (expanded : Nat) : Block → List Node × Nat
  | .heading depth text =>
      let (children, expanded) := inlineNodes context false expanded text
      ([.heading (UInt8.ofNat depth) children], expanded)
  | .paragraph text =>
      let (children, expanded) := inlineNodes context mayBeTask expanded text
      ([.paragraph children], expanded)
  | .list ordered items =>
      let (children, expanded) := itemNodes context expanded items
      ([.list ordered children], expanded)
  | .code info value =>
      ([.code (languageOf info) (String.ofList (dropLineFeed value))], expanded)
  | .quote children =>
      let (children, expanded) := blockNodes context false expanded children
      ([.blockquote children], expanded)
  | .rule => ([.thematicBreak], expanded)
  | .html value => ([.html (String.ofList (Text.trimEnd (· == '\n') value))], expanded)
  | .table align rows =>
      let (children, expanded) := rowNodes context expanded rows
      ([.table align children], expanded)
  | .definitions _ => ([], expanded)

/-- The nodes for a sequence of blocks, of which the first one that shows may be a task. -/
def blockNodes (context : Context) (mayBeTask : Bool) (expanded : Nat) :
    List Block → List Node × Nat
  | [] => ([], expanded)
  | block :: rest =>
      let (nodes, expanded) := block.toNodes context mayBeTask expanded
      let (others, expanded) := blockNodes context (mayBeTask && !block.isVisible) expanded rest
      (nodes ++ others, expanded)

/-- The nodes for the items of a list. -/
def itemNodes (context : Context) (expanded : Nat) : List (List Block) → List Node × Nat
  | [] => ([], expanded)
  | item :: rest =>
      let (children, expanded) := blockNodes context true expanded item
      let (others, expanded) := itemNodes context expanded rest
      (.listItem children :: others, expanded)

end

end Block
end Reader

namespace Tree

/-- The least number of bytes that all links to definitions together may expand to. -/
def expansionFloor : Nat := 100000

/-- The tree of a Markdown text. -/
def ofMarkdown (options : Options) (source : String) : Tree :=
  let blocks := Reader.readBlocks options.tables source.toList
  let context : Reader.Block.Context :=
    ⟨options, ⟨options.strikethrough, Reader.Block.definitionsOfBlocks blocks,
      max source.utf8ByteSize expansionFloor⟩⟩
  ⟨(Reader.Block.blockNodes context false 0 blocks).1⟩

end Tree
end Markdown
end TwinEditor
