import TwinEditor.Markdown.InlinePrinter

/-!
# Writing documents

Documents are written in one fixed style: headings with number signs, code between backtick fences,
quotes with a sign on every line, list items indented by the width of their marker and a space.
Blocks are separated by an empty line. Two neighbouring lists of one kind get different markers, since
they would read back as one list otherwise.
-/

namespace TwinEditor
namespace Markdown

/-- The markers last used for lists among a sequence of siblings. -/
structure ListMarkers where
  bullet : Option Char
  delimiter : Option Char
  deriving Repr, DecidableEq

namespace ListMarkers

/-- No list has been written yet. -/
def start : ListMarkers :=
  ⟨none, none⟩

/-- The marker for the next list, which differs from the last one of its kind if that list is the
preceding sibling. -/
def next (markers : ListMarkers) (ordered followsSameKind : Bool) : Char :=
  if ordered then if followsSameKind ∧ markers.delimiter = some '.' then ')' else '.'
  else if followsSameKind ∧ markers.bullet = some '-' then '*' else '-'

/-- The markers after a list was written. -/
def record (markers : ListMarkers) (ordered : Bool) (marker : Char) : ListMarkers :=
  if ordered then { markers with delimiter := some marker }
  else { markers with bullet := some marker }

end ListMarkers

/-- What the writer of a sequence of siblings remembers of those before. -/
structure SiblingState where
  markers : ListMarkers
  /-- The preceding sibling, whether or not it wrote anything. -/
  previous : Option Node
  /-- Whether any sibling so far has written something. -/
  started : Bool

namespace SiblingState

/-- Nothing has been written yet. -/
def start : SiblingState :=
  ⟨.start, none, false⟩

/-- Whether the preceding sibling is a list of the given kind. -/
def followsList (state : SiblingState) (ordered : Bool) : Bool :=
  match state.previous with
  | some (.list previousOrdered _) => previousOrdered == ordered
  | _ => false

/-- Whether the preceding sibling is a paragraph. -/
def followsParagraph (state : SiblingState) : Bool :=
  match state.previous with
  | some (.paragraph _) => true
  | _ => false

end SiblingState

/-- A heading of a depth. Depths outside one to six count as the nearest of these. -/
def headingText (depth : UInt8) (children : List Node) : List Char :=
  let hashes := List.replicate (max 1 (min depth.toNat 6)) '#'
  let content := Text.trim Text.isBlank (Text.onOneLine (Node.inlineText false children))
  let content := if content.getLast? = some '#' then content.dropLast ++ ['\\', '#'] else content
  if content.isEmpty then hashes else hashes ++ ' ' :: content

/-- A paragraph. Spaces and tabs at either end of a line go, since they would read as indented code
or as hard breaks. -/
def paragraphText (children : List Node) : List Char :=
  let rows := (Text.lines (Node.inlineText false children)).map (Text.trim Text.isSpaceOrTab)
  Escape.lineStarts (Text.trim (· == '\n') (Text.unlines rows))

/-- A code block between fences longer than any run of backticks inside. -/
def codeText (lang : Option String) (value : List Char) : List Char :=
  let fence := List.replicate (max (Text.longestRun '\x60' value) 2 + 1) '\x60'
  let info := (lang.getD "").toList
  fence ++ info ++ '\n' :: (if value.isEmpty then fence else value ++ '\n' :: fence)

/-- A quote with the given content. -/
def quoteText (body : List Char) : List Char :=
  if body.isEmpty then ['>']
  else
    Text.unlines ((Text.lines body).map fun line =>
      if line.isEmpty then ['>'] else '>' :: ' ' :: line)

/-- A list item with the given marker and content. -/
def itemText (marker body : List Char) : List Char :=
  if body.isEmpty then marker
  else
    match Text.lines body with
    | [] => marker
    | first :: rest =>
        let indent := List.replicate (marker.length + 1) ' '
        Text.unlines ((marker ++ ' ' :: first) ::
          rest.map fun line => if line.isEmpty then [] else indent ++ line)

/-- The marker of the list item with the given number. -/
def itemMarker (ordered : Bool) (marker : Char) (number : Nat) : List Char :=
  if ordered then Nat.toDigits 10 number ++ [marker] else [marker]

/-- Whether the first line of a written list is a marker without content. -/
def startsWithBareMarker (list : List Char) : Bool :=
  !(list.takeWhile (· != '\n')).contains ' '

/-- The cells of a table row, each on one line. -/
def rowCells (row : Node) : List (List Char) :=
  row.children.map fun cell =>
    Text.trim Text.isBlank (Text.onOneLine (Node.inlineText true cell.children))

/-- The delimiter cell of a column. -/
def alignmentText : Alignment → List Char
  | .none => ['-', '-', '-']
  | .left => [':', '-', '-']
  | .center => [':', '-', ':']
  | .right => ['-', '-', ':']

/-- A line of a table. -/
def rowText (cells : List (List Char)) : List Char :=
  ['|', ' '] ++ List.intercalate [' ', '|', ' '] cells ++ [' ', '|']

/-- A table. All rows get as many cells as the widest row or the list of alignments has. -/
def tableText (align : List Alignment) (rows : List Node) : List Char :=
  let cells := rows.map rowCells
  let columns := (cells.map List.length).foldl max align.length
  let line (row : List (List Char)) := rowText ((List.range columns).map fun i => row.getD i [])
  match cells with
  | [] => []
  | header :: body =>
      if columns = 0 then []
      else
        let delimiters := (List.range columns).map fun i => alignmentText (align.getD i .none)
        Text.unlines (line header :: rowText delimiters :: body.map line)

namespace Node

mutual

/-- The text of one block. Inline content counts as a paragraph of its own; rows and cells outside a
table write nothing. -/
def blockText : Node → List Char
  | .heading depth children => headingText depth children
  | .paragraph children => paragraphText children
  | .list ordered items =>
      Text.unlines (itemTexts ordered (ListMarkers.start.next ordered false) 1 items)
  | .listItem children => siblingTexts true .start children
  | .code lang value => codeText lang value.toList
  | .blockquote children => quoteText (siblingTexts false .start children)
  | .thematicBreak => ['*', '*', '*']
  | .html value => value.toList
  | .table align rows => tableText align rows
  | .tableRow _ | .tableCell _ => []
  | node => paragraphText [node]

/-- The texts of the items of a list, numbered from `number`. -/
def itemTexts (ordered : Bool) (marker : Char) (number : Nat) : List Node → List (List Char)
  | [] => []
  | item :: rest =>
      itemText (itemMarker ordered marker number) item.blockText ::
        itemTexts ordered marker (number + 1) rest

/-- The text of a sequence of siblings after those that `state` remembers. Inside a list item a list
directly after a paragraph follows without an empty line, unless its first line is a bare marker. -/
def siblingTexts (inItem : Bool) (state : SiblingState) : List Node → List Char
  | [] => []
  | .list ordered items :: rest =>
      let marker := state.markers.next ordered (state.followsList ordered)
      let text := Text.unlines (itemTexts ordered marker 1 items)
      let tight := inItem && state.followsParagraph && !startsWithBareMarker text
      let gap := if text.isEmpty || !state.started then [] else if tight then ['\n'] else ['\n', '\n']
      gap ++ text ++ siblingTexts inItem
        ⟨state.markers.record ordered marker, some (.list ordered items),
          state.started || !text.isEmpty⟩ rest
  | node :: rest =>
      let text := node.blockText
      let gap := if text.isEmpty || !state.started then [] else ['\n', '\n']
      gap ++ text ++ siblingTexts inItem
        ⟨state.markers, some node, state.started || !text.isEmpty⟩ rest

end

end Node

/-- The text of a sequence of sibling blocks. -/
def blocksText (inItem : Bool) (nodes : List Node) : List Char :=
  Node.siblingTexts inItem .start nodes

namespace Tree

/-- The Markdown text of a document. It ends in one line feed, unless it is empty. -/
def toMarkdown (tree : Tree) : String :=
  let body := blocksText false tree.children
  String.ofList (if body.isEmpty then [] else body ++ ['\n'])

end Tree
end Markdown
end TwinEditor
