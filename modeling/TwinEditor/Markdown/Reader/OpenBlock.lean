import TwinEditor.Markdown.Reader.Block

/-!
# Open blocks

While a document is read line by line, the blocks that the next line may continue stay open: a chain
of containers, and at its end perhaps a block of text. Each container holds the blocks that are
finished inside it. A line goes down the chain as far as the containers match; what it begins or
continues there decides which blocks are closed.
-/

namespace TwinEditor
namespace Markdown
namespace Reader

/-- The most cells of a table that are not written in its rows. -/
def missingCellLimit : Nat := 500000

/-- The most containers that a line opens if the last of them is an item. -/
def itemContainerLimit : Nat := 99

/-- A block of text that the next line may continue. -/
inductive OpenLeaf
  /-- A paragraph. Once a delimiter row did not fit the line above it, no table begins in it. -/
  | paragraph (text : List Char) (refusesTable : Bool)
  | fenced (fence : Char) (length : Nat) (indent : Nat) (info : List Char) (value : List Char)
  | indented (value : List Char)
  | html (kind : HtmlKind) (value : List Char)
  /-- A table with its rows in reverse, and the number of cells that its rows left out. -/
  | table (align : List Alignment) (rows : List (List (List Char))) (missing : Nat)
  deriving Repr, Inhabited

/-- The open blocks inside a container. -/
inductive OpenBlock
  | none
  | leaf (block : OpenLeaf)
  /-- A quote with the blocks finished inside it, in reverse. -/
  | quote (closed : List Block) (inner : OpenBlock)
  /-- A list with its finished items in reverse, whose last item has ended. -/
  | list (kind : ListKind) (items : List (List Block))
  /-- A list with its finished items in reverse and an open item: the number of columns its content
  is indented by, and the blocks finished inside it, in reverse. -/
  | item (kind : ListKind) (items : List (List Block)) (width : Nat) (closed : List Block)
      (inner : OpenBlock)
  deriving Repr, Inhabited

/-- The blocks of an open document: those finished, in reverse, and those open. -/
structure Body where
  closed : List Block
  inner : OpenBlock
  deriving Repr, Inhabited

/-- Whether a text is empty or begins with an empty line. -/
def isBlankText (text : List Char) : Bool :=
  match text.dropWhile Text.isSpaceOrTab with
  | [] => true
  | c :: _ => c == '\n'

/-- Definitions as a block, if there are any. -/
def definitionsBlock (definitions : List Definition) : List Block :=
  if definitions.isEmpty then [] else [.definitions definitions]

/-- The text of indented code without empty lines at its end. -/
def trimIndentedCode (value : List Char) : List Char :=
  let kept := Text.trimEnd (fun c => Text.isSpaceOrTab c || c == '\n') value
  kept ++ (value.drop kept.length).takeWhile (· != '\n') ++ ['\n']

/-- The information that a fence gives about its code. -/
def cleanInfo (info : List Char) : List Char :=
  removeEscapes (Text.trim Text.isAsciiSpace (decodeReferences info))

namespace OpenLeaf

/-- Whether the block is a paragraph. -/
def isParagraph : OpenLeaf → Bool
  | .paragraph .. => true
  | _ => false

/-- The blocks that remain of a block of text when it ends. -/
def close : OpenLeaf → List Block
  | .paragraph text _ =>
      let (definitions, rest) := takeDefinitions text
      definitionsBlock definitions ++ if isBlankText rest then [] else [.paragraph rest]
  | .fenced _ _ _ info value => [.code (cleanInfo info) value]
  | .indented value => [.code [] (trimIndentedCode value)]
  | .html _ value => [.html value]
  | .table align rows _ => [.table align rows.reverse]

end OpenLeaf

namespace OpenBlock

/-- Whether the innermost open block is a paragraph. -/
def endsInParagraph : OpenBlock → Bool
  | .none | .list .. => false
  | .leaf block => block.isParagraph
  | .quote _ inner | .item _ _ _ _ inner => inner.endsInParagraph

/-- Continue the innermost paragraph with a line. -/
def continueParagraph (line : List Char) : OpenBlock → OpenBlock
  | .leaf (.paragraph text refusesTable) => .leaf (.paragraph (text ++ line ++ ['\n']) refusesTable)
  | .quote closed inner => .quote closed (inner.continueParagraph line)
  | .item kind items width closed inner =>
      .item kind items width closed (inner.continueParagraph line)
  | block => block

/-- The blocks that remain of the open blocks when they end. -/
def close : OpenBlock → List Block
  | .none => []
  | .leaf block => block.close
  | .quote closed inner => [.quote (closed.reverse ++ inner.close)]
  | .list kind items => [.list kind.isOrdered items.reverse]
  | .item kind items _ closed inner =>
      [.list kind.isOrdered ((closed.reverse ++ inner.close) :: items).reverse]

/-- Whether a container with these blocks has a child that shows in the document. -/
def hasChild (closed : List Block) : OpenBlock → Bool
  | .none => closed.any Block.isVisible
  | _ => true

end OpenBlock

namespace Body

/-- A container without content. -/
def empty : Body :=
  ⟨[], .none⟩

/-- Close everything that is open. -/
def close (body : Body) : List Block :=
  body.inner.close.reverse ++ body.closed

/-- All blocks of the container in their order. -/
def blocks (body : Body) : List Block :=
  body.close.reverse

/-- Open a block of text behind finished blocks. -/
def openLeaf (closed : List Block) (leaf : OpenLeaf) : Body :=
  ⟨closed, .leaf leaf⟩

/-- A line that begins no block: a new paragraph, unless the line is empty. -/
def ofText (closed : List Block) (cursor : Cursor) : Body :=
  if cursor.isBlank then ⟨closed, .none⟩
  else openLeaf closed (.paragraph (cursor.skipBlanks.rest ++ ['\n']) false)

/-- Begin or continue a block of raw HTML, which ends with the line if an end mark is on it. -/
def ofHtmlLine (closed : List Block) (kind : HtmlKind) (value line : List Char) : Body :=
  let value := value ++ line ++ ['\n']
  if kind.endsOn line then ⟨.html value :: closed, .none⟩ else openLeaf closed (.html kind value)

/-- Begin a block behind finished blocks, given how to read the rest of the line inside a new
container. -/
def begin (inside : Cursor → Body) (closed : List Block) : Start → Body
  | .quote content =>
      let body := inside content
      ⟨closed, .quote body.closed body.inner⟩
  | .item kind width content =>
      let body := inside content
      ⟨closed, .item kind [] width body.closed body.inner⟩
  | .heading depth text => ⟨.heading depth text :: closed, .none⟩
  | .rule => ⟨.rule :: closed, .none⟩
  | .fence fence length indent info => openLeaf closed (.fenced fence length indent info [])
  | .html kind line => ofHtmlLine closed kind [] line
  | .indented content => openLeaf closed (.indented (content.text ++ ['\n']))

/-- Whether a block may begin on a line that has opened some containers already. A marker that comes too
late for an item is text. -/
def mayBegin (opened : Nat) : Start → Bool
  | .item .. => opened < itemContainerLimit
  | _ => true

/-- The content of a new container on the rest of its first line, given how many containers the line has
opened, this one included. The bound is on how many more it opens. -/
def ofLineWithin : (bound opened : Nat) → Cursor → Body
  | 0, _, cursor => ofText [] cursor
  | bound + 1, opened, cursor =>
      match (start? false false cursor).filter (mayBegin opened) with
      | some start => begin (ofLineWithin bound (opened + 1)) [] start
      | none => ofText [] cursor

/-- The content of the first container that a line opens, on the rest of the line. -/
def ofLine (cursor : Cursor) : Body :=
  ofLineWithin cursor.rest.length 1 cursor

/-- A line that continues a paragraph, opens a table with it, makes it a heading or ends it by
beginning another block. -/
def stepParagraph (tables : Bool) (closed : List Block) (text : List Char) (refusesTable : Bool)
    (cursor : Cursor) : Body :=
  let line := cursor.skipBlanks.rest
  let continued (text : List Char) (refusesTable : Bool) : OpenLeaf :=
    .paragraph (text ++ line ++ ['\n']) refusesTable
  if cursor.isBlank then ⟨(OpenLeaf.paragraph text refusesTable).close.reverse ++ closed, .none⟩
  else
    let underline := if cursor.isIndented then none else underlineDepth? line
    match underline with
    | some depth =>
        let (definitions, rest) := takeDefinitions text
        let closed := definitionsBlock definitions ++ closed
        if isBlankText rest then openLeaf closed (continued rest refusesTable)
        else ⟨.heading depth rest :: closed, .none⟩
    | none =>
        match start? true true cursor with
        | some start =>
            begin ofLine ((OpenLeaf.paragraph text refusesTable).close.reverse ++ closed) start
        | none =>
            if tables && !refusesTable && !cursor.isIndented && isDelimiterRow line then
              let before := (text.dropLast.reverse.dropWhile (· != '\n')).reverse
              match tableRow? line, tableRow? (text.dropLast.drop before.length) with
              | some delimiters, some header =>
                  if delimiters.length = header.length then
                    let preface := Text.trim Text.isAsciiSpace (unescapeBars before)
                    let closed := if before.isEmpty then closed else .paragraph preface :: closed
                    openLeaf closed (.table (delimiters.map cellAlignment) [header] 0)
                  else openLeaf closed (continued text true)
              | _, _ => openLeaf closed (continued text true)
            else openLeaf closed (continued text refusesTable)

/-- A line behind a table: a further row, or a block that ends the table. -/
def stepTable (closed : List Block) (align : List Alignment) (rows : List (List (List Char)))
    (missing : Nat) (cursor : Cursor) : Body :=
  let closedWithTable := (OpenLeaf.table align rows missing).close ++ closed
  match start? false false cursor with
  | some start => begin ofLine closedWithTable start
  | none =>
      match tableRow? cursor.skipBlanks.rest with
      | some cells =>
          if missing ≤ missingCellLimit then
            let row := cells.take align.length
            let padding := List.replicate (align.length - row.length) []
            openLeaf closed
              (.table align ((row ++ padding) :: rows) (missing + padding.length))
          else ofText closedWithTable cursor
      | none => ofText closedWithTable cursor

/-- A line behind an open block of text. -/
def stepLeaf (tables : Bool) (closed : List Block) (leaf : OpenLeaf) (cursor : Cursor) : Body :=
  let afterClosing : Body :=
    let closed := leaf.close.reverse ++ closed
    match start? false false cursor with
    | some start => begin ofLine closed start
    | none => ofText closed cursor
  match leaf with
  | .paragraph text refusesTable => stepParagraph tables closed text refusesTable cursor
  | .fenced fence length indent info value =>
      if ¬ cursor.isIndented ∧ isClosingFence fence length cursor.skipBlanks.rest then
        ⟨leaf.close.reverse ++ closed, .none⟩
      else
        let line := (cursor.dropBlankColumns indent).text
        openLeaf closed (.fenced fence length indent info (value ++ line ++ ['\n']))
  | .indented value =>
      if cursor.isIndented then
        openLeaf closed (.indented (value ++ (cursor.dropColumns 4).text ++ ['\n']))
      else if cursor.isBlank then openLeaf closed (.indented (value ++ ['\n']))
      else afterClosing
  | .html kind value =>
      if cursor.isBlank && kind.endsBeforeBlank then afterClosing
      else ofHtmlLine closed kind value cursor.text
  | .table align rows missing =>
      if cursor.isBlank then afterClosing else stepTable closed align rows missing cursor

/-- A line that an open container does not match: it continues an open paragraph all the same if it
begins no block, and otherwise closes what is open. -/
def stepUnmatched (body : Body) (cursor : Cursor) : Body :=
  match start? false body.inner.endsInParagraph cursor with
  | some start => begin ofLine body.close start
  | none =>
      if !cursor.isBlank && body.inner.endsInParagraph then
        ⟨body.closed, body.inner.continueParagraph cursor.text⟩
      else ofText body.close cursor

/-- A line behind a list whose last item it does not belong to: a further item, an empty line that
leaves the list open, or a line outside the list. -/
def stepList (closed : List Block) (kind : ListKind) (items : List (List Block))
    (unfinished : OpenBlock) (cursor : Cursor) : Body :=
  match start? false unfinished.endsInParagraph cursor with
  | some (.item nextKind width content) =>
      if nextKind = kind then
        let body := ofLine content
        ⟨closed, .item kind items width body.closed body.inner⟩
      else stepUnmatched ⟨closed, unfinished⟩ cursor
  | _ =>
      if cursor.isBlank then ⟨closed, .list kind items⟩
      else stepUnmatched ⟨closed, unfinished⟩ cursor

end Body

/-- The content of a quote on a line that continues it. -/
def quoteContent? (cursor : Cursor) : Option Cursor :=
  let inner := cursor.skipBlanks
  if ¬ cursor.isIndented ∧ inner.rest.head? = some '>' then some (skipOneBlank (inner.advance 1))
  else none

/-- The content of an item on a line that continues it. An empty line continues an item that has some
content already. -/
def itemLine? (width : Nat) (hasChild : Bool) (cursor : Cursor) : Option Cursor :=
  if width ≤ cursor.indent then some (cursor.dropColumns width)
  else if cursor.isBlank && hasChild then some cursor.skipBlanks
  else none

namespace OpenBlock

/-- The next line inside a container, given the finished blocks before the open ones. -/
def step (tables : Bool) (closed : List Block) (inner : OpenBlock) (cursor : Cursor) : Body :=
  match inner with
  | .none =>
      match start? false false cursor with
      | some start => .begin .ofLine closed start
      | Option.none => .ofText closed cursor
  | .leaf block => .stepLeaf tables closed block cursor
  | .quote quoted block =>
      match quoteContent? cursor with
      | some content =>
          let body := block.step tables quoted content
          ⟨closed, .quote body.closed body.inner⟩
      | Option.none => Body.stepUnmatched ⟨closed, .quote quoted block⟩ cursor
  | .list kind items => .stepList closed kind items (.list kind items) cursor
  | .item kind items width itemClosed block =>
      match itemLine? width (OpenBlock.hasChild itemClosed block) cursor with
      | some content =>
          let body := block.step tables itemClosed content
          ⟨closed, .item kind items width body.closed body.inner⟩
      | Option.none =>
          .stepList closed kind ((itemClosed.reverse ++ block.close) :: items)
            (.item kind items width itemClosed block) cursor

end OpenBlock

/-- The blocks of a document. -/
def readBlocks (tables : Bool) (source : List Char) : List Block :=
  let body := (sourceLines (cleanSource source)).foldl
    (fun (body : Body) line => body.inner.step tables body.closed (.ofLine line)) .empty
  body.blocks

end Reader
end Markdown
end TwinEditor
