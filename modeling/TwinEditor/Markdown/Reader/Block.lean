import TwinEditor.Markdown.Reader.Cursor
import TwinEditor.Markdown.Reader.Definition
import TwinEditor.Markdown.Reader.HtmlBlock
import TwinEditor.Markdown.Reader.TableRow

/-!
# Blocks before their inline content is read

The block structure of a document, with the text of paragraphs, headings and cells still unread, and
the ways in which a line can begin a block.
-/

namespace TwinEditor
namespace Markdown
namespace Reader

/-- A finished block. -/
inductive Block
  | heading (depth : Nat) (text : List Char)
  | paragraph (text : List Char)
  | list (ordered : Bool) (items : List (List Block))
  | code (info : List Char) (value : List Char)
  | quote (children : List Block)
  | rule
  | html (value : List Char)
  | table (align : List Alignment) (rows : List (List (List Char)))
  /-- Link definitions taken off a paragraph. They leave no trace in the document. -/
  | definitions (definitions : List Definition)
  deriving Repr, Inhabited

namespace Block

/-- Whether a block shows in the document. -/
def isVisible : Block → Bool
  | .definitions _ => false
  | _ => true

end Block

/-- What tells the items of one list from those of the next. -/
inductive ListKind
  | bullet (marker : Char)
  | ordered (delimiter : Char)
  deriving Repr, DecidableEq

namespace ListKind

/-- Whether the items of the list are numbered. -/
def isOrdered : ListKind → Bool
  | .bullet _ => false
  | .ordered _ => true

end ListKind

/-- The number signs that open a heading and the text behind them, without the white space between and
without number signs that close the heading. -/
def heading? (line : List Char) : Option (Nat × List Char) :=
  let depth := (line.takeWhile (· == '#')).length
  let rest := line.dropWhile (· == '#')
  if 1 ≤ depth ∧ depth ≤ 6 ∧ (rest.isEmpty ∨ rest.head?.any Text.isSpaceOrTab) then
    let text := Text.trimEnd Text.isAsciiSpace (rest.dropWhile Text.isSpaceOrTab)
    let content := Text.trimEnd (· == '#') text
    if content.isEmpty then some (depth, [])
    else if content.length < text.length ∧ content.getLast?.any Text.isSpaceOrTab then
      some (depth, Text.trimEnd Text.isAsciiSpace content)
    else some (depth, text)
  else none

/-- The fence that a line opens: its character, its length and the text behind it. What follows a
fence of backticks holds no backtick. -/
def openingFence? (line : List Char) : Option (Char × Nat × List Char) :=
  match line with
  | c :: _ =>
      if c = '\x60' ∨ c = '~' then
        let length := (line.takeWhile (· == c)).length
        let info := line.dropWhile (· == c)
        if 3 ≤ length ∧ ¬ (c = '\x60' ∧ info.contains '\x60') then some (c, length, info) else none
      else none
  | [] => none

/-- Whether a line is a fence of a character, at least as long as the one it closes. -/
def isClosingFence (fence : Char) (length : Nat) (line : List Char) : Bool :=
  length ≤ (line.takeWhile (· == fence)).length &&
    (line.dropWhile (· == fence)).all Text.isSpaceOrTab

/-- Whether a line is a thematic break: three or more of one of three characters, with nothing but
spaces and tabs between and behind. -/
def isRule (line : List Char) : Bool :=
  match line with
  | c :: _ =>
      (c == '*' || c == '_' || c == '-') && line.all (fun d => d == c || Text.isSpaceOrTab d) &&
        3 ≤ line.count c
  | [] => false

/-- The depth of the heading that a line turns the paragraph above it into. -/
def underlineDepth? (line : List Char) : Option Nat :=
  match line with
  | c :: _ =>
      if (c = '=' ∨ c = '-') ∧ (line.dropWhile (· == c)).all Text.isSpaceOrTab then
        some (if c = '=' then 1 else 2)
      else none
  | [] => none

/-- The list marker at the start of a line and its length. A marker that interrupts a paragraph has
text behind it, and its number is one. -/
def listMarker? (inParagraph : Bool) (line : List Char) : Option (ListKind × Nat) :=
  let hasText (rest : List Char) : Bool := !(rest.dropWhile Text.isSpaceOrTab).isEmpty
  let admits (rest : List Char) : Bool :=
    (rest.isEmpty || rest.head?.any Text.isAsciiSpace) && (!inParagraph || hasText rest)
  match line with
  | c :: rest =>
      if c = '*' ∨ c = '-' ∨ c = '+' then if admits rest then some (.bullet c, 1) else none
      else
        let digits := (line.takeWhile Char.isDigit).take 9
        match line.drop digits.length with
        | d :: after =>
            if !digits.isEmpty && (d == '.' || d == ')') && admits after &&
                (!inParagraph || numberOfDigits 10 digits == 1) then
              some (.ordered d, digits.length + 1)
            else none
        | [] => none
  | [] => none

/-- The width of an item whose marker is behind the cursor, and the cursor at its content: one to four
columns of white space belong to the marker, otherwise one. -/
def itemContent (markerLength : Nat) (cursor : Cursor) : Nat × Cursor :=
  let gap := min cursor.indent 6
  if 1 ≤ gap ∧ gap < 5 ∧ ¬ cursor.isBlank then (markerLength + gap, cursor.dropColumns gap)
  else (markerLength + 1, cursor.dropColumns (min gap 1))

/-- The ways in which a line begins a block. -/
inductive Start
  | quote (content : Cursor)
  | item (kind : ListKind) (width : Nat) (content : Cursor)
  | heading (depth : Nat) (text : List Char)
  | rule
  | fence (fence : Char) (length : Nat) (indent : Nat) (info : List Char)
  | html (kind : HtmlKind) (line : List Char)
  | indented (content : Cursor)
  deriving Repr

/-- Pass over a space, or one column of a tab. -/
def skipOneBlank (cursor : Cursor) : Cursor :=
  if cursor.rest.head?.any Text.isSpaceOrTab then cursor.dropColumns 1 else cursor

/-- The block that the rest of a line begins. Inside a paragraph fewer lines begin a block, and where
the line could continue a paragraph instead, indented code does not begin. -/
def start? (inParagraph continuesParagraph : Bool) (cursor : Cursor) : Option Start :=
  let inner := cursor.skipBlanks
  if cursor.isIndented then
    if continuesParagraph || inner.rest.isEmpty then none
    else some (.indented (cursor.dropColumns 4))
  else
    match inner.rest with
    | '>' :: _ => some (.quote (skipOneBlank (inner.advance 1)))
    | line =>
        match heading? line, openingFence? line, htmlKind? inParagraph line with
        | some (depth, text), _, _ => some (.heading depth text)
        | none, some (fence, length, info), _ =>
            some (.fence fence length (cursor.rest.takeWhile Text.isSpaceOrTab).length info)
        | none, none, some kind => some (.html kind cursor.text)
        | none, none, none =>
            if isRule line then some .rule
            else
              match listMarker? inParagraph line with
              | some (kind, length) =>
                  let (width, content) := itemContent length (inner.advance length)
                  some (.item kind (cursor.indent + width) content)
              | none => none

end Reader
end Markdown
end TwinEditor
