import TwinEditor.Markdown.Tree
import TwinEditor.Text.Blank
import TwinEditor.Text.Trim

/-!
# Rows of tables

A row is a line cut at its vertical bars, where a bar behind a backslash belongs to the cell and a bar
at either end of the line only frames it. A delimiter row has nothing but hyphens in its cells, with
colons where the column is aligned.
-/

namespace TwinEditor
namespace Markdown
namespace Reader

/-- Whether a character is white space between the cells of a row. -/
def isCellSpace (c : Char) : Bool :=
  c == ' ' || c == '\t' || c == '\x0b' || c == '\x0c'

/-- The text up to the next bar that is not behind a backslash, with the other bars freed from theirs,
and the text behind the bar if there is one. -/
def splitCell : List Char → List Char × Option (List Char)
  | [] => ([], none)
  | '\\' :: '|' :: rest =>
      let (cell, after) := splitCell rest
      ('|' :: cell, after)
  | c :: rest =>
      if c = '|' then ([], some rest)
      else
        let (cell, after) := splitCell rest
        (c :: cell, after)

/-- The cells of a row behind its first bar. The count bounds the number of cells. -/
def cellsWithin : Nat → List Char → List (List Char)
  | 0, _ => []
  | bound + 1, text =>
      match splitCell text with
      | (cell, some rest) =>
          Text.trim Text.isAsciiSpace cell :: cellsWithin bound (rest.dropWhile isCellSpace)
      | ([], none) => []
      | (cell, none) => [Text.trim Text.isAsciiSpace cell]

/-- The cells of a line, if it has any. -/
def tableRow? (line : List Char) : Option (List (List Char)) :=
  let inner :=
    match line with
    | '|' :: rest => rest.dropWhile isCellSpace
    | _ => line
  match cellsWithin (line.length + 1) inner with
  | [] => none
  | cells => some cells

/-- Hyphens with an optional colon at either side and white space around, and the text behind. -/
def delimiterCell? (text : List Char) : Option (List Char) :=
  let opened :=
    match text.dropWhile isCellSpace with
    | ':' :: rest => rest
    | rest => rest
  if opened.head? = some '-' then
    match opened.dropWhile (· == '-') with
    | ':' :: rest => some (rest.dropWhile isCellSpace)
    | rest => some (rest.dropWhile isCellSpace)
  else none

/-- Whether a text is made of delimiter cells with bars between them and perhaps behind them. -/
def areDelimiterCells : Nat → List Char → Bool
  | 0, _ => false
  | bound + 1, text =>
      match delimiterCell? text with
      | some [] => true
      | some ('|' :: rest) => rest.all isCellSpace || areDelimiterCells bound rest
      | _ => false

/-- Whether a line is a delimiter row. -/
def isDelimiterRow (line : List Char) : Bool :=
  match line with
  | '|' :: rest => areDelimiterCells (line.length + 1) rest
  | _ => areDelimiterCells (line.length + 1) line

/-- The alignment that a delimiter cell gives to its column. -/
def cellAlignment (cell : List Char) : Alignment :=
  match cell.head? == some ':', cell.getLast? == some ':' with
  | true, true => .center
  | true, false => .left
  | false, true => .right
  | false, false => .none

/-- A text with every backslash in front of a bar removed. -/
def unescapeBars : List Char → List Char
  | '\\' :: '|' :: rest => '|' :: unescapeBars rest
  | c :: rest => c :: unescapeBars rest
  | [] => []

end Reader
end Markdown
end TwinEditor
