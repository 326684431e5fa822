import TwinEditor.Text.Blank

/-!
# Lines and columns

The rest of a line while its containers are matched one by one. Columns are counted because a tab
reaches to the next multiple of four, and a container may take only some of the columns of a tab.
-/

namespace TwinEditor
namespace Markdown
namespace Reader

/-- The rest of a line, without its line end, and the column at which it starts. If the rest begins
inside a tab, that tab is still its first character. -/
structure Cursor where
  column : Nat
  inTab : Bool
  rest : List Char
  deriving Repr, DecidableEq

namespace Cursor

/-- The start of a line. -/
def ofLine (line : List Char) : Cursor :=
  ⟨0, false, line⟩

/-- The number of columns that a tab has left at a column. -/
def tabWidth (column : Nat) : Nat :=
  4 - column % 4

/-- Pass over one character. -/
def next : Cursor → Cursor
  | ⟨column, _, '\t' :: rest⟩ => ⟨column + tabWidth column, false, rest⟩
  | ⟨column, _, _ :: rest⟩ => ⟨column + 1, false, rest⟩
  | ⟨column, _, []⟩ => ⟨column, false, []⟩

/-- Pass over a number of characters. -/
def advance : Nat → Cursor → Cursor
  | 0, cursor => cursor
  | count + 1, cursor => advance count cursor.next

/-- Pass over spaces and tabs in the text that starts at a column. -/
def skipBlanksFrom (column : Nat) : List Char → Cursor
  | ' ' :: rest => skipBlanksFrom (column + 1) rest
  | '\t' :: rest => skipBlanksFrom (column + tabWidth column) rest
  | rest => ⟨column, false, rest⟩

/-- Pass over spaces and tabs. -/
def skipBlanks (cursor : Cursor) : Cursor :=
  skipBlanksFrom cursor.column cursor.rest

/-- The number of columns of spaces and tabs ahead. -/
def indent (cursor : Cursor) : Nat :=
  cursor.skipBlanks.column - cursor.column

/-- Whether only spaces and tabs are left on the line. -/
def isBlank (cursor : Cursor) : Bool :=
  cursor.skipBlanks.rest.isEmpty

/-- Whether the rest is indented as far as indented code is. -/
def isIndented (cursor : Cursor) : Bool :=
  4 ≤ cursor.indent

/-- Pass over a number of columns in the text that starts at a column. -/
def dropColumnsFrom (column : Nat) (inTab : Bool) : Nat → List Char → Cursor
  | 0, rest => ⟨column, inTab, rest⟩
  | _ + 1, [] => ⟨column, false, []⟩
  | count + 1, '\t' :: rest =>
      let width := tabWidth column
      if width ≤ count + 1 then dropColumnsFrom (column + width) false (count + 1 - width) rest
      else ⟨column + count + 1, true, '\t' :: rest⟩
  | count + 1, _ :: rest => dropColumnsFrom (column + 1) false count rest

/-- Pass over a number of columns. -/
def dropColumns (count : Nat) (cursor : Cursor) : Cursor :=
  dropColumnsFrom cursor.column cursor.inTab count cursor.rest

/-- Pass over at most a number of columns of spaces and tabs. -/
def dropBlankColumns (count : Nat) (cursor : Cursor) : Cursor :=
  cursor.dropColumns (min count cursor.indent)

/-- The text of the rest of the line. A tab that the rest begins inside of counts as spaces. -/
def text (cursor : Cursor) : List Char :=
  if cursor.inTab then List.replicate (tabWidth cursor.column) ' ' ++ cursor.rest.drop 1
  else cursor.rest

end Cursor

/-- The lines of a text without their line ends. A line ends with a line feed, a carriage return or
both; a last line that is empty does not count. -/
def sourceLines (text : List Char) : List (List Char) :=
  go [] text
where
  /-- The lines of a text whose first line began with `line`, in reverse. -/
  go (line : List Char) : List Char → List (List Char)
    | [] => if line.isEmpty then [] else [line.reverse]
    | '\r' :: '\n' :: rest => line.reverse :: go [] rest
    | c :: rest =>
        if c = '\n' ∨ c = '\r' then line.reverse :: go [] rest
        else go (c :: line) rest

/-- A text as it is read: NUL characters are replaced, and a byte order mark at the start is passed
over. -/
def cleanSource (text : List Char) : List Char :=
  let replaced := text.map fun c => if c.toNat = 0 then Char.ofNat 0xFFFD else c
  match replaced with
  | c :: rest => if c.toNat = 0xFEFF then rest else replaced
  | [] => []

end Reader
end Markdown
end TwinEditor
