import TwinEditor.Text.Blank
import TwinEditor.Text.Lines
import TwinEditor.Text.Punctuation

/-!
# Escaping text

How plain text is written so that it reads back as the same text. A backslash goes in front of every
character that could begin inline markup, in front of an ampersand that would begin a character
reference, and in front of what would make the start of a line a heading, a quote, a list item or a
setext underline.
-/

namespace TwinEditor
namespace Markdown
namespace Escape

/-- Whether a character is escaped wherever it stands in a text. -/
def isSpecial (inTable : Bool) (c : Char) : Bool :=
  c == '\\' || c == '*' || c == '_' || c == '\x60' || c == '[' || c == ']' || c == '<' ||
    c == '~' || (inTable && c == '|')

/-- Whether a character is a hexadecimal digit. -/
def isHexDigit (c : Char) : Bool :=
  c.isDigit || ('a' ≤ c && c ≤ 'f') || ('A' ≤ c && c ≤ 'F')

/-- Whether a text begins with between `least` and `most` characters of a class and a semicolon. -/
def beginsWithRun (p : Char → Bool) (least most : Nat) (text : List Char) : Bool :=
  let length := (text.takeWhile p).length
  least ≤ length && length ≤ most && (text.dropWhile p).head? == some ';'

/-- Whether the text after an ampersand has the shape of a character reference. -/
def isReferenceTail : List Char → Bool
  | '#' :: 'x' :: rest | '#' :: 'X' :: rest => beginsWithRun isHexDigit 1 6 rest
  | '#' :: rest => beginsWithRun Char.isDigit 1 7 rest
  | c :: rest => c.isAlpha && beginsWithRun Char.isAlphanum 1 31 rest
  | [] => false

/-- A text with everything escaped that could begin inline markup. -/
def text (inTable : Bool) : List Char → List Char
  | [] => []
  | c :: rest =>
      if isSpecial inTable c || (c == '&' && isReferenceTail rest) then
        '\\' :: c :: text inTable rest
      else c :: text inTable rest

/-- Whether a character at the start of a line begins a block on its own. -/
def isLineMarker (c : Char) : Bool :=
  c == '#' || c == '>' || c == '+' || c == '=' || c == '-'

/-- A line with its start escaped where it would begin a block. -/
def lineStart (line : List Char) : List Char :=
  let digits := line.takeWhile Char.isDigit
  match line.dropWhile Char.isDigit with
  | [] => line
  | c :: rest =>
      if digits.isEmpty then if isLineMarker c then '\\' :: line else line
      else if digits.length ≤ 9 ∧ (c = '.' ∨ c = ')') then digits ++ '\\' :: c :: rest
      else line

/-- A text with the start of every line escaped where it would begin a block. -/
def lineStarts (paragraph : List Char) : List Char :=
  Text.unlines ((Text.lines paragraph).map lineStart)

/-- The hexadecimal digits of a number in upper case. -/
def upperHexDigits (value : Nat) : List Char :=
  (Nat.toDigits 16 value).map Char.toUpper

/-- A character written as a numeric character reference. -/
def reference (c : Char) : List Char :=
  '&' :: '#' :: 'x' :: (upperHexDigits c.toNat ++ [';'])

/-- Whether a character keeps a delimiter run next to it from opening or closing: it is neither white
space nor ASCII punctuation. -/
def isWord (c : Char) : Bool :=
  !Text.isBlank c && !Text.isAsciiPunctuation c

/-- A text with its first character written as a reference if that is a word character. -/
def encodeFirst : List Char → List Char
  | [] => []
  | c :: rest => if isWord c then reference c ++ rest else c :: rest

/-- A text with its last character written as a reference if that is a word character. -/
def encodeLast (text : List Char) : List Char :=
  match text.getLast? with
  | some c => if isWord c then text.dropLast ++ reference c else text
  | none => text

end Escape
end Markdown
end TwinEditor
