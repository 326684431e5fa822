import TwinEditor.Text.Blank
import TwinEditor.Text.LowerCase
import TwinEditor.Text.Trim
import TwinEditor.Markdown.Reader.CharacterReference

/-!
# Destinations, titles and labels of links

The parts of a link behind its text, and of a definition that links refer to. A destination stands in
angle brackets, or it has balanced parentheses and no white space. A label is compared in lower case,
with white space of any kind and length counting as one space.
-/

namespace TwinEditor
namespace Markdown
namespace Reader

/-- A destination behind its left angle bracket: what it holds and the text behind the right one. A
backslash takes the next character with it. -/
def bracketedDestination? : List Char → Option (List Char × List Char)
  | '>' :: rest => some ([], rest)
  | '\\' :: c :: rest =>
      (bracketedDestination? rest).map fun (inner, after) => ('\\' :: c :: inner, after)
  | c :: rest =>
      if c = '\n' ∨ c = '<' then none
      else (bracketedDestination? rest).map fun (inner, after) => (c :: inner, after)
  | [] => none

/-- Whether a character ends a destination without angle brackets. -/
def endsDestination (c : Char) : Bool :=
  Text.isAsciiSpace c || c.toNat < 0x20 || c.toNat == 0x7F

/-- A destination without angle brackets, inside a number of open parentheses, and the text behind it.
Parentheses nest at most thirty-two deep and must be closed, and something must follow. -/
def bareDestination? (nesting : Nat) : List Char → Option (List Char × List Char)
  | '\\' :: c :: rest =>
      if Text.isAsciiPunctuation c then
        (bareDestination? nesting rest).map fun (inner, after) => ('\\' :: c :: inner, after)
      else (bareDestination? nesting (c :: rest)).map fun (inner, after) => ('\\' :: inner, after)
  | '(' :: rest =>
      if nesting < 32 then
        (bareDestination? (nesting + 1) rest).map fun (inner, after) => ('(' :: inner, after)
      else none
  | ')' :: rest =>
      match nesting with
      | 0 => some ([], ')' :: rest)
      | outer + 1 => (bareDestination? outer rest).map fun (inner, after) => (')' :: inner, after)
  | c :: rest =>
      if endsDestination c then if nesting = 0 then some ([], c :: rest) else none
      else (bareDestination? nesting rest).map fun (inner, after) => (c :: inner, after)
  | [] => none

/-- A destination of either form and the text behind it, which is never empty. -/
def destination? (text : List Char) : Option (List Char × List Char) :=
  match text with
  | '<' :: rest => bracketedDestination? rest
  | c :: _ => if endsDestination c then none else bareDestination? 0 text
  | [] => none

/-- The address that a destination stands for. -/
def cleanDestination (destination : List Char) : List Char :=
  removeEscapes (decodeReferences (Text.trim Text.isAsciiSpace destination))

/-- A title behind its opening mark: the text behind the last place where the title can end. A closing
mark behind a backslash ends the title only if no later one does. -/
def titleEnd? (opening closing : Char) (escaped : Bool) : List Char → Option (List Char)
  | [] => none
  | c :: rest =>
      if c = closing then
        if escaped then (titleEnd? opening closing false rest).or (some rest) else some rest
      else if c = opening ∧ ¬ escaped then none
      else titleEnd? opening closing (c == '\\') rest

/-- The text behind a title. -/
def title? : List Char → Option (List Char)
  | '"' :: rest => titleEnd? '"' '"' false rest
  | '\x27' :: rest => titleEnd? '\x27' '\x27' false rest
  | '(' :: rest => titleEnd? '(' ')' false rest
  | _ => none

/-- The destination and title behind the text of a link, in parentheses: the address and the text
behind the right parenthesis. -/
def parenthesizedTarget? : List Char → Option (List Char × List Char)
  | '(' :: rest => do
      let (destination, after) ← destination? (rest.dropWhile Text.isAsciiSpace)
      let spaced := after.dropWhile Text.isAsciiSpace
      let afterTitle := if spaced.length = after.length then spaced else (title? spaced).getD spaced
      match afterTitle.dropWhile Text.isAsciiSpace with
      | ')' :: last => some (cleanDestination destination, last)
      | _ => none
  | _ => none

/-- The content of a label up to its right bracket, and the text behind it. A backslash takes a
punctuation character behind it along, and a left bracket may not stand alone. -/
def labelContent? : List Char → Option (List Char × List Char)
  | ']' :: rest => some ([], rest)
  | '[' :: _ => none
  | '\\' :: c :: rest =>
      if Text.isAsciiPunctuation c then
        (labelContent? rest).map fun (inner, after) => ('\\' :: c :: inner, after)
      else (labelContent? (c :: rest)).map fun (inner, after) => ('\\' :: inner, after)
  | c :: rest => (labelContent? rest).map fun (inner, after) => (c :: inner, after)
  | [] => none

/-- The number of bytes of a text in UTF-8. -/
def utf8Length (text : List Char) : Nat :=
  text.foldl (fun length c => length + c.utf8Size) 0

/-- The longest label in bytes. -/
def labelLimit : Nat := 1000

/-- A label in brackets, without white space at its ends, and the text behind it. -/
def label? : List Char → Option (List Char × List Char)
  | '[' :: rest => do
      let (content, after) ← labelContent? rest
      if utf8Length content ≤ labelLimit then
        return (Text.trim Text.isAsciiSpace content, after)
      else none
  | _ => none

/-- A text in lower case with every run of white space turned into one space. The flag says whether
the text before ended in white space. -/
def foldLabelFrom (afterSpace : Bool) : List Char → List Char
  | [] => []
  | c :: rest =>
      if Text.isBlank c then
        if afterSpace then foldLabelFrom true rest else ' ' :: foldLabelFrom true rest
      else Text.toLowerCase c ++ foldLabelFrom false rest

/-- The form in which labels are compared. -/
def foldLabel (label : List Char) : List Char :=
  foldLabelFrom false (Text.trim Text.isAsciiSpace label)

end Reader
end Markdown
end TwinEditor
