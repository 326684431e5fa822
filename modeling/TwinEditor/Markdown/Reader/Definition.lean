import TwinEditor.Markdown.Reader.LinkTarget

/-!
# Link definitions

Definitions stand at the start of a paragraph, each beginning on a line of its own: a label, a colon,
a destination and perhaps a title. They are taken off the paragraph; links refer to the first
definition of a label in the document.
-/

namespace TwinEditor
namespace Markdown
namespace Reader

/-- A link definition. The length of the title counts towards the limit on what links expand to. -/
structure Definition where
  label : List Char
  destination : List Char
  titleLength : Nat
  deriving Repr, DecidableEq

namespace Definition

/-- The number of bytes that a link to this definition expands to. -/
def size (definition : Definition) : Nat :=
  utf8Length definition.destination + definition.titleLength

end Definition

/-- Pass over spaces and tabs with at most one line end among them. -/
def skipSpacesAndLineEnd (text : List Char) : List Char :=
  match text.dropWhile Text.isSpaceOrTab with
  | '\n' :: rest => rest.dropWhile Text.isSpaceOrTab
  | rest => rest

/-- The text behind spaces, tabs and a line end, or nothing if something else comes first. -/
def restOfLine? (text : List Char) : Option (List Char) :=
  match text.dropWhile Text.isSpaceOrTab with
  | '\n' :: rest => some rest
  | [] => some []
  | _ => none

/-- The characters of a title without its marks, with escapes and references replaced. -/
def cleanTitle (title : List Char) : List Char :=
  removeEscapes (decodeReferences ((title.drop 1).dropLast))

/-- The definition at the start of a text and the text behind it. A title that is not at the end of
its line is no title, which is an error only if it stands on the line of the destination. -/
def definition? (text : List Char) : Option (Definition × List Char) := do
  let (label, afterLabel) ← label? text
  if label.isEmpty then none
  let ':' :: afterColon := afterLabel | none
  let (destination, afterDestination) ← destination? (skipSpacesAndLineEnd afterColon)
  let spaced := skipSpacesAndLineEnd afterDestination
  let make (titleLength : Nat) : Definition :=
    ⟨foldLabel label, cleanDestination destination, titleLength⟩
  let withTitle : Option (Definition × List Char) := do
    if spaced.length = afterDestination.length then none
    let afterTitle ← title? spaced
    let title := spaced.take (spaced.length - afterTitle.length)
    return (make (utf8Length (cleanTitle title)), ← restOfLine? afterTitle)
  match withTitle with
  | some result => return result
  | none => return (make 0, ← restOfLine? afterDestination)

/-- The definitions at the start of a text and the text behind them. The count bounds their number. -/
def definitionsWithin : Nat → List Char → List Definition × List Char
  | 0, text => ([], text)
  | bound + 1, text =>
      match definition? text with
      | some (definition, rest) =>
          let (others, last) := definitionsWithin bound rest
          (definition :: others, last)
      | none => ([], text)

/-- The definitions at the start of a paragraph and the text that is left of it. -/
def takeDefinitions (paragraph : List Char) : List Definition × List Char :=
  definitionsWithin paragraph.length paragraph

end Reader
end Markdown
end TwinEditor
