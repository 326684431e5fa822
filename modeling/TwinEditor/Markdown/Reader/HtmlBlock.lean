import TwinEditor.Markdown.Reader.HtmlTag

/-!
# Blocks of raw HTML

A block of raw HTML begins with a line of one of seven kinds. The first five run to a line with their
own end mark, the other two to an empty line. Only the last kind needs a complete tag on its first
line, and it does not interrupt a paragraph.
-/

namespace TwinEditor
namespace Markdown
namespace Reader

/-- What began a block of raw HTML. -/
inductive HtmlKind
  | verbatimElement
  | comment
  | processingInstruction
  | declaration
  | characterData
  | blockElement
  | completeTag
  deriving Repr, DecidableEq

/-- The elements whose content is verbatim. -/
def verbatimElements : List String :=
  ["script", "pre", "textarea", "style"]

/-- The elements that stand for blocks. -/
def blockElements : List String :=
  ["address", "article", "aside", "base", "basefont", "blockquote", "body", "caption", "center",
    "col", "colgroup", "dd", "details", "dialog", "dir", "div", "dl", "dt", "fieldset", "figcaption",
    "figure", "footer", "form", "frame", "frameset", "h1", "h2", "h3", "h4", "h5", "h6", "head",
    "header", "hr", "html", "iframe", "legend", "li", "link", "main", "menu", "menuitem", "nav",
    "noframes", "ol", "optgroup", "option", "p", "param", "section", "source", "summary", "table",
    "tbody", "td", "tfoot", "th", "thead", "title", "tr", "track", "ul"]

/-- The letters and digits at the start of a text in lower case, and the text behind them. -/
def elementName (text : List Char) : String × List Char :=
  (String.ofList ((text.takeWhile Char.isAlphanum).map Char.toLower),
    text.dropWhile Char.isAlphanum)

/-- Whether a text is at its end or begins with white space or a right angle bracket. -/
def endsVerbatimName : List Char → Bool
  | [] => true
  | c :: _ => Text.isAsciiSpace c || c == '>'

/-- Whether a text is at its end or begins with white space or the end of a tag. -/
def endsBlockName : List Char → Bool
  | '/' :: '>' :: _ => true
  | text => endsVerbatimName text

/-- Whether a text begins with the name of an element of a list, with the given end behind it. -/
def beginsWithElement (names : List String) (ends : List Char → Bool) (text : List Char) : Bool :=
  let (name, rest) := elementName text
  names.contains name && ends rest

/-- Whether a text begins with another, without regard to the case of ASCII letters. -/
def beginsWithFolded (start text : List Char) : Bool :=
  (dropFolded? start text).isSome

/-- The kind of block of raw HTML that a line begins, if it can interrupt a paragraph. -/
def interruptingHtmlKind? : List Char → Option HtmlKind
  | '<' :: rest =>
      if beginsWithElement verbatimElements endsVerbatimName rest then some .verbatimElement
      else
        match rest with
        | '!' :: '-' :: '-' :: _ => some .comment
        | '?' :: _ => some .processingInstruction
        | '!' :: c :: _ =>
            if c.isUpper then some .declaration
            else if beginsWithFolded "![cdata[".toList rest then some .characterData
            else none
        | '/' :: name =>
            if beginsWithElement blockElements endsBlockName name then some .blockElement else none
        | name =>
            if beginsWithElement blockElements endsBlockName name then some .blockElement else none
  | _ => none

/-- Whether a line is one complete tag with nothing but spaces, tabs and form feeds behind it. -/
def isCompleteTag : List Char → Bool
  | '<' :: rest => (tag? rest).any (·.all fun c => Text.isSpaceOrTab c || c == '\x0c')
  | _ => false

/-- The kind of block of raw HTML that a line begins. -/
def htmlKind? (inParagraph : Bool) (line : List Char) : Option HtmlKind :=
  (interruptingHtmlKind? line).or
    (if !inParagraph && isCompleteTag line then some .completeTag else none)

/-- Whether a text occurs in a line, without regard to the case of ASCII letters. -/
def occursFolded (part : List Char) : List Char → Bool
  | [] => part.isEmpty
  | c :: rest => beginsWithFolded part (c :: rest) || occursFolded part rest

namespace HtmlKind

/-- The end marks of a kind, one of which ends the block with its line. -/
def endMarks : HtmlKind → List (List Char)
  | .verbatimElement => verbatimElements.map fun name => '<' :: '/' :: (name.toList ++ ['>'])
  | .comment => [['-', '-', '>']]
  | .processingInstruction => [['?', '>']]
  | .declaration => [['>']]
  | .characterData => [[']', ']', '>']]
  | .blockElement | .completeTag => []

/-- Whether a line ends a block of a kind. -/
def endsOn (kind : HtmlKind) (line : List Char) : Bool :=
  kind.endMarks.any (occursFolded · line)

/-- Whether a block of a kind ends before an empty line. -/
def endsBeforeBlank (kind : HtmlKind) : Bool :=
  kind.endMarks.isEmpty

end HtmlKind
end Reader
end Markdown
end TwinEditor
