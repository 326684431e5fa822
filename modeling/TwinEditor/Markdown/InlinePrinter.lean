import TwinEditor.Markdown.Escape
import TwinEditor.Markdown.Tree
import TwinEditor.Text.Alphanumeric
import TwinEditor.Text.Trim

/-!
# Writing inline content

Strong emphasis is written with two asterisks, emphasis with an underscore, deleted text with two
tildes. Such a delimiter run reads back only if the characters around it allow it, so white space at
either end of the content moves outside, neighbours of one kind are merged, and a word character that
touches a run from outside is written as a character reference where it would keep the run from being
read.
-/

namespace TwinEditor
namespace Markdown

/-- The kinds of delimiter runs. -/
inductive Delimiter
  | strong
  | emphasis
  | delete
  deriving Repr, DecidableEq

namespace Delimiter

/-- The run that opens and closes the content. -/
def marker : Delimiter → List Char
  | .strong => ['*', '*']
  | .emphasis => ['_']
  | .delete => ['~', '~']

/-- Whether a word character just outside the run must be written as a reference, given the character
just inside. An underscore never opens or closes next to a word character; the other runs fail there
only when the inside character is not alphanumeric. -/
def guardsOutside (delimiter : Delimiter) (inside : Char) : Bool :=
  match delimiter with
  | .emphasis => true
  | .strong | .delete => !Text.isAlphanumeric inside

end Delimiter

/-- A stretch of written inline content, and whether the text next to it must be kept off a delimiter
run at its edge. -/
structure Span where
  text : List Char
  guardsBefore : Bool
  guardsAfter : Bool
  deriving Repr, DecidableEq

namespace Span

/-- A stretch that has no delimiter run at its edges. -/
def plain (text : List Char) : Span :=
  ⟨text, false, false⟩

/-- Write stretches one after another behind a text that is already written. `guarded` says that the
text so far ends in a run that the next character must be kept off. -/
def joinOnto (written : List Char) (guarded : Bool) : List Span → List Char
  | [] => written
  | span :: rest =>
      let before := if span.guardsBefore then Escape.encodeLast written else written
      let text := if guarded then Escape.encodeFirst span.text else span.text
      joinOnto (before ++ text) (span.guardsAfter || (guarded && span.text.isEmpty)) rest

/-- Stretches written one after another. -/
def join (spans : List Span) : List Char :=
  joinOnto [] false spans

end Span

/-- The end of a content that was trimmed of white space, moved back over hard breaks: as long as the
rest begins with a line feed and the content ends in an odd run of backslashes, the last backslash
belongs to the rest, and the content is trimmed again. -/
def retreat (content rest : List Char) : List Char × List Char :=
  if rest.head? = some '\n' ∧ (content.reverse.takeWhile (· = '\\')).length % 2 = 1 then
    let shorter := content.dropLast
    let body := Text.trimEnd Text.isBlank shorter
    retreat body (shorter.drop body.length ++ content.drop (content.length - 1) ++ rest)
  else (content, rest)
termination_by content.length
decreasing_by
  rename_i h
  have hpos : 0 < content.length := by
    cases content with
    | nil => simp at h
    | cons c rest => simp
  have hle := Text.length_trimEnd_le Text.isBlank content.dropLast
  simp only [List.length_dropLast] at hle
  omega

/-- White space at the start of a content, the content between, and white space at its end. A hard
break at the end counts as white space. -/
def splitOuterWhitespace (content : List Char) : List Char × List Char × List Char :=
  let leading := content.takeWhile Text.isBlank
  let remaining := content.dropWhile Text.isBlank
  let trimmed := Text.trimEnd Text.isBlank remaining
  let (body, trailing) := retreat trimmed (remaining.drop trimmed.length)
  (leading, body, trailing)

/-- Content between delimiter runs. White space at its edges moves outside, and a run with nothing
inside is dropped. -/
def delimited (delimiter : Delimiter) (content : List Char) : Span :=
  let (leading, body, trailing) := splitOuterWhitespace content
  match body.head?, body.getLast? with
  | some first, some last =>
      ⟨leading ++ delimiter.marker ++ body ++ delimiter.marker ++ trailing,
        leading.isEmpty && delimiter.guardsOutside first,
        trailing.isEmpty && delimiter.guardsOutside last⟩
  | _, _ => .plain (leading ++ trailing)

/-- Inline code between backtick runs longer than any inside it. A space is added at both ends where
the code begins or ends with a backtick, or where a reader would take a space off. -/
def codeSpan (value : List Char) : List Char :=
  if value.isEmpty then []
  else
    let fence := List.replicate (Text.longestRun '\x60' value + 1) '\x60'
    let padded := value.head? == some '\x60' || value.getLast? == some '\x60' ||
      (value.head? == some ' ' && value.getLast? == some ' ' && !value.all Text.isBlank)
    if padded then fence ++ ' ' :: value ++ ' ' :: fence else fence ++ value ++ fence

/-- The destination of a link, in angle brackets if it holds white space, parentheses or angle
brackets. -/
def linkDestination (url : List Char) : List Char :=
  if url.any fun c => Text.isBlank c || c == '(' || c == ')' || c == '<' || c == '>' then
    '<' :: (Text.replaceChar '>' ['\\', '>'] (Text.replaceChar '<' ['\\', '<'] url) ++ ['>'])
  else url

namespace Node

mutual

/-- Put a node in front of a merged sequence. If both are delimiter runs of one kind they become one,
and the insides are merged in turn. -/
def consMerged : Node → List Node → List Node
  | .strong inner, .strong next :: rest => .strong (appendMerged inner next) :: rest
  | .strong inner, rest => .strong (appendMerged inner []) :: rest
  | .emphasis inner, .emphasis next :: rest => .emphasis (appendMerged inner next) :: rest
  | .emphasis inner, rest => .emphasis (appendMerged inner []) :: rest
  | .delete inner, .delete next :: rest => .delete (appendMerged inner next) :: rest
  | .delete inner, rest => .delete (appendMerged inner []) :: rest
  | .link url inner, rest => .link url (appendMerged inner []) :: rest
  | node, rest => node :: rest

/-- Put a sequence of nodes in front of a merged sequence. -/
def appendMerged : List Node → List Node → List Node
  | [], merged => merged
  | node :: rest, merged => consMerged node (appendMerged rest merged)

end

/-- The nodes with all neighbouring delimiter runs of one kind put together, at every depth. -/
def mergeRuns (nodes : List Node) : List Node :=
  appendMerged nodes []

mutual

/-- What an inline node writes. Blocks write nothing here. -/
def span (inTable : Bool) : Node → Span
  | .text value => .plain (Escape.text inTable value.toList)
  | .strong inner => delimited .strong (Span.join (spans inTable inner))
  | .emphasis inner => delimited .emphasis (Span.join (spans inTable inner))
  | .delete inner => delimited .delete (Span.join (spans inTable inner))
  | .inlineCode value => .plain (codeSpan value.toList)
  | .link url inner =>
      .plain ('[' :: (Span.join (spans inTable inner) ++
        ']' :: '(' :: (linkDestination url.toList ++ [')'])))
  | .image url alt =>
      .plain ('!' :: '[' :: (Escape.text inTable alt.toList ++
        ']' :: '(' :: (linkDestination url.toList ++ [')'])))
  | .lineBreak => .plain ['\\', '\n']
  | .html value => .plain value.toList
  | _ => .plain []

/-- What a sequence of inline nodes writes, node by node. -/
def spans (inTable : Bool) : List Node → List Span
  | [] => []
  | node :: rest => node.span inTable :: spans inTable rest

end

/-- The text of a sequence of inline nodes. -/
def inlineText (inTable : Bool) (nodes : List Node) : List Char :=
  Span.join (spans inTable (mergeRuns nodes))

end Node
end Markdown
end TwinEditor
