import TwinEditor.Markdown.Reader.Definition
import TwinEditor.Markdown.Reader.Emphasis
import TwinEditor.Markdown.Reader.HtmlTag

/-!
# Inline content

The text of a paragraph, heading or cell is read from left to right. Code, raw HTML, escapes and
references are recognized where they begin; brackets wait for the one that closes them; delimiter runs
are paired once the content they can stand in is complete.
-/

namespace TwinEditor
namespace Markdown
namespace Reader

/-- What inline content is read with. -/
structure Setting where
  strikethrough : Bool
  definitions : List Definition
  /-- The number of bytes that all links to definitions together may expand to. -/
  expansionLimit : Nat
  deriving Repr

namespace Setting

/-- The definition that a label refers to, unless the links read so far leave no room for it. -/
def lookup (setting : Setting) (expanded : Nat) (label : List Char) : Option Definition := do
  let definition ← setting.definitions.find? (·.label == foldLabel label)
  if expanded + definition.size ≤ setting.expansionLimit then return definition else none

/-- Whether a character may begin something other than plain text. -/
def isSpecial (setting : Setting) (c : Char) : Bool :=
  c == '\n' || c == '\x60' || c == '\\' || c == '&' || c == '<' || c == '[' || c == ']' ||
    c == '!' || c == '*' || c == '_' || (setting.strikethrough && c == '~')

/-- Whether a character is passed over where the character next to a delimiter run is looked for. -/
def isTransparent (setting : Setting) (c : Char) : Bool :=
  setting.strikethrough && c == '~'

end Setting

/-- A bracket that may open a link or image. -/
structure Opener where
  isImage : Bool
  /-- Whether another bracket was opened behind this one. -/
  isFollowed : Bool
  /-- The text behind the bracket. -/
  source : List Char
  /-- The pieces before the bracket, in reverse. -/
  before : List Piece
  deriving Repr

namespace Opener

/-- The bracket as plain text. -/
def literal (opener : Opener) : Piece :=
  .node (.text (if opener.isImage then ['!', '['] else ['[']))

end Opener

/-- What is remembered about the runs of backticks that were passed while a closing one was looked
for. -/
structure TickMemory where
  /-- Whether one such search has reached the end of the text. -/
  reachedEnd : Bool
  /-- Lengths of runs with the number of characters from the run to the end of the text, the one seen
  last in front. -/
  seen : List (Nat × Nat)
  deriving Repr

namespace TickMemory

/-- The longest run of backticks that can open or close inline code. -/
def maxRun : Nat := 80

/-- Remember a run of backticks. -/
def see (memory : TickMemory) (length distance : Nat) : TickMemory :=
  if length ≤ maxRun then { memory with seen := (length, distance) :: memory.seen } else memory

/-- Whether a search for a run from a place at a distance from the end is known to fail. -/
def isHopeless (memory : TickMemory) (length distance : Nat) : Bool :=
  maxRun < length ||
    (memory.reachedEnd && (memory.seen.lookup length).all (distance ≤ ·))

/-- Look for a run of backticks of a length: the text before it and the text behind it. `passed` is
what the search has passed already. The count bounds the number of runs. -/
def search (length : Nat) : Nat → List Char → List Char → TickMemory →
    Option (List Char × List Char) × TickMemory
  | 0, _, _, memory => (none, memory)
  | bound + 1, passed, text, memory =>
      let plain := text.takeWhile (· != '\x60')
      let atRun := text.dropWhile (· != '\x60')
      if atRun.isEmpty then (none, { memory with reachedEnd := true })
      else
        let run := atRun.takeWhile (· == '\x60')
        let after := atRun.dropWhile (· == '\x60')
        let memory := memory.see run.length atRun.length
        if run.length = length then (some (passed ++ plain, after), memory)
        else search length bound (passed ++ plain ++ run) after memory

end TickMemory

/-- The code between two runs of backticks: line feeds are spaces, and one space goes at each end if
there is one at both and the code is not all spaces. -/
def cleanCode (source : List Char) : List Char :=
  let code := source.map fun c => if c = '\n' then ' ' else c
  if code.head? = some ' ' ∧ code.getLast? = some ' ' ∧ ¬ code.all (· == ' ') then
    (code.drop 1).dropLast
  else code

/-- What has been read of inline content. -/
structure Progress where
  /-- The pieces since the innermost open bracket, in reverse. -/
  pieces : List Piece
  /-- The open brackets, the innermost in front. -/
  openers : List Opener
  /-- Whether the open brackets cannot open a link because one was just read inside them. -/
  linksBlocked : Bool
  ticks : TickMemory
  /-- The number of bytes that links to definitions have expanded to. -/
  expanded : Nat
  deriving Repr

namespace Progress

/-- Nothing has been read. -/
def start (expanded : Nat) : Progress :=
  ⟨[], [], false, ⟨false, []⟩, expanded⟩

/-- Add a piece. -/
def push (piece : Piece) (progress : Progress) : Progress :=
  { progress with pieces := piece :: progress.pieces }

/-- Add a node. -/
def pushNode (inline : Inline) (progress : Progress) : Progress :=
  progress.push (.node inline)

/-- Add plain text. -/
def pushText (text : List Char) (progress : Progress) : Progress :=
  progress.pushNode (.text text)

/-- Whether the last piece is a hard break. -/
def endsInHardBreak (progress : Progress) : Bool :=
  match progress.pieces with
  | .node .hardBreak :: _ => true
  | _ => false

/-- Add a bracket that has a text behind it. -/
def openBracket (isImage : Bool) (source : List Char) (progress : Progress) : Progress :=
  let outer :=
    match progress.openers with
    | opener :: rest => { opener with isFollowed := true } :: rest
    | [] => []
  { progress with
    pieces := []
    openers := ⟨isImage, false, source, progress.pieces⟩ :: outer
    linksBlocked := progress.linksBlocked && isImage }

/-- Give up an open bracket, which becomes plain text. -/
def giveUp (opener : Opener) (outer : List Opener) (progress : Progress) : Progress :=
  { progress with pieces := progress.pieces ++ opener.literal :: opener.before, openers := outer }

/-- Turn the content behind an open bracket into a link or image. -/
def complete (opener : Opener) (outer : List Opener) (destination : List Char)
    (progress : Progress) : Progress :=
  let children := Piece.pair progress.pieces.reverse
  let node := if opener.isImage then Inline.image destination children else .link destination children
  { progress with
    pieces := .node node :: opener.before
    openers := outer
    linksBlocked := progress.linksBlocked || !opener.isImage }

/-- All pieces, in reverse, with the open brackets given up. -/
def allPieces (pieces : List Piece) : List Opener → List Piece
  | [] => pieces
  | opener :: outer => allPieces (pieces ++ opener.literal :: opener.before) outer

/-- The nodes that have been read. -/
def finish (progress : Progress) : List Inline :=
  Piece.pair (allPieces progress.pieces progress.openers).reverse

end Progress

/-- The label that a closing bracket refers to, with the text behind the reference: the one in brackets
behind it, or the content of the link itself. -/
def referenceLabel? (opener : Opener) (after : List Char) : Option (List Char × List Char) :=
  let content := opener.source.take (opener.source.length - (after.length + 1))
  match label? after with
  | some ([], rest) => if opener.isFollowed then none else some (content, rest)
  | some (label, rest) => some (label, rest)
  | none => if opener.isFollowed then none else some (content, after)

/-- Read a right bracket. The result tells how many characters behind it belong to the link. -/
def readCloseBracket (setting : Setting) (after : List Char) (progress : Progress) :
    Nat × Progress :=
  match progress.openers with
  | [] => (0, progress.pushText [']'])
  | opener :: outer =>
      let failed := (progress.giveUp opener outer).pushText [']']
      if progress.linksBlocked && !opener.isImage then (0, failed)
      else
        match parenthesizedTarget? after with
        | some (destination, rest) =>
            (after.length - rest.length, progress.complete opener outer destination)
        | none =>
            match referenceLabel? opener after with
            | none => (0, failed)
            | some (label, rest) =>
                match setting.lookup progress.expanded label with
                | none => (0, failed)
                | some definition =>
                    let completed := progress.complete opener outer definition.destination
                    (after.length - rest.length,
                      { completed with expanded := progress.expanded + definition.size })

/-- Read a left angle bracket: an address, raw HTML or plain text. -/
def readAngleBracket (after : List Char) (progress : Progress) : Nat × Progress :=
  let taken (rest : List Char) : List Char := after.take (after.length - rest.length)
  match bracketedUri? after, bracketedMail? after, inlineHtml? after with
  | some rest, _, _ =>
      let address := decodeReferences (taken rest).dropLast
      (after.length - rest.length, progress.pushNode (.link address [.text address]))
  | none, some rest, _ =>
      let address := decodeReferences (taken rest).dropLast
      (after.length - rest.length,
        progress.pushNode (.link ("mailto:".toList ++ address) [.text address]))
  | none, none, some rest =>
      (after.length - rest.length, progress.pushNode (.html ('<' :: taken rest)))
  | none, none, none => (0, progress.pushText ['<'])

/-- Read a run of backticks: inline code, or plain text if no run of its length follows. -/
def readBackticks (after : List Char) (progress : Progress) : Nat × Progress :=
  let more := (after.takeWhile (· == '\x60')).length
  let behind := after.dropWhile (· == '\x60')
  let literal := List.replicate (more + 1) '\x60'
  if progress.ticks.isHopeless (more + 1) behind.length then (more, progress.pushText literal)
  else
    let (found, ticks) := progress.ticks.search (more + 1) (behind.length + 1) [] behind
    let progress := { progress with ticks := ticks }
    match found with
    | some (source, rest) =>
        (after.length - rest.length, progress.pushNode (.code (cleanCode source)))
    | none => (more, progress.pushText literal)

/-- Read a delimiter run. The characters before and behind it decide what it may do. -/
def readRun (setting : Setting) (before : List Char) (c : Char) (after : List Char)
    (progress : Progress) : Nat × Progress :=
  let more := (after.takeWhile (· == c)).length
  let behind := after.dropWhile (· == c)
  let run := Run.ofSides c (more + 1) (before.find? (!setting.isTransparent ·))
    (behind.find? (!setting.isTransparent ·))
  if run.canOpen || run.canClose then (more, progress.push (.pending run))
  else (more, progress.pushNode run.toText)

/-- Read a backslash: an escaped character, a hard break or plain text. -/
def readBackslash (after : List Char) (progress : Progress) : Nat × Progress :=
  match after with
  | c :: _ =>
      if Text.isAsciiPunctuation c then (1, progress.pushText [c])
      else if c = '\n' then (1, progress.pushNode .hardBreak)
      else (0, progress.pushText ['\\'])
  | [] => (0, progress.pushText ['\\'])

/-- Read a line feed. It is a hard break if two spaces stand before it. -/
def readLineFeed (before after : List Char) (progress : Progress) : Nat × Progress :=
  let skipped := (after.takeWhile Text.isSpaceOrTab).length
  match before with
  | ' ' :: ' ' :: _ => (skipped, progress.pushNode .hardBreak)
  | _ => (skipped, progress.pushNode .softBreak)

/-- Read plain text up to the next character that may begin something else. White space goes at the end
of a line, and at the start of a line behind a hard break. -/
def readText (setting : Setting) (c : Char) (after : List Char) (progress : Progress) :
    Nat × Progress :=
  let more := after.takeWhile (!setting.isSpecial ·)
  let text := c :: more
  let text :=
    if (after.drop more.length).head? = some '\n' then Text.trimEnd Text.isAsciiSpace text else text
  let text := if progress.endsInHardBreak then Text.trimStart Text.isAsciiSpace text else text
  (more.length, progress.pushText text)

/-- Read what a character begins. `before` is the text before it in reverse, and the result tells how
many characters behind it were read along. -/
def readNext (setting : Setting) (before : List Char) (c : Char) (after : List Char)
    (progress : Progress) : Nat × Progress :=
  if c = '\n' then readLineFeed before after progress
  else if c = '\x60' then readBackticks after progress
  else if c = '\\' then readBackslash after progress
  else if c = '&' then
    match characterReference? after with
    | some (chars, length) => (length, progress.pushText chars)
    | none => (0, progress.pushText ['&'])
  else if c = '<' then readAngleBracket after progress
  else if c = '[' then (0, progress.openBracket false after)
  else if c = '!' then
    match after with
    | '[' :: '^' :: _ => (0, progress.pushText ['!'])
    | '[' :: rest => (1, progress.openBracket true rest)
    | _ => (0, progress.pushText ['!'])
  else if c = ']' then readCloseBracket setting after progress
  else if c = '*' ∨ c = '_' ∨ (setting.strikethrough ∧ c = '~') then
    readRun setting before c after progress
  else readText setting c after progress

/-- Read a text to its end, given the text before it in reverse. -/
def readFrom (setting : Setting) (before : List Char) : List Char → Progress → Progress
  | [], progress => progress
  | c :: after, progress =>
      let (more, progress) := readNext setting before c after progress
      readFrom setting ((after.take more).reverse ++ c :: before) (after.drop more) progress
termination_by text => text.length
decreasing_by
  simp only [List.length_drop, List.length_cons]
  omega

/-- The nodes of a text, and the number of bytes that links to definitions have expanded to. -/
def readInlines (setting : Setting) (expanded : Nat) (text : List Char) : List Inline × Nat :=
  let progress := readFrom setting [] (Text.trimEnd Text.isAsciiSpace text) (.start expanded)
  (progress.finish, progress.expanded)

end Reader
end Markdown
end TwinEditor
