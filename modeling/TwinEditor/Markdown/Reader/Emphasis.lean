import TwinEditor.Text.Blank
import TwinEditor.Text.Punctuation

/-!
# Delimiter runs

Inline content as it is read: finished nodes, and runs of asterisks, underscores and tildes that may
still open or close emphasis. Runs are paired from left to right; each one that can close looks back
for the nearest that can open.
-/

namespace TwinEditor
namespace Markdown
namespace Reader

/-- A node of inline content. -/
inductive Inline
  | text (value : List Char)
  | softBreak
  | hardBreak
  | code (value : List Char)
  | html (value : List Char)
  | emphasis (children : List Inline)
  | strong (children : List Inline)
  | delete (children : List Inline)
  | link (destination : List Char) (children : List Inline)
  | image (destination : List Char) (children : List Inline)
  deriving Repr, Inhabited

/-- A run of one delimiter character. -/
structure Run where
  char : Char
  /-- The length of the run in the source. -/
  length : Nat
  /-- How many of its characters are not used yet. -/
  left : Nat
  canOpen : Bool
  canClose : Bool
  deriving Repr, DecidableEq

namespace Run

/-- The characters of the run that are not used, as plain text. -/
def toText (run : Run) : Inline :=
  .text (List.replicate run.left run.char)

/-- Whether a run opens what another one closes. A run that can do both pairs only if the lengths of
the two do not add up to a multiple of three, or both are such multiples. -/
def opens (opener closer : Run) : Bool :=
  opener.canOpen && opener.char == closer.char &&
    !((closer.canOpen || opener.canClose) && (opener.length + closer.length) % 3 == 0 &&
      !(opener.length % 3 == 0 && closer.length % 3 == 0))

/-- How many characters of each run a pair uses. -/
def pairWidth (opener closer : Run) : Nat :=
  if 2 ≤ opener.left ∧ 2 ≤ closer.left then 2 else 1

/-- Whether a pair of runs may be used. Tildes must be used up on both sides. -/
def fits (opener closer : Run) : Bool :=
  opener.char != '~' ||
    (opener.left == closer.left && opener.left == opener.pairWidth closer)

/-- The node that a pair of runs makes of the content between. -/
def wrap (opener closer : Run) (children : List Inline) : Inline :=
  if opener.char = '~' then .delete children
  else if opener.pairWidth closer = 1 then .emphasis children
  else .strong children

/-- Take characters off a run. -/
def use (count : Nat) (run : Run) : Run :=
  { run with left := run.left - count }

/-- A run that stands between two characters. Both sides count as white space at the ends of the
text. An underscore inside a word neither opens nor closes. -/
def ofSides (char : Char) (length : Nat) (before after : Option Char) : Run :=
  let isSpace (side : Option Char) : Bool := side.all Text.isBlank
  let isPunctuation (side : Option Char) : Bool := side.any Text.isPunctuation
  let flanksLeft := !isSpace after &&
    !(isPunctuation after && !isSpace before && !isPunctuation before)
  let flanksRight := !isSpace before &&
    !(isPunctuation before && !isSpace after && !isPunctuation after)
  if char = '_' then
    ⟨char, length, length, flanksLeft && (!flanksRight || isPunctuation before),
      flanksRight && (!flanksLeft || isPunctuation after)⟩
  else ⟨char, length, length, flanksLeft, flanksRight⟩

end Run

/-- A piece of inline content: a finished node, or a run that is not paired yet. -/
inductive Piece
  | node (inline : Inline)
  | pending (run : Run)
  deriving Repr, Inhabited

namespace Piece

/-- The piece as a finished node. An unpaired run is plain text. -/
def finish : Piece → Inline
  | .node inline => inline
  | .pending run => run.toText

/-- How many steps pairing may take for a piece. -/
def weight : Piece → Nat
  | .node _ => 1
  | .pending run => run.left + 1

/-- The pieces between a closing run and the nearest run that opens it, that run, and the pieces before
it, where `left` are the pieces before the closing run, in reverse. -/
def findOpener (closer : Run) (left : List Piece) : Option (List Piece × Run × List Piece) :=
  match left with
  | [] => none
  | .pending run :: before =>
      if run.opens closer then some ([], run, before)
      else
        (findOpener closer before).map fun (between, opener, below) =>
          (.pending run :: between, opener, below)
  | piece :: before =>
      (findOpener closer before).map fun (between, opener, below) => (piece :: between, opener, below)

/-- The run with what is left of it, as a piece in front of others, or nothing if it is used up. -/
def consRun (run : Run) (pieces : List Piece) : List Piece :=
  if run.left = 0 then pieces else .pending run :: pieces

/-- Pair the runs of a sequence of pieces. `left` are the pieces already passed, in reverse. A pair of
tildes that does not fit ends the pairing. -/
def pairFrom (left : List Piece) : List Piece → List Inline
  | [] => left.reverse.map finish
  | .node inline :: rest => pairFrom (.node inline :: left) rest
  | .pending closer :: rest =>
      if closer.canClose then
        match findOpener closer left with
        | some (between, opener, below) =>
            if opener.fits closer then
              let width := opener.pairWidth closer
              let node := opener.wrap closer (between.reverse.map finish)
              let passed := .node node :: consRun (opener.use width) below
              if closer.left ≤ width then pairFrom passed rest
              else pairFrom passed (.pending (closer.use width) :: rest)
            else (left.reverse ++ .pending closer :: rest).map finish
        | none =>
            if closer.canOpen then pairFrom (.pending closer :: left) rest
            else pairFrom (.node closer.toText :: left) rest
      else pairFrom (.pending closer :: left) rest
termination_by pieces => pieces.foldr (fun piece steps => piece.weight + steps) 0
decreasing_by
  all_goals simp only [List.foldr_cons, weight, Run.use]
  all_goals try omega
  rename_i h
  have hpos : 0 < closer.left := by omega
  simp only [Run.pairWidth]
  split <;> omega

/-- The nodes of a sequence of pieces, with its runs paired. -/
def pair (pieces : List Piece) : List Inline :=
  pairFrom [] pieces

end Piece
end Reader
end Markdown
end TwinEditor
