import TwinEditor.Json.Value
import TwinEditor.Markdown.Tree

/-!
# Outlines

The outline of a document is the forest of its top-level headings of depth at most three. A heading
stands inside the nearest earlier one with a smaller level. Every heading gets an identifier from a
counter that keeps running over several extractions until it is reset.
-/

namespace TwinEditor
namespace Outline

/-- The greatest depth of a heading that takes part in an outline. -/
def maxLevel : UInt8 := 3

/-- A heading before it is put in its place in the forest. -/
structure Entry where
  id : String
  text : String
  level : UInt8
  deriving Repr, DecidableEq

/-- A heading with the headings nested beneath it. -/
inductive Heading
  | mk (entry : Entry) (children : List Heading)
  deriving Repr, BEq

namespace Heading

/-- The heading without those beneath it. -/
def entry : Heading → Entry
  | .mk entry _ => entry

mutual

/-- A heading and all beneath it in document order, each with its nesting depth. -/
def flatten (depth : Nat) : Heading → List (Nat × Heading)
  | .mk entry children => (depth, .mk entry children) :: flattenAll (depth + 1) children

/-- A forest in document order, each heading with its nesting depth. -/
def flattenAll (depth : Nat) : List Heading → List (Nat × Heading)
  | [] => []
  | heading :: rest => heading.flatten depth ++ flattenAll depth rest

end

mutual

/-- A heading as JSON. -/
def toJson : Heading → Json
  | .mk entry children =>
      .object [("id", .string entry.id), ("text", .string entry.text),
        ("level", .ofNat entry.level.toNat), ("children", .array (toJsons children))]

/-- A forest as JSON. -/
def toJsons : List Heading → List Json
  | [] => []
  | heading :: rest => heading.toJson :: toJsons rest

end

end Heading

mutual

/-- The text of the plain text leaves inside a node in document order. Inline code is no plain text. -/
def leafText : Markdown.Node → String
  | .text value => value
  | .heading _ children | .paragraph children | .list _ children | .listItem children
  | .blockquote children | .strong children | .emphasis children | .link _ children
  | .delete children | .table _ children | .tableRow children | .tableCell children =>
      leafTexts children
  | .code .. | .thematicBreak | .inlineCode _ | .lineBreak | .html _ | .image .. => ""

/-- The text of the plain text leaves inside a sequence of nodes in document order. -/
def leafTexts : List Markdown.Node → String
  | [] => ""
  | node :: rest => leafText node ++ leafTexts rest

end

/-- The text of a heading with inline formatting removed. -/
def headingText (node : Markdown.Node) : String :=
  leafTexts node.children

/-- The identifier with a given number. -/
def identifier (number : Nat) : String :=
  "heading-" ++ toString number

/-- A forest while headings are put into it in document order. -/
structure Nesting where
  /-- The headings that are complete and stand in no other one. -/
  roots : List Heading
  /-- The headings that may still take others beneath them, the innermost first. Each of them goes
  beneath the next one when it is complete. -/
  opened : List Heading

namespace Nesting

/-- A forest before the first heading. -/
def empty : Nesting :=
  ⟨[], []⟩

/-- Complete the innermost open heading. It becomes the last one beneath the heading around it, or the
last root. -/
def close (nesting : Nesting) : Nesting :=
  match nesting.opened with
  | [] => nesting
  | [done] => ⟨nesting.roots ++ [done], []⟩
  | done :: .mk entry children :: outer => ⟨nesting.roots, .mk entry (children ++ [done]) :: outer⟩

/-- Complete a number of open headings from the innermost one outwards. -/
def closeInnermost : Nat → Nesting → Nesting
  | 0, nesting => nesting
  | count + 1, nesting => closeInnermost count nesting.close

/-- Put a heading in its place. It completes the open headings around it up to the first one with a
smaller level, in which it stands. -/
def add (nesting : Nesting) (entry : Entry) : Nesting :=
  let ended := nesting.opened.takeWhile (entry.level ≤ ·.entry.level)
  let around := nesting.closeInnermost ended.length
  { around with opened := .mk entry [] :: around.opened }

/-- The forest after the last heading. -/
def finish (nesting : Nesting) : List Heading :=
  (nesting.closeInnermost nesting.opened.length).roots

end Nesting

end Outline

/-- The outline of a document. -/
structure Outline where
  headings : List Outline.Heading
  deriving Repr, BEq

namespace Outline

/-- Whether there are no headings. -/
def isEmpty (outline : Outline) : Bool :=
  outline.headings.isEmpty

/-- All headings in document order, each with its nesting depth. -/
def flatten (outline : Outline) : List (Nat × Heading) :=
  Heading.flattenAll 0 outline.headings

/-- The first heading with an identifier. -/
def find? (outline : Outline) (id : String) : Option Heading :=
  (outline.flatten.map (·.2)).find? (·.entry.id == id)

/-- The number of headings. -/
def headingCount (outline : Outline) : Nat :=
  outline.flatten.length

/-- The number of headings with a level. -/
def countAt (outline : Outline) (level : UInt8) : Nat :=
  outline.flatten.countP (·.2.entry.level == level)

/-- The number of headings with each of the levels from one to three. -/
def levelCounts (outline : Outline) : List Nat :=
  [outline.countAt 1, outline.countAt 2, outline.countAt 3]

/-- The levels that occur with their counts, as a text for people. -/
def summary (outline : Outline) : String :=
  let part (level count : Nat) : List String :=
    if count = 0 then [] else [toString count ++ " H" ++ toString level]
  match outline.levelCounts.mapIdx (fun index count => part (index + 1) count) |>.flatten with
  | [] => "No headings"
  | parts => ", ".intercalate parts

/-- The outline as JSON. -/
def toJson (outline : Outline) : Json :=
  .array (Heading.toJsons outline.headings)

/-- The counter that issues identifiers. It has 64 bits and begins again at zero behind its last
number. -/
structure Extractor where
  counter : UInt64
  deriving Repr, DecidableEq

namespace Extractor

/-- A counter that has issued nothing. -/
def start : Extractor :=
  ⟨0⟩

/-- The counter when it begins anew. -/
def reset (_ : Extractor) : Extractor :=
  start

/-- How many identifiers have been issued since the counter began. -/
def issued (extractor : Extractor) : Nat :=
  extractor.counter.toNat

/-- Issue an identifier. -/
def issue (extractor : Extractor) : String × Extractor :=
  let counter := extractor.counter + 1
  (identifier counter.toNat, ⟨counter⟩)

/-- Take the next block of a document. A heading that takes part gets an identifier and its place. -/
def visit (state : Extractor × Nesting) (node : Markdown.Node) : Extractor × Nesting :=
  match node with
  | .heading depth _ =>
      if maxLevel < depth then state
      else
        let (id, extractor) := state.1.issue
        (extractor, state.2.add ⟨id, headingText node, depth⟩)
  | _ => state

/-- The outline of a document, and the counter after it. -/
def extract (extractor : Extractor) (tree : Markdown.Tree) : Outline × Extractor :=
  let visited := tree.children.foldl visit (extractor, .empty)
  (⟨visited.2.finish⟩, visited.1)

end Extractor
end Outline
end TwinEditor
