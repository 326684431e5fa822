import Mathlib.Data.List.Induction
import TwinEditor.Proofs.RichText.MarkStack

/-!
# What comes back from Markdown

A rich-text document goes to Markdown and comes back as its normal form. Each text run goes as one
chain of wrappers and comes back as one run. The chain has the last mark outermost and is read from
the outside, so the marks come back reversed, and a wrapper inside another one of its kind adds
nothing. The code mark is no wrapper: it belongs to the leaf and comes back last.
-/

namespace TwinEditor
namespace RichText

/-! ## The normal form -/

/-- The mark that the wrapper for a mark is read as, if there is a wrapper for it. -/
def Mark.returned? : Mark → Option Mark
  | .bold => some .bold
  | .italic => some .italic
  | .link href _ => some (.link href (some "_blank"))
  | .code | .unsupported => none

/-- The marks of a run in normal form. -/
def Mark.normalForm (marks : List Mark) : List Mark :=
  (marks.reverse.filterMap Mark.returned?).eraseDups ++ if .code ∈ marks then [.code] else []

namespace Node

/-- The normal form of a node in a heading or paragraph, of which only text that is not empty
remains. -/
def normalRun? : Node → Option Node
  | .text value marks => if value = "" then none else some (.text value (Mark.normalForm marks))
  | _ => none

mutual

/-- The normal form of a node among blocks, of which only blocks remain. -/
def normalForm? : Node → Option Node
  | .heading level content =>
      some (.heading (if level = 0 then 1 else level) (content.filterMap normalRun?))
  | .paragraph content => some (.paragraph (content.filterMap normalRun?))
  | .bulletList content => some (.bulletList (normalItems content))
  | .orderedList content => some (.orderedList (normalItems content))
  | .listItem content => some (.listItem (normalBlocks content))
  | .codeBlock language content =>
      some (.codeBlock (if language = some "" then none else language)
        (if textContents content = "" then [] else [.text (textContents content) []]))
  | .blockquote content => some (.blockquote (normalBlocks content))
  | .horizontalRule => some .horizontalRule
  | .text .. | .unsupported => none

/-- The normal form of a sequence of nodes among blocks. -/
def normalBlocks : List Node → List Node
  | [] => []
  | node :: rest => node.normalForm?.toList ++ normalBlocks rest

/-- The normal form of the nodes in a list, of which only list items remain. -/
def normalItems : List Node → List Node
  | [] => []
  | node :: rest => (if node.isListItem then node.normalForm?.toList else []) ++ normalItems rest

end

end Node

/-- The normal form of a document. A document without blocks becomes one empty paragraph. -/
def Document.normalForm (document : Document) : Document :=
  if Node.normalBlocks document.content = [] then ⟨[.paragraph []]⟩
  else ⟨Node.normalBlocks document.content⟩

/-! ## Text runs -/

/-- A wrapper adds the mark that it is read as, and what is no wrapper adds none. -/
theorem runsOfInline_wrap
    (marks : List Mark)
    (inner : Markdown.Node)
    (mark : Mark) :
    runsOfInline marks (mark.wrap inner) =
      runsOfInline (mark.returned?.toList.foldl (fun marks mark => mark.addTo marks) marks)
        inner := by
  cases mark <;> simp [Mark.wrap, Mark.returned?, Mark.linkTo, runsOfInline, runsOfInlines]

/-- A chain of wrappers adds the marks that its wrappers are read as, from the outside. -/
theorem runsOfInline_foldr_wrap
    (marks wrappers : List Mark)
    (inner : Markdown.Node) :
    runsOfInline marks (wrappers.foldr (fun mark inner => mark.wrap inner) inner) =
      runsOfInline ((wrappers.filterMap Mark.returned?).foldl (fun marks mark => mark.addTo marks)
        marks) inner := by
  induction wrappers generalizing marks with
  | nil => rfl
  | cons mark wrappers inductionHypothesis =>
      rw [List.foldr_cons, runsOfInline_wrap, inductionHypothesis]
      cases returned : mark.returned? <;> simp [returned]

/-- Of marks that are added one after another, each repetition is left out. -/
theorem foldl_addTo (added : List Mark) :
    added.foldl (fun marks mark => mark.addTo marks) [] = added.eraseDups := by
  induction added using List.reverseRecOn with
  | nil => rfl
  | append_singleton added mark inductionHypothesis =>
      rw [List.foldl_append, inductionHypothesis, List.eraseDups_append]
      by_cases present : mark ∈ added
      · simp [Mark.addTo, List.removeAll, present]
      · simp [Mark.addTo, List.removeAll, present, List.eraseDups_cons]

/-- No wrapper is read as the code mark. -/
theorem Mark.code_notMem_returned (marks : List Mark) :
    .code ∉ (marks.filterMap Mark.returned?).eraseDups := by
  intro member
  obtain ⟨mark, _, returned⟩ := List.mem_filterMap.mp (List.mem_eraseDups.mp member)
  cases mark <;> cases returned

/-- A text run that goes to Markdown comes back as one run with its marks in normal form. -/
theorem runsOfInline_markdownOfRun
    (text : String)
    (marks : List Mark) :
    runsOfInline [] (markdownOfRun text marks) = run text (Mark.normalForm marks) := by
  rw [markdownOfRun, List.foldl_eq_foldr_reverse, runsOfInline_foldr_wrap, foldl_addTo,
    Mark.normalForm]
  by_cases present : .code ∈ marks
  · rw [if_pos present, if_pos present, runsOfInline, Mark.addTo,
      if_neg (Mark.code_notMem_returned _)]
  · rw [if_neg present, if_neg present, runsOfInline, List.append_nil]

/-- The runs of a heading or paragraph come back in normal form. -/
theorem runsOfInlines_inlinesToMarkdown (content : List Node) :
    runsOfInlines [] (inlinesToMarkdown content) = content.filterMap Node.normalRun? := by
  induction content with
  | nil => rfl
  | cons node rest inductionHypothesis =>
      cases node with
      | text value marks =>
          rw [inlinesToMarkdown, runsOfInlines, runsOfInline_markdownOfRun, inductionHypothesis,
            run, List.filterMap_cons, Node.normalRun?]
          by_cases empty : value = "" <;> simp [empty]
      | _ => exact inductionHypothesis

/-! ## Blocks -/

/-- A language that is read is one with a name. -/
theorem filter_not_isEmpty (language : Option String) :
    language.filter (!·.isEmpty) = if language = some "" then none else language := by
  cases language with
  | none => rfl
  | some name =>
      by_cases empty : name = "" <;> simp [empty]

/-- Level zero is raised to one. -/
theorem max_one_eq (level : UInt8) :
    max level 1 = if level = 0 then 1 else level := by
  show (if level ≤ 1 then 1 else level) = if level = 0 then 1 else level
  grind

mutual

/-- A node among blocks that goes to Markdown comes back in normal form. -/
theorem bind_blockOfMarkdown?_blockToMarkdown? :
    (node : Node) →
    (blockToMarkdown? node).bind blockOfMarkdown? = node.normalForm?
  | .heading level content => by
      simp only [blockToMarkdown?, Option.bind_some, blockOfMarkdown?, Node.normalForm?,
        inlineRuns_eq, runsOfInlines_inlinesToMarkdown, max_one_eq]
  | .paragraph content => by
      simp only [blockToMarkdown?, Option.bind_some, blockOfMarkdown?, Node.normalForm?,
        inlineRuns_eq, runsOfInlines_inlinesToMarkdown]
  | .bulletList content => by
      simp only [blockToMarkdown?, Option.bind_some, blockOfMarkdown?, Node.normalForm?,
        itemsOfMarkdown_itemsToMarkdown content]
  | .orderedList content => by
      simp only [blockToMarkdown?, Option.bind_some, blockOfMarkdown?, Node.normalForm?,
        itemsOfMarkdown_itemsToMarkdown content]
  | .listItem content => by
      simp only [blockToMarkdown?, Option.bind_some, blockOfMarkdown?, Node.normalForm?,
        blocksOfMarkdown_blocksToMarkdown content]
  | .codeBlock language content => by
      simp only [blockToMarkdown?, Option.bind_some, blockOfMarkdown?, Node.normalForm?,
        filter_not_isEmpty, run, String.isEmpty_iff]
  | .blockquote content => by
      simp only [blockToMarkdown?, Option.bind_some, blockOfMarkdown?, Node.normalForm?,
        blocksOfMarkdown_blocksToMarkdown content]
  | .horizontalRule => rfl
  | .text _ _ => rfl
  | .unsupported => rfl

/-- A sequence of nodes among blocks that goes to Markdown comes back in normal form. -/
theorem blocksOfMarkdown_blocksToMarkdown :
    (nodes : List Node) →
    blocksOfMarkdown (blocksToMarkdown nodes) = Node.normalBlocks nodes
  | [] => rfl
  | node :: rest => by
      rw [blocksToMarkdown, Node.normalBlocks, ← bind_blockOfMarkdown?_blockToMarkdown? node,
        ← blocksOfMarkdown_blocksToMarkdown rest]
      cases blockToMarkdown? node <;> rfl

/-- The nodes of a list that goes to Markdown come back in normal form. -/
theorem itemsOfMarkdown_itemsToMarkdown :
    (nodes : List Node) →
    itemsOfMarkdown (itemsToMarkdown nodes) = Node.normalItems nodes
  | [] => rfl
  | node :: rest => by
      have nodeBack := bind_blockOfMarkdown?_blockToMarkdown? node
      have restBack := itemsOfMarkdown_itemsToMarkdown rest
      cases node with
      | listItem content =>
          rw [Node.normalItems, if_pos (show (Node.listItem content).isListItem from rfl),
            ← nodeBack, ← restBack]
          rfl
      | _ => exact restBack

end

/-- A document that goes to Markdown comes back in normal form. -/
theorem Document.ofMarkdown_toMarkdown (document : Document) :
    Document.ofMarkdown document.toMarkdown = document.normalForm := by
  rw [ofMarkdown, toMarkdown, blocksOfMarkdown_blocksToMarkdown, normalForm]
  cases Node.normalBlocks document.content <;> rfl

/-- Links that differ in their windows only come back as one. -/
example :
    Document.ofMarkdown (Document.toMarkdown ⟨[.paragraph [.text "a"
        [.code, .link "b" none, .bold, .unsupported, .link "b" (some "_self")]], .text "c" []]⟩) =
      ⟨[.paragraph [.text "a" [.link "b" (some "_blank"), .bold, .code]]]⟩ :=
  rfl

end RichText
end TwinEditor
