import TwinEditor.Proofs.Markdown.DelimiterRuns

/-!
# Delimiter runs at their places

A delimiter run of a written text is given by what stands before it, its mark, what stands between its
marks and what stands behind it. All runs of the text of an inline content are listed from its fragments,
and they are the runs that its nodes call for: one for every strong emphasis, emphasis and deleted text
that is not dropped because nothing is left inside.
-/

namespace TwinEditor
namespace Markdown

/-- A delimiter run at its place in a text. -/
structure PlacedRun where
  before : List Char
  delimiter : Delimiter
  inside : List Char
  behind : List Char
  deriving Repr, DecidableEq

/-- The text that a run stands in. -/
def PlacedRun.text (placed : PlacedRun) : List Char :=
  placed.before ++ (placed.delimiter.marker ++
    (placed.inside ++ (placed.delimiter.marker ++ placed.behind)))

namespace Fragment

mutual

/-- The runs of a fragment between two texts, from where they open on. -/
def placedRuns (before behind : List Char) : Fragment → List PlacedRun
  | .char _ => []
  | .run delimiter inside =>
      ⟨before, delimiter, texts inside, behind⟩ ::
        allPlacedRuns (before ++ delimiter.marker) (delimiter.marker ++ behind) inside

/-- The runs of fragments between two texts, from where they open on. -/
def allPlacedRuns (before behind : List Char) : List Fragment → List PlacedRun
  | [] => []
  | fragment :: rest =>
      fragment.placedRuns before (texts rest ++ behind) ++
        allPlacedRuns (before ++ fragment.text) behind rest

end

mutual

/-- Every run stands in the text that its fragment is written in. -/
theorem text_of_mem_placedRuns :
    ∀ (fragment : Fragment) (before behind : List Char),
      ∀ placed ∈ fragment.placedRuns before behind,
        placed.text = before ++ (fragment.text ++ behind)
  | .char _, _, _, _, member => by cases member
  | .run delimiter inside, before, behind, placed, member => by
      rw [placedRuns, List.mem_cons] at member
      rcases member with rfl | inner
      · simp [PlacedRun.text, text]
      · rw [text_of_mem_allPlacedRuns inside _ _ placed inner]
        simp [text]

/-- Every run stands in the text that its fragments are written in. -/
theorem text_of_mem_allPlacedRuns :
    ∀ (fragments : List Fragment) (before behind : List Char),
      ∀ placed ∈ allPlacedRuns before behind fragments,
        placed.text = before ++ (texts fragments ++ behind)
  | [], _, _, _, member => by cases member
  | fragment :: rest, before, behind, placed, member => by
      rw [allPlacedRuns, List.mem_append] at member
      rcases member with inFirst | inRest
      · rw [text_of_mem_placedRuns fragment _ _ placed inFirst]
        simp [texts]
      · rw [text_of_mem_allPlacedRuns rest _ _ placed inRest]
        simp [texts]

end

theorem allPlacedRuns_append
    (before behind : List Char)
    (fragments later : List Fragment) :
    allPlacedRuns before behind (fragments ++ later) =
      allPlacedRuns before (texts later ++ behind) fragments ++
        allPlacedRuns (before ++ texts fragments) behind later := by
  induction fragments generalizing before with
  | nil => simp [allPlacedRuns, texts]
  | cons fragment rest inductionHypothesis =>
      simp [allPlacedRuns, texts, texts_append, inductionHypothesis]

@[simp] theorem allPlacedRuns_ofText (before behind text : List Char) :
    allPlacedRuns before behind (ofText text) = [] := by
  induction text generalizing before with
  | nil => rfl
  | cons c rest inductionHypothesis => exact inductionHypothesis _

end Fragment

namespace Node

/-- All delimiter runs in the text of a sequence of inline nodes. -/
def delimiterRuns (inTable : Bool) (nodes : List Node) : List PlacedRun :=
  Fragment.allPlacedRuns [] [] (inlineFragments inTable nodes)

theorem text_of_mem_delimiterRuns
    {inTable : Bool}
    {nodes : List Node}
    {placed : PlacedRun}
    (member : placed ∈ delimiterRuns inTable nodes) :
    placed.text = inlineText inTable nodes := by
  rw [Fragment.text_of_mem_allPlacedRuns _ _ _ placed member, List.nil_append, List.append_nil,
    texts_inlineFragments]

end Node

/-! ## No run is missed -/

namespace Fragment

mutual

/-- The delimiters of the runs in a fragment, from where they open on. -/
def delimiters : Fragment → List Delimiter
  | .char _ => []
  | .run delimiter inside => delimiter :: allDelimiters inside

/-- The delimiters of the runs in fragments, from where they open on. -/
def allDelimiters : List Fragment → List Delimiter
  | [] => []
  | fragment :: rest => fragment.delimiters ++ allDelimiters rest

end

mutual

theorem map_delimiter_placedRuns :
    ∀ (fragment : Fragment) (before behind : List Char),
      (fragment.placedRuns before behind).map PlacedRun.delimiter = fragment.delimiters
  | .char _, _, _ => rfl
  | .run _ inside, _, _ => by
      rw [placedRuns, delimiters, List.map_cons, map_delimiter_allPlacedRuns inside]

theorem map_delimiter_allPlacedRuns :
    ∀ (fragments : List Fragment) (before behind : List Char),
      (allPlacedRuns before behind fragments).map PlacedRun.delimiter = allDelimiters fragments
  | [], _, _ => rfl
  | fragment :: rest, _, _ => by
      rw [allPlacedRuns, allDelimiters, List.map_append, map_delimiter_placedRuns fragment,
        map_delimiter_allPlacedRuns rest]

end

theorem allDelimiters_append (fragments later : List Fragment) :
    allDelimiters (fragments ++ later) = allDelimiters fragments ++ allDelimiters later := by
  induction fragments with
  | nil => rfl
  | cons fragment rest inductionHypothesis =>
      rw [List.cons_append, allDelimiters, allDelimiters, inductionHypothesis, List.append_assoc]

@[simp] theorem allDelimiters_ofText (text : List Char) : allDelimiters (ofText text) = [] := by
  induction text with
  | nil => rfl
  | cons c rest inductionHypothesis => exact inductionHypothesis

theorem allDelimiters_encodeFirst (fragments : List Fragment) :
    allDelimiters (encodeFirst fragments) = allDelimiters fragments := by
  unfold encodeFirst
  split
  · split
    · rw [allDelimiters_append, allDelimiters_ofText]
      rfl
    · rfl
  · rfl

theorem allDelimiters_encodeLast (fragments : List Fragment) :
    allDelimiters (encodeLast fragments) = allDelimiters fragments := by
  rcases List.eq_nil_or_concat fragments with rfl | ⟨before, fragment, rfl⟩
  · rfl
  · rw [List.concat_eq_append, encodeLast, List.getLast?_concat]
    cases fragment with
    | char c =>
        dsimp only
        split
        · rw [List.dropLast_concat, allDelimiters_append, allDelimiters_append,
            allDelimiters_ofText]
          rfl
        · rfl
    | run delimiter inside => rfl

end Fragment

/-- The delimiters of the run around a content and of the runs in it. White space alone is put between
no marks. -/
def enclosedDelimiters
    (delimiter : Delimiter)
    (content : List Char)
    (inner : List Delimiter) : List Delimiter :=
  if (splitOuterWhitespace content).2.1.isEmpty then [] else delimiter :: inner

namespace FragmentSpan

theorem allDelimiters_joinOnto
    (stretches : List FragmentSpan)
    (written : List Fragment)
    (guarded : Bool) :
    Fragment.allDelimiters (joinOnto written guarded stretches) =
      Fragment.allDelimiters written ++ stretches.flatMap fun stretch =>
        Fragment.allDelimiters stretch.fragments := by
  induction stretches generalizing written guarded with
  | nil => rw [joinOnto, List.flatMap_nil, List.append_nil]
  | cons stretch rest inductionHypothesis =>
      rw [joinOnto, inductionHypothesis, List.flatMap_cons, Fragment.allDelimiters_append,
        List.append_assoc]
      congr 1
      · split
        · exact Fragment.allDelimiters_encodeLast written
        · rfl
      · congr 1
        split
        · exact Fragment.allDelimiters_encodeFirst stretch.fragments
        · rfl

theorem allDelimiters_delimited (delimiter : Delimiter) (content : List Fragment) :
    Fragment.allDelimiters (delimited delimiter content).fragments =
      enclosedDelimiters delimiter (Fragment.texts content) (Fragment.allDelimiters content) := by
  obtain ⟨leading, inside, trailing, -, contentEq, split⟩ := exists_outerSplit content
  rw [delimited_eq contentEq split, enclosedDelimiters, split]
  cases body : Fragment.texts inside with
  | nil => exact Fragment.allDelimiters_ofText _
  | cons c rest =>
      rw [List.head?_cons, List.getLast?_cons, contentEq]
      simp [Fragment.allDelimiters_append, Fragment.allDelimiters, Fragment.delimiters]

end FragmentSpan

namespace Node

mutual

/-- The delimiters of the runs that an inline node calls for, from where they open on. -/
def delimiters (inTable : Bool) : Node → List Delimiter
  | .strong inner =>
      enclosedDelimiters .strong (Span.join (spans inTable inner)) (allDelimiters inTable inner)
  | .emphasis inner =>
      enclosedDelimiters .emphasis (Span.join (spans inTable inner)) (allDelimiters inTable inner)
  | .delete inner =>
      enclosedDelimiters .delete (Span.join (spans inTable inner)) (allDelimiters inTable inner)
  | .link _ inner => allDelimiters inTable inner
  | _ => []

/-- The delimiters of the runs that inline nodes call for, from where they open on. -/
def allDelimiters (inTable : Bool) : List Node → List Delimiter
  | [] => []
  | node :: rest => node.delimiters inTable ++ allDelimiters inTable rest

end

mutual

theorem allDelimiters_fragmentSpan (inTable : Bool) : (node : Node) →
    Fragment.allDelimiters (node.fragmentSpan inTable).fragments = node.delimiters inTable
  | .strong inner | .emphasis inner | .delete inner => by
      rw [fragmentSpan, FragmentSpan.allDelimiters_delimited, FragmentSpan.texts_join,
        map_span_fragmentSpans, allDelimiters_join_fragmentSpans inTable inner, delimiters]
  | .link url inner => by
      rw [fragmentSpan, FragmentSpan.plain, Fragment.allDelimiters, Fragment.allDelimiters_append,
        Fragment.allDelimiters_ofText, allDelimiters_join_fragmentSpans inTable inner, delimiters,
        List.append_nil]
      rfl
  | .heading .. | .paragraph _ | .list .. | .listItem _ | .code .. | .blockquote _
  | .thematicBreak | .text _ | .inlineCode _ | .lineBreak | .html _ | .image .. | .table ..
  | .tableRow _ | .tableCell _ => by
      simp [fragmentSpan, delimiters, FragmentSpan.plain]

theorem allDelimiters_join_fragmentSpans (inTable : Bool) : (nodes : List Node) →
    Fragment.allDelimiters (FragmentSpan.join (fragmentSpans inTable nodes)) =
      allDelimiters inTable nodes
  | [] => rfl
  | node :: rest => by
      have joined := allDelimiters_join_fragmentSpans inTable rest
      rw [FragmentSpan.join, FragmentSpan.allDelimiters_joinOnto] at joined ⊢
      rw [fragmentSpans, List.flatMap_cons, allDelimiters_fragmentSpan inTable node, allDelimiters]
      exact congrArg (node.delimiters inTable ++ ·) joined

end

/-- The listed runs are those that the nodes call for. -/
theorem map_delimiter_delimiterRuns (inTable : Bool) (nodes : List Node) :
    (delimiterRuns inTable nodes).map PlacedRun.delimiter =
      allDelimiters inTable (mergeRuns nodes) := by
  rw [delimiterRuns, Fragment.map_delimiter_allPlacedRuns, inlineFragments,
    allDelimiters_join_fragmentSpans]

end Node

end Markdown
end TwinEditor
