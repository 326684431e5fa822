import TwinEditor.Proofs.Markdown.OuterWhitespace

/-!
# Where delimiter runs stand

The writer of inline content gives a text that does not tell delimiter runs from other characters. Here
it is followed step by step with fragments that do: each step of the writer has a counterpart on
fragments, and what the fragments are written as is what the writer gives. So every run that is put
around content can be found in the finished text, with all that is written before it, between its marks
and behind it.
-/

namespace TwinEditor
namespace Markdown

/-- A fragment of written inline content: a character, or content between two delimiter marks. -/
inductive Fragment
  | char (c : Char)
  | run (delimiter : Delimiter) (inside : List Fragment)

namespace Fragment

mutual

/-- What a fragment is written as. -/
def text : Fragment → List Char
  | .char c => [c]
  | .run delimiter inside => delimiter.marker ++ (texts inside ++ delimiter.marker)

/-- What fragments are written as. -/
def texts : List Fragment → List Char
  | [] => []
  | fragment :: rest => fragment.text ++ texts rest

end

/-- The characters of a text. -/
def ofText (text : List Char) : List Fragment :=
  text.map .char

/-- Fragments of which the first is written as a reference if it is a word character. -/
def encodeFirst : List Fragment → List Fragment
  | .char c :: rest =>
      if Escape.isWord c then ofText (Escape.reference c) ++ rest else .char c :: rest
  | fragments => fragments

/-- Fragments of which the last is written as a reference if it is a word character. -/
def encodeLast (fragments : List Fragment) : List Fragment :=
  match fragments.getLast? with
  | some (.char c) =>
      if Escape.isWord c then fragments.dropLast ++ ofText (Escape.reference c) else fragments
  | _ => fragments

end Fragment

/-- A stretch of written inline content in fragments. -/
structure FragmentSpan where
  fragments : List Fragment
  guardsBefore : Bool
  guardsAfter : Bool

namespace FragmentSpan

/-- The stretch as the writer has it. -/
def span (stretch : FragmentSpan) : Span :=
  ⟨Fragment.texts stretch.fragments, stretch.guardsBefore, stretch.guardsAfter⟩

/-- A stretch that has no delimiter run at its edges. -/
def plain (fragments : List Fragment) : FragmentSpan :=
  ⟨fragments, false, false⟩

/-- Write stretches one after another behind fragments that are already written. -/
def joinOnto (written : List Fragment) (guarded : Bool) : List FragmentSpan → List Fragment
  | [] => written
  | stretch :: rest =>
      let before := if stretch.guardsBefore then Fragment.encodeLast written else written
      let fragments := if guarded then Fragment.encodeFirst stretch.fragments else stretch.fragments
      joinOnto (before ++ fragments)
        (stretch.guardsAfter || (guarded && (Fragment.texts stretch.fragments).isEmpty)) rest

/-- Stretches written one after another. -/
def join (stretches : List FragmentSpan) : List Fragment :=
  joinOnto [] false stretches

/-- Fragments between delimiter marks, with the white space at their edges outside. -/
def delimited (delimiter : Delimiter) (content : List Fragment) : FragmentSpan :=
  let (leading, body, trailing) := splitOuterWhitespace (Fragment.texts content)
  let inside := (content.drop leading.length).take
    (content.length - (leading.length + trailing.length))
  match body.head?, body.getLast? with
  | some first, some last =>
      ⟨Fragment.ofText leading ++ .run delimiter inside :: Fragment.ofText trailing,
        leading.isEmpty && delimiter.guardsOutside first,
        trailing.isEmpty && delimiter.guardsOutside last⟩
  | _, _ => plain (Fragment.ofText (leading ++ trailing))

end FragmentSpan

namespace Node

mutual

/-- What an inline node writes, in fragments. -/
def fragmentSpan (inTable : Bool) : Node → FragmentSpan
  | .strong inner => .delimited .strong (FragmentSpan.join (fragmentSpans inTable inner))
  | .emphasis inner => .delimited .emphasis (FragmentSpan.join (fragmentSpans inTable inner))
  | .delete inner => .delimited .delete (FragmentSpan.join (fragmentSpans inTable inner))
  | .link url inner =>
      .plain (.char '[' :: (FragmentSpan.join (fragmentSpans inTable inner) ++
        Fragment.ofText (']' :: '(' :: (linkDestination url.toList ++ [')']))))
  | node => .plain (Fragment.ofText (node.span inTable).text)

/-- What a sequence of inline nodes writes, node by node, in fragments. -/
def fragmentSpans (inTable : Bool) : List Node → List FragmentSpan
  | [] => []
  | node :: rest => node.fragmentSpan inTable :: fragmentSpans inTable rest

end

/-- The fragments of a sequence of inline nodes. -/
def inlineFragments (inTable : Bool) (nodes : List Node) : List Fragment :=
  FragmentSpan.join (fragmentSpans inTable (mergeRuns nodes))

end Node

/-! ## Delimiter marks -/

theorem Delimiter.of_mem_marker
    {delimiter : Delimiter}
    {c : Char}
    (member : c ∈ delimiter.marker) :
    Text.isBlank c = false ∧ c ≠ '\\' ∧ Escape.isWord c = false := by
  have cases : c = '*' ∨ c = '_' ∨ c = '~' := by
    cases delimiter <;> simp_all [marker]
  rcases cases with rfl | rfl | rfl <;> decide

theorem Delimiter.marker_ne_nil (delimiter : Delimiter) : delimiter.marker ≠ [] := by
  cases delimiter <;> exact List.cons_ne_nil _ _

/-! ## Fragments are written as the writer does -/

namespace Fragment

theorem texts_append (fragments later : List Fragment) :
    texts (fragments ++ later) = texts fragments ++ texts later := by
  induction fragments with
  | nil => rfl
  | cons fragment rest inductionHypothesis =>
      rw [List.cons_append, texts, texts, inductionHypothesis, List.append_assoc]

@[simp] theorem texts_ofText (text : List Char) : texts (ofText text) = text := by
  induction text with
  | nil => rfl
  | cons c rest inductionHypothesis => exact congrArg (c :: ·) inductionHypothesis

theorem texts_singleton (fragment : Fragment) : texts [fragment] = fragment.text :=
  List.append_nil _

theorem ofText_append (text more : List Char) :
    ofText (text ++ more) = ofText text ++ ofText more :=
  List.map_append

/-- A run begins and ends with characters of its mark. -/
theorem exists_text_run (delimiter : Delimiter) (inside : List Fragment) :
    (∃ c rest, (run delimiter inside).text = c :: rest ∧ c ∈ delimiter.marker) ∧
      ∃ c rest, (run delimiter inside).text = rest ++ [c] ∧ c ∈ delimiter.marker := by
  rw [text]
  cases delimiter with
  | strong =>
      exact ⟨⟨'*', _, rfl, by decide⟩, '*', '*' :: '*' :: (texts inside ++ ['*']),
        by simp [Delimiter.marker], by decide⟩
  | emphasis =>
      exact ⟨⟨'_', _, rfl, by decide⟩, '_', '_' :: texts inside, by simp [Delimiter.marker],
        by decide⟩
  | delete =>
      exact ⟨⟨'~', _, rfl, by decide⟩, '~', '~' :: '~' :: (texts inside ++ ['~']),
        by simp [Delimiter.marker], by decide⟩

theorem texts_encodeFirst (fragments : List Fragment) :
    texts (encodeFirst fragments) = Escape.encodeFirst (texts fragments) := by
  cases fragments with
  | nil => rfl
  | cons fragment rest =>
      cases fragment with
      | char c =>
          show texts (if _ then _ else _) = if _ then _ else _
          split
          · rw [texts_append, texts_ofText]
            rfl
          · rfl
      | run delimiter inside =>
          obtain ⟨c, more, begins, member⟩ := (exists_text_run delimiter inside).1
          have noWord := (Delimiter.of_mem_marker member).2.2
          rw [encodeFirst, texts, begins, List.cons_append, Escape.encodeFirst,
            if_neg (by simp [noWord])]
          nofun

theorem texts_encodeLast (fragments : List Fragment) :
    texts (encodeLast fragments) = Escape.encodeLast (texts fragments) := by
  rcases List.eq_nil_or_concat fragments with rfl | ⟨before, fragment, rfl⟩
  · rfl
  · rw [List.concat_eq_append, encodeLast, Escape.encodeLast, texts_append, texts_singleton,
      List.getLast?_concat]
    cases fragment with
    | char c =>
        rw [text, List.getLast?_concat, List.dropLast_concat, List.dropLast_concat]
        dsimp only
        split
        · rw [texts_append, texts_ofText]
        · rw [texts_append, texts_singleton, text]
    | run delimiter inside =>
        obtain ⟨c, more, ends, member⟩ := (exists_text_run delimiter inside).2
        have noWord := (Delimiter.of_mem_marker member).2.2
        rw [ends, ← List.append_assoc, List.getLast?_concat]
        dsimp only
        rw [if_neg (by simp [noWord]), texts_append, texts_singleton, ends, List.append_assoc]

/-- Whether a text has no character of a delimiter mark. -/
def IsMarkFree (text : List Char) : Prop :=
  ∀ c ∈ text, ∀ delimiter : Delimiter, c ∉ delimiter.marker

/-- Characters at the beginning that are in no mark are fragments of their own. -/
theorem exists_of_texts_eq_append_left
    {fragments : List Fragment}
    {text more : List Char}
    (markFree : IsMarkFree text)
    (same : texts fragments = text ++ more) :
    ∃ rest, fragments = ofText text ++ rest ∧ texts rest = more := by
  induction text generalizing fragments with
  | nil => exact ⟨fragments, rfl, same⟩
  | cons c text inductionHypothesis =>
      obtain ⟨noMark, textMarkFree⟩ := List.forall_mem_cons.mp markFree
      cases fragments with
      | nil => cases same
      | cons fragment fragments =>
          cases fragment with
          | char d =>
              obtain ⟨rfl, sameRest⟩ := List.cons.inj same
              obtain ⟨rest, rfl, restSame⟩ := inductionHypothesis textMarkFree sameRest
              exact ⟨rest, rfl, restSame⟩
          | run delimiter inside =>
              obtain ⟨d, behind, begins, member⟩ := (exists_text_run delimiter inside).1
              rw [texts, begins] at same
              obtain ⟨rfl, -⟩ := List.cons.inj same
              exact absurd member (noMark delimiter)

/-- Characters at the end that are in no mark are fragments of their own. -/
theorem exists_of_texts_eq_append_right
    {fragments : List Fragment}
    {more text : List Char}
    (markFree : IsMarkFree text)
    (same : texts fragments = more ++ text) :
    ∃ rest, fragments = rest ++ ofText text ∧ texts rest = more := by
  induction text using List.reverseRecOn generalizing fragments with
  | nil => exact ⟨fragments, (List.append_nil _).symm, same.trans (List.append_nil _)⟩
  | append_singleton text c inductionHypothesis =>
      obtain ⟨textMarkFree, noMark⟩ := List.forall_mem_append.mp markFree
      rcases List.eq_nil_or_concat fragments with rfl | ⟨fragments, fragment, rfl⟩
      · simp [texts] at same
      · rw [List.concat_eq_append] at same ⊢
        rw [texts_append, texts_singleton, ← List.append_assoc] at same
        cases fragment with
        | char d =>
            obtain ⟨sameRest, one⟩ := List.append_inj' same rfl
            obtain ⟨rest, rfl, restSame⟩ := inductionHypothesis textMarkFree sameRest
            refine ⟨rest, ?_, restSame⟩
            rw [ofText_append, ← List.append_assoc]
            exact congrArg (_ ++ [char ·]) (List.cons.inj one).1
        | run delimiter inside =>
            obtain ⟨d, before, ends, member⟩ := (exists_text_run delimiter inside).2
            rw [ends, ← List.append_assoc] at same
            obtain ⟨-, one⟩ := List.append_inj' same rfl
            obtain ⟨rfl, -⟩ := List.cons.inj one
            exact absurd member (noMark d (List.mem_singleton_self d) delimiter)

end Fragment

/-- White space and hard breaks have no character of a delimiter mark. -/
theorem Spacing.isMarkFree
    {text : List Char}
    (spacing : Spacing text) :
    Fragment.IsMarkFree text := by
  intro c member delimiter inMark
  obtain ⟨visible, noBackslash, -⟩ := Delimiter.of_mem_marker inMark
  rcases spacing.isBlank_or_eq c member with blank | backslash
  · exact absurd blank (by simp [visible])
  · exact noBackslash backslash

namespace FragmentSpan

/-- Fragments are taken apart at their edges as their text is. -/
theorem exists_outerSplit (content : List Fragment) :
    ∃ leading inside trailing,
      OuterSplit (Fragment.texts content) leading (Fragment.texts inside) trailing ∧
        content = Fragment.ofText leading ++ (inside ++ Fragment.ofText trailing) ∧
        splitOuterWhitespace (Fragment.texts content) = (leading, Fragment.texts inside, trailing) := by
  have split := outerSplit_splitOuterWhitespace (Fragment.texts content)
  obtain ⟨rest, contentEq, restEq⟩ := Fragment.exists_of_texts_eq_append_left
    (Spacing.of_blank split.leading_blank).isMarkFree split.content_eq
  obtain ⟨inside, rfl, insideEq⟩ := Fragment.exists_of_texts_eq_append_right
    split.trailing_spacing.isMarkFree restEq
  refine ⟨_, inside, _, ?_, contentEq, ?_⟩
  · rw [insideEq]
    exact split
  · rw [insideEq]

/-- What is put between delimiter marks: all that is left between the white space at the edges, unless
nothing is left. -/
theorem delimited_eq
    {content : List Fragment}
    {leading trailing : List Char}
    {inside : List Fragment}
    (contentEq : content = Fragment.ofText leading ++ (inside ++ Fragment.ofText trailing))
    (split : splitOuterWhitespace (Fragment.texts content) = (leading, Fragment.texts inside, trailing))
    (delimiter : Delimiter) :
    delimited delimiter content =
      match (Fragment.texts inside).head?, (Fragment.texts inside).getLast? with
      | some first, some last =>
          ⟨Fragment.ofText leading ++ .run delimiter inside :: Fragment.ofText trailing,
            leading.isEmpty && delimiter.guardsOutside first,
            trailing.isEmpty && delimiter.guardsOutside last⟩
      | _, _ => plain (Fragment.ofText (leading ++ trailing)) := by
  have taken : (content.drop leading.length).take
      (content.length - (leading.length + trailing.length)) = inside := by
    have lengthLeading : (Fragment.ofText leading).length = leading.length := List.length_map _
    have lengthTrailing : (Fragment.ofText trailing).length = trailing.length := List.length_map _
    rw [contentEq, List.drop_left' lengthLeading, List.length_append, List.length_append,
      lengthLeading, lengthTrailing]
    exact List.take_left' (by omega)
  rw [delimited, split]
  dsimp only
  rw [taken]

theorem span_delimited (delimiter : Delimiter) (content : List Fragment) :
    (delimited delimiter content).span = Markdown.delimited delimiter (Fragment.texts content) := by
  obtain ⟨leading, inside, trailing, -, contentEq, split⟩ := exists_outerSplit content
  rw [delimited_eq contentEq split, Markdown.delimited, split]
  cases head : (Fragment.texts inside).head? <;> cases last : (Fragment.texts inside).getLast? <;>
    simp [head, last, span, plain, Span.plain, Fragment.texts_append, Fragment.texts, Fragment.text]

theorem texts_joinOnto
    (stretches : List FragmentSpan)
    (written : List Fragment)
    (guarded : Bool) :
    Fragment.texts (joinOnto written guarded stretches) =
      Span.joinOnto (Fragment.texts written) guarded (stretches.map span) := by
  induction stretches generalizing written guarded with
  | nil => rfl
  | cons stretch rest inductionHypothesis =>
      rw [joinOnto, inductionHypothesis, List.map_cons, Span.joinOnto, Fragment.texts_append]
      congr 2 <;> split <;> simp [span, Fragment.texts_encodeLast, Fragment.texts_encodeFirst, *]

theorem texts_join (stretches : List FragmentSpan) :
    Fragment.texts (join stretches) = Span.join (stretches.map span) :=
  texts_joinOnto stretches [] false

end FragmentSpan

namespace Node

mutual

theorem span_fragmentSpan (inTable : Bool) : (node : Node) →
    (node.fragmentSpan inTable).span = node.span inTable
  | .strong inner | .emphasis inner | .delete inner => by
      rw [fragmentSpan, span, FragmentSpan.span_delimited, FragmentSpan.texts_join,
        map_span_fragmentSpans inTable inner]
  | .link url inner => by
      rw [fragmentSpan, span, ← map_span_fragmentSpans inTable inner, ← FragmentSpan.texts_join]
      simp [FragmentSpan.span, FragmentSpan.plain, Span.plain, Fragment.texts, Fragment.text,
        Fragment.texts_append]
  | .heading .. | .paragraph _ | .list .. | .listItem _ | .code .. | .blockquote _
  | .thematicBreak | .text _ | .inlineCode _ | .lineBreak | .html _ | .image .. | .table ..
  | .tableRow _ | .tableCell _ => by
      simp [fragmentSpan, span, FragmentSpan.span, FragmentSpan.plain, Span.plain]

theorem map_span_fragmentSpans (inTable : Bool) : (nodes : List Node) →
    (fragmentSpans inTable nodes).map FragmentSpan.span = spans inTable nodes
  | [] => rfl
  | node :: rest => by
      rw [fragmentSpans, spans, List.map_cons, span_fragmentSpan inTable node,
        map_span_fragmentSpans inTable rest]

end

/-- The fragments are written as the writer writes. -/
theorem texts_inlineFragments (inTable : Bool) (nodes : List Node) :
    Fragment.texts (inlineFragments inTable nodes) = inlineText inTable nodes := by
  rw [inlineFragments, FragmentSpan.texts_join, map_span_fragmentSpans, inlineText]

end Node

end Markdown
end TwinEditor
