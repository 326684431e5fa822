import TwinEditor.Proofs.Markdown.CodeSpans
import TwinEditor.Proofs.Markdown.Destinations
import TwinEditor.Proofs.Markdown.TableCells

/-!
# Marked text

Inline content that is written as it stands: nothing in it has to be kept apart from its neighbours by
a character reference, and every run stands where it can only open or only close.
-/

namespace TwinEditor
namespace Markdown

/-! ## What is written -/

namespace Delimiter

/-- The character that the runs consist of. -/
def char : Delimiter → Char
  | .strong => '*'
  | .emphasis => '_'
  | .delete => '~'

/-- The length of the runs. -/
def width : Delimiter → Nat
  | .strong | .delete => 2
  | .emphasis => 1

theorem marker_eq_replicate (delimiter : Delimiter) :
    delimiter.marker = List.replicate delimiter.width delimiter.char := by
  cases delimiter <;> rfl

end Delimiter

/-- What is written behind the right bracket of a link or an image. -/
def writtenTarget (url : String) : List Char :=
  '(' :: (linkDestination url.toList ++ [')'])

namespace Node

mutual

/-- What an inline node is written as where nothing has to be kept apart. -/
def markup : Node → List Char
  | .text value => Escape.text false value.toList
  | .strong children => Delimiter.strong.marker ++ (markups children ++ Delimiter.strong.marker)
  | .emphasis children => Delimiter.emphasis.marker ++ (markups children ++ Delimiter.emphasis.marker)
  | .delete children => Delimiter.delete.marker ++ (markups children ++ Delimiter.delete.marker)
  | .inlineCode value => codeSpan value.toList
  | .link url children => '[' :: (markups children ++ ']' :: writtenTarget url)
  | .image url alt => '!' :: '[' :: (Escape.text false alt.toList ++ ']' :: writtenTarget url)
  | .lineBreak => ['\\', '\n']
  | .html value => value.toList
  | _ => []

/-- What a sequence of inline nodes is written as. -/
def markups : List Node → List Char
  | [] => []
  | node :: rest => node.markup ++ markups rest

end

/-- Whether a text meets another text, with which it would be read as one. -/
def textsMeet : Node → List Node → Bool
  | .text _, .text _ :: _ => true
  | _, _ => false

end Node

/-! ## What reads back -/

/-- Whether some content may stand between the runs of a delimiter: one run can only open and the other
can only close, and neither has to be kept off the character outside. -/
def canWrap
    (strikethrough : Bool)
    (delimiter : Delimiter)
    (before content tail : List Char) :
    Bool :=
  let marker := delimiter.marker
  content.head?.any (fun first => first != delimiter.char && !Text.isBlank first &&
    (!delimiter.guardsOutside first || before.head?.all (!Escape.isWord ·))) &&
  content.getLast?.any (fun last => !Text.isBlank last &&
    (!delimiter.guardsOutside last || tail.head?.all (!Escape.isWord ·))) &&
  tail.head? != some delimiter.char &&
  Reader.runBetween strikethrough delimiter.char delimiter.width before (content ++ (marker ++ tail)) ==
    Reader.openingRun delimiter.char delimiter.width &&
  Reader.runBetween strikethrough delimiter.char delimiter.width
    (content.reverse ++ (marker.reverse ++ before)) tail ==
      Reader.closingRun delimiter.char delimiter.width

/-- Whether reading a text stops where it ends: something else begins there, and no exclamation mark
comes to stand before a bracket. -/
def endsText
    (strikethrough : Bool)
    (text tail : List Char) :
    Bool :=
  tail.head?.all (Reader.Setting.isSpecial ⟨strikethrough, [], 0⟩ ·) &&
    (tail.head? != some '[' || text.getLast? != some '!')

/-- Whether the text behind a left angle bracket begins with raw HTML that has another text behind it. -/
def isHtmlBefore (tail inside : List Char) : Bool :=
  (Reader.bracketedUri? (inside ++ tail)).isNone && (Reader.bracketedMail? (inside ++ tail)).isNone &&
    Reader.inlineHtml? (inside ++ tail) == some tail

namespace Node

mutual

/-- Whether an inline node between what is written before it, in reverse, and behind it reads back. -/
def isMarked
    (options : Options)
    (inLink : Bool)
    (before tail : List Char) :
    Node → Bool
  | .text value =>
      value != "" && endsText options.strikethrough value.toList tail &&
        (Text.lines value.toList).all (!Reader.holdsLongReference ·) &&
        (inLink || !options.autolink ||
          (Text.lines value.toList).all fun line => (Reader.Autolink.find? [] 0 line).isNone)
  | .strong children =>
      canWrap options.strikethrough .strong before (markups children) tail &&
        areMarked options inLink ('*' :: '*' :: before) ('*' :: '*' :: tail) children
  | .emphasis children =>
      canWrap options.strikethrough .emphasis before (markups children) tail &&
        areMarked options inLink ('_' :: before) ('_' :: tail) children
  | .delete children =>
      options.strikethrough && canWrap options.strikethrough .delete before (markups children) tail &&
        areMarked options inLink ('~' :: '~' :: before) ('~' :: '~' :: tail) children
  | .inlineCode value => isPlainCode value.toList && tail.head? != some '\x60'
  | .link url children =>
      !inLink && Reader.isPlainDestination url.toList &&
        areMarked options true ('[' :: before) (']' :: (writtenTarget url ++ tail)) children
  | .image url alt =>
      Reader.isPlainDestination url.toList && !alt.toList.contains '\n' &&
        !Reader.holdsLongReference alt.toList && alt.toList.head? != some '^'
  | .lineBreak => true
  | .html value =>
      value.toList.head? == some '<' && isHtmlBefore tail value.toList.tail
  | _ => false

/-- Whether a sequence of inline nodes between what is written before and behind it reads back. -/
def areMarked
    (options : Options)
    (inLink : Bool)
    (before tail : List Char) :
    List Node → Bool
  | [] => true
  | node :: rest =>
      node.isMarked options inLink before (markups rest ++ tail) &&
        !textsMeet node rest &&
        areMarked options inLink (node.markup.reverse ++ before) tail rest

end

mutual

/-- Whether no bar is written outside of texts, where it could not be escaped. -/
def keepsBars : Node → Bool
  | .strong children | .emphasis children | .delete children => keepBars children
  | .inlineCode value => !(codeSpan value.toList).contains '|'
  | .link url children => !(writtenTarget url).contains '|' && keepBars children
  | .image url _ => !(writtenTarget url).contains '|'
  | .html value => !value.toList.contains '|'
  | _ => true

/-- Whether every one of some nodes keeps bars in texts. -/
def keepBars : List Node → Bool
  | [] => true
  | node :: rest => node.keepsBars && keepBars rest

end

end Node

/-! ## Writing -/

namespace Escape

theorem encodeFirst_eq_self
    {text : List Char}
    (first : ∀ c ∈ text.head?, isWord c = false) :
    encodeFirst text = text := by
  cases text with
  | nil => rfl
  | cons c rest =>
      rw [encodeFirst, first c rfl]
      rfl

theorem encodeLast_eq_self
    {text : List Char}
    (last : ∀ c ∈ text.getLast?, isWord c = false) :
    encodeLast text = text := by
  rw [encodeLast]
  split
  · next c isLast =>
      rw [last c isLast]
      rfl
  · rfl

theorem text_eq_nil_iff
    {inTable : Bool}
    {value : List Char} :
    text inTable value = [] ↔ value = [] := by
  cases value with
  | nil => exact ⟨fun _ => rfl, fun _ => rfl⟩
  | cons c rest =>
      rw [text]
      split
      all_goals exact iff_of_false (List.cons_ne_nil _ _) (List.cons_ne_nil _ _)

end Escape

/-- Content with visible characters at both ends stays between its runs as it is. -/
theorem delimited_eq
    {content : List Char}
    {first last : Char}
    (begins : content.head? = some first)
    (ends : content.getLast? = some last)
    (firstVisible : Text.isBlank first = false)
    (lastVisible : Text.isBlank last = false)
    (delimiter : Delimiter) :
    delimited delimiter content =
      ⟨delimiter.marker ++ (content ++ delimiter.marker), delimiter.guardsOutside first,
        delimiter.guardsOutside last⟩ := by
  have start : content.dropWhile Text.isBlank = content :=
    Text.trimStart_eq_self fun c isFirst => by
      obtain rfl := Option.some.inj (begins.symm.trans isFirst)
      exact firstVisible
  have none : content.takeWhile Text.isBlank = [] := by
    cases content with
    | nil => rfl
    | cons c rest =>
        obtain rfl := Option.some.inj begins
        exact List.takeWhile_cons_of_neg (by simp [firstVisible])
  have whole : Text.trimEnd Text.isBlank content = content :=
    Text.trimEnd_eq_self fun c isLast => by
      obtain rfl := Option.some.inj (ends.symm.trans isLast)
      exact lastVisible
  have kept : retreat content [] = (content, []) := by
    rw [retreat, if_neg]
    rintro ⟨newline, -⟩
    cases newline
  rw [delimited, splitOuterWhitespace, start, whole, none, List.drop_length, kept]
  dsimp only
  rw [begins, ends]
  simp

/-- What may stand between two runs. -/
structure CanWrap
    (strikethrough : Bool)
    (delimiter : Delimiter)
    (before content tail : List Char) : Prop where
  first : ∃ c, content.head? = some c ∧ c ≠ delimiter.char ∧ Text.isBlank c = false ∧
    (delimiter.guardsOutside c = true → ∀ d ∈ before.head?, Escape.isWord d = false)
  last : ∃ c, content.getLast? = some c ∧ Text.isBlank c = false ∧
    (delimiter.guardsOutside c = true → ∀ d ∈ tail.head?, Escape.isWord d = false)
  ends : tail.head? ≠ some delimiter.char
  opens : Reader.runBetween strikethrough delimiter.char delimiter.width before
    (content ++ (delimiter.marker ++ tail)) = Reader.openingRun delimiter.char delimiter.width
  closes : Reader.runBetween strikethrough delimiter.char delimiter.width
    (content.reverse ++ (delimiter.marker.reverse ++ before)) tail =
      Reader.closingRun delimiter.char delimiter.width

theorem canWrap_iff
    {strikethrough : Bool}
    {delimiter : Delimiter}
    {before content tail : List Char} :
    canWrap strikethrough delimiter before content tail = true ↔
      CanWrap strikethrough delimiter before content tail := by
  simp only [canWrap, Bool.and_eq_true, Option.any_eq_true, bne_iff_ne, Bool.not_eq_true',
    Bool.or_eq_true, Option.all_eq_true, beq_iff_eq]
  constructor
  · rintro ⟨⟨⟨⟨⟨first, begins, ⟨other, visible⟩, guarded⟩, last, isLast, lastVisible, lastGuarded⟩, ends⟩,
      opens⟩, closes⟩
    exact ⟨⟨first, begins, other, visible, fun on => guarded.resolve_left (by simp [on])⟩,
      ⟨last, isLast, lastVisible, fun on => lastGuarded.resolve_left (by simp [on])⟩, ends, opens, closes⟩
  · rintro ⟨⟨first, begins, other, visible, guarded⟩, ⟨last, isLast, lastVisible, lastGuarded⟩, ends,
      opens, closes⟩
    refine ⟨⟨⟨⟨⟨first, begins, ⟨other, visible⟩, ?_⟩, last, isLast, lastVisible, ?_⟩, ends⟩, opens⟩, closes⟩
    · cases on : delimiter.guardsOutside first with
      | false => exact .inl rfl
      | true => exact .inr (guarded on)
    · cases on : delimiter.guardsOutside last with
      | false => exact .inl rfl
      | true => exact .inr (lastGuarded on)

namespace Node

variable {options : Options}

mutual

/-- No neighbouring runs of one kind are put together. -/
theorem consMerged_of_isMarked :
    (node : Node) → (inLink : Bool) → (before tail : List Char) → (rest : List Node) →
      node.isMarked options inLink before (markups rest ++ tail) = true →
        consMerged node rest = node :: rest
  | .strong children, inLink, before, tail, rest, marked => by
      rw [isMarked, Bool.and_eq_true, canWrap_iff] at marked
      have inside := appendMerged_of_areMarked children _ _ _ marked.2
      rw [consMerged, inside]
      rintro next others rfl
      exact marked.1.ends rfl
  | .emphasis children, inLink, before, tail, rest, marked => by
      rw [isMarked, Bool.and_eq_true, canWrap_iff] at marked
      have inside := appendMerged_of_areMarked children _ _ _ marked.2
      rw [consMerged, inside]
      rintro next others rfl
      exact marked.1.ends rfl
  | .delete children, inLink, before, tail, rest, marked => by
      rw [isMarked, Bool.and_eq_true, Bool.and_eq_true, canWrap_iff] at marked
      have inside := appendMerged_of_areMarked children _ _ _ marked.2
      rw [consMerged, inside]
      rintro next others rfl
      exact marked.1.2.ends rfl
  | .link url children, inLink, before, tail, rest, marked => by
      rw [isMarked, Bool.and_eq_true] at marked
      rw [consMerged, appendMerged_of_areMarked children _ _ _ marked.2]
  | .text _, _, _, _, _, _ | .inlineCode _, _, _, _, _, _ | .image _ _, _, _, _, _, _
  | .lineBreak, _, _, _, _, _ | .html _, _, _, _, _, _ => by
      rw [consMerged]
      all_goals exact nofun

/-- The runs of content that reads back are put together already. -/
theorem appendMerged_of_areMarked :
    (nodes : List Node) → (inLink : Bool) → (before tail : List Char) →
      areMarked options inLink before tail nodes = true → appendMerged nodes [] = nodes
  | [], _, _, _, _ => by rw [appendMerged]
  | node :: rest, inLink, before, tail, marked => by
      rw [areMarked, Bool.and_eq_true, Bool.and_eq_true] at marked
      rw [appendMerged, appendMerged_of_areMarked rest _ _ _ marked.2,
        consMerged_of_isMarked node _ _ _ _ marked.1.1]

end

/-- A stretch that is written for a text where nothing has to be kept off it. -/
structure StandsApart
    (inTable : Bool)
    (span : Span)
    (written before tail : List Char) : Prop where
  text : span.text = Escape.within inTable written
  filled : written ≠ []
  guardsBefore : span.guardsBefore = true → ∀ c ∈ before.head?, Escape.isWord c = false
  guardsAfter : span.guardsAfter = true → ∀ c ∈ tail.head?, Escape.isWord c = false

section Spans

variable {inTable : Bool} {text before tail : List Char}

theorem standsApart_plain
    {written : List Char}
    (filled : text ≠ [])
    (isWritten : written = Escape.within inTable text)
    (before tail : List Char) :
    StandsApart inTable (.plain written) text before tail :=
  ⟨isWritten, filled, (absurd · Bool.false_ne_true), (absurd · Bool.false_ne_true)⟩

theorem standsApart_plain_of_notMem
    (filled : text ≠ [])
    (noBar : inTable = true → '|' ∉ text)
    (before tail : List Char) :
    StandsApart inTable (.plain text) text before tail :=
  standsApart_plain filled (Escape.within_eq_self noBar).symm before tail

/-- A bar at the start of some content and the backslash in front of it are alike for a run outside. -/
theorem exists_head?_within
    {content : List Char}
    {first : Char}
    (begins : content.head? = some first)
    (visible : Text.isBlank first = false)
    (inTable : Bool)
    (delimiter : Delimiter) :
    ∃ c, (Escape.within inTable content).head? = some c ∧ Text.isBlank c = false ∧
      delimiter.guardsOutside c = delimiter.guardsOutside first := by
  cases inTable with
  | false => exact ⟨first, begins, visible, rfl⟩
  | true =>
      obtain ⟨rest, rfl⟩ := List.head?_eq_some_iff.mp begins
      rw [Escape.within, if_pos rfl, Escape.bars_cons]
      split
      · next isBar =>
          subst isBar
          refine ⟨'\\', rfl, rfl, ?_⟩
          cases delimiter <;> rfl
      · exact ⟨first, rfl, visible, rfl⟩

/-- The text of a link or an image, between its brackets. -/
theorem within_bracketed
    {start target : List Char}
    (startPlain : '|' ∉ start)
    (targetPlain : inTable = true → '|' ∉ target)
    (text : List Char) :
    Escape.within inTable (start ++ (text ++ ']' :: target)) =
      start ++ (Escape.within inTable text ++ ']' :: target) := by
  have endPlain : inTable = true → '|' ∉ ']' :: target := fun on => by
    simpa using targetPlain on
  rw [Escape.within_append, Escape.within_append, Escape.within_eq_self fun _ => startPlain,
    Escape.within_eq_self endPlain]

theorem standsApart_delimited
    {strikethrough : Bool}
    {delimiter : Delimiter}
    {content : List Char}
    (canWrap : CanWrap strikethrough delimiter before content tail)
    (inTable : Bool) :
    StandsApart inTable (delimited delimiter (Escape.within inTable content))
      (delimiter.marker ++ (content ++ delimiter.marker)) before tail := by
  obtain ⟨first, begins, -, firstVisible, guarded⟩ := canWrap.first
  obtain ⟨last, ends, lastVisible, lastGuarded⟩ := canWrap.last
  obtain ⟨c, begins, visible, same⟩ := exists_head?_within begins firstVisible inTable delimiter
  rw [← Escape.getLast?_within inTable] at ends
  rw [delimited_eq begins ends visible lastVisible, same]
  refine ⟨?_, ?_, guarded, lastGuarded⟩
  · have noBar : '|' ∉ delimiter.marker := by
      cases delimiter <;> decide
    rw [Escape.within_append, Escape.within_append, Escape.within_eq_self fun _ => noBar]
  · cases delimiter <;> exact List.cons_ne_nil _ _

end Spans

mutual

theorem standsApart_of_isMarked
    {inTable : Bool} :
    (node : Node) → (inLink : Bool) → (before tail : List Char) →
      node.isMarked options inLink before tail = true → (inTable = true → node.keepsBars = true) →
        StandsApart inTable (node.span inTable) node.markup before tail
  | .text value, _, before, tail, marked, _ => by
      rw [isMarked, Bool.and_eq_true, Bool.and_eq_true, Bool.and_eq_true, bne_iff_ne] at marked
      refine standsApart_plain (fun empty => marked.1.1.1 ?_) (Escape.text_eq_within _ _) before tail
      rw [Escape.text_eq_nil_iff, String.toList_eq_nil_iff] at empty
      exact empty
  | .strong children, inLink, before, tail, marked, bars => by
      rw [isMarked, Bool.and_eq_true, canWrap_iff] at marked
      have inside := joinOnto_of_areMarked children [] _ _ _ false marked.2 bars
        (absurd · Bool.false_ne_true)
      rw [Escape.within_nil] at inside
      rw [span, Span.join, inside]
      exact standsApart_delimited marked.1 inTable
  | .emphasis children, inLink, before, tail, marked, bars => by
      rw [isMarked, Bool.and_eq_true, canWrap_iff] at marked
      have inside := joinOnto_of_areMarked children [] _ _ _ false marked.2 bars
        (absurd · Bool.false_ne_true)
      rw [Escape.within_nil] at inside
      rw [span, Span.join, inside]
      exact standsApart_delimited marked.1 inTable
  | .delete children, inLink, before, tail, marked, bars => by
      rw [isMarked, Bool.and_eq_true, Bool.and_eq_true, canWrap_iff] at marked
      have inside := joinOnto_of_areMarked children [] _ _ _ false marked.2 bars
        (absurd · Bool.false_ne_true)
      rw [Escape.within_nil] at inside
      rw [span, Span.join, inside]
      exact standsApart_delimited marked.1.2 inTable
  | .inlineCode value, _, before, tail, marked, bars => by
      rw [isMarked, Bool.and_eq_true, isPlainCode] at marked
      have some : value.toList ≠ [] := by
        rintro empty
        rw [empty] at marked
        cases marked.1
      refine standsApart_plain_of_notMem ?_ (fun on => by simpa [keepsBars] using bars on) before tail
      rw [codeSpan_eq some]
      exact List.cons_ne_nil _ _
  | .link url children, inLink, before, tail, marked, bars => by
      rw [isMarked, Bool.and_eq_true] at marked
      simp only [keepsBars, Bool.and_eq_true, Bool.not_eq_true', List.contains_eq_mem,
        decide_eq_false_iff_not] at bars
      have inside := joinOnto_of_areMarked children [] _ _ _ false marked.2 (fun on => (bars on).2)
        (absurd · Bool.false_ne_true)
      have whole := @within_bracketed inTable ['['] (writtenTarget url) (by decide)
        (fun on => (bars on).1) (markups children)
      rw [Escape.within_nil] at inside
      rw [span, Span.join, inside]
      exact standsApart_plain (List.cons_ne_nil _ _) whole.symm before tail
  | .image url alt, _, before, tail, _, bars => by
      simp only [keepsBars, Bool.not_eq_true', List.contains_eq_mem, decide_eq_false_iff_not] at bars
      have whole := @within_bracketed inTable ['!', '['] (writtenTarget url) (by decide) bars
        (Escape.text false alt.toList)
      rw [span, Escape.text_eq_within]
      exact standsApart_plain (List.cons_ne_nil _ _) whole.symm before tail
  | .lineBreak, _, before, tail, _, _ =>
      standsApart_plain_of_notMem (List.cons_ne_nil _ _) (fun _ => by decide) before tail
  | .html value, _, before, tail, marked, bars => by
      rw [isMarked, Bool.and_eq_true, beq_iff_eq] at marked
      refine standsApart_plain_of_notMem (fun empty => ?_)
        (fun on => by simpa [keepsBars] using bars on) before tail
      rw [empty] at marked
      cases marked.1

/-- Content that reads back is written node by node. -/
theorem joinOnto_of_areMarked
    {inTable : Bool} :
    (nodes : List Node) → (written : List Char) → (inLink : Bool) → (base tail : List Char) →
      (guarded : Bool) → areMarked options inLink (written.reverse ++ base) tail nodes = true →
        (inTable = true → keepBars nodes = true) →
        (guarded = true → ∀ c ∈ (markups nodes ++ tail).head?, Escape.isWord c = false) →
          Span.joinOnto (Escape.within inTable written) guarded (spans inTable nodes) =
            Escape.within inTable (written ++ markups nodes)
  | [], written, _, _, _, _, _, _, _ => by
      rw [spans, Span.joinOnto, markups, List.append_nil]
  | node :: rest, written, inLink, base, tail, guarded, marked, bars, guards => by
      rw [areMarked, Bool.and_eq_true, Bool.and_eq_true] at marked
      obtain ⟨⟨first, -⟩, others⟩ := marked
      simp only [keepBars, Bool.and_eq_true] at bars
      have apart := standsApart_of_isMarked node _ _ _ first fun on => (bars on).1
      -- Neither side has a word character where the other must be kept off it, so nothing is encoded.
      have before : (if (node.span inTable).guardsBefore then
          Escape.encodeLast (Escape.within inTable written) else Escape.within inTable written) =
            Escape.within inTable written := by
        refine ite_eq_right_iff.mpr fun on => Escape.encodeLast_eq_self fun c isLast =>
          apart.guardsBefore on c ?_
        rw [Escape.getLast?_within] at isLast
        rw [List.head?_append, List.head?_reverse, isLast]
        rfl
      have text : (if guarded then Escape.encodeFirst (node.span inTable).text
          else (node.span inTable).text) = Escape.within inTable node.markup := by
        rw [apart.text]
        refine ite_eq_right_iff.mpr fun on => Escape.encodeFirst_eq_self fun c isFirst => ?_
        rcases Escape.head?_within isFirst with isFirst | ⟨-, rfl⟩
        · refine guards on c ?_
          rw [markups, List.append_assoc, List.head?_append, isFirst]
          rfl
        · rfl
      have filled : (node.span inTable).text.isEmpty = false := by
        rw [apart.text, List.isEmpty_eq_false_iff]
        exact fun empty => apart.filled (Escape.within_eq_nil_iff.mp empty)
      have written' : node.markup.reverse ++ (written.reverse ++ base) =
          (written ++ node.markup).reverse ++ base := by
        rw [List.reverse_append, List.append_assoc]
      rw [written'] at others
      rw [spans, Span.joinOnto, before, text, filled, Bool.and_false, Bool.or_false,
        ← Escape.within_append,
        joinOnto_of_areMarked rest _ _ _ _ _ others (fun on => (bars on).2) apart.guardsAfter, markups,
        List.append_assoc]

end

/-- Content that reads back is written as it stands. In a table the bars of its texts are escaped. -/
theorem inlineText_of_areMarked
    {nodes : List Node}
    {inLink inTable : Bool}
    {tail : List Char}
    (marked : areMarked options inLink [] tail nodes = true)
    (bars : inTable = true → keepBars nodes = true) :
    inlineText inTable nodes = Escape.within inTable (markups nodes) := by
  have joined := joinOnto_of_areMarked nodes [] inLink [] tail false marked bars
    (absurd · Bool.false_ne_true)
  rw [Escape.within_nil, List.nil_append] at joined
  rw [inlineText, mergeRuns, appendMerged_of_areMarked nodes inLink [] tail marked, Span.join, joined]

end Node

end Markdown
end TwinEditor
