import TwinEditor.Proofs.Markdown.InlineNodes
import TwinEditor.Proofs.Markdown.MarkedText

/-!
# Reading marked text

Marked text comes back from what is written for it, whatever stands around the block that holds it.
-/

namespace TwinEditor
namespace Markdown

open Reader (Setting ReadsAs Shows IsTrimmed IsText Inline Spells)

/-! ## Single nodes -/

/-- An inline node is read from what is written for it, and shows in front of other nodes as itself. -/
def Node.ReadsBack
    (setting : Setting)
    (autolink inLink : Bool)
    (before tail : List Char)
    (node : Node) : Prop :=
  ∃ inlines, ReadsAs setting (!inLink) before node.markup tail inlines ∧
    ∀ others nodes, Shows inLink autolink others nodes → node.textsMeet nodes = false →
      Shows inLink autolink (inlines ++ others) (node :: nodes)

section Nodes

variable {setting : Setting} {autolink inLink : Bool} {before tail : List Char}

theorem Node.readsBack_of_mark
    {node : Node}
    {inline : Inline}
    (reads : ReadsAs setting (!inLink) before node.markup tail [inline])
    (isMark : inline.isMark = true)
    (shown : (if inLink then inline else inline.settle autolink).toNode = node) :
    node.ReadsBack setting autolink inLink before tail :=
  ⟨[inline], reads, fun _ _ shows _ => shows.mark isMark shown⟩

theorem readsAs_delimited
    {links : Bool}
    {delimiter : Delimiter}
    (delimits : setting.delimits delimiter.char = true)
    {content : List Char}
    (canWrap : CanWrap setting.strikethrough delimiter before content tail)
    {inlines : List Inline}
    (reads : ReadsAs setting links (delimiter.marker.reverse ++ before) content
      (delimiter.marker ++ tail) inlines) :
    ReadsAs setting links before (delimiter.marker ++ (content ++ delimiter.marker)) tail
      [Reader.wrapped delimiter.char delimiter.width inlines] := by
  have short : delimiter.width = 1 ∨ delimiter.width = 2 := by
    cases delimiter
    · exact .inr rfl
    · exact .inl rfl
    · exact .inr rfl
  obtain ⟨c, begins, other, -, -⟩ := canWrap.first
  have first : content.head?.any (· != delimiter.char) = true := by
    rw [begins]
    simpa using other
  have opens := canWrap.opens
  have closes := canWrap.closes
  rw [delimiter.marker_eq_replicate] at reads opens closes ⊢
  exact reads.wrapped delimits short first canWrap.ends opens closes

theorem parenthesizedTarget?_writtenTarget
    {url : String}
    (plain : Reader.isPlainDestination url.toList = true)
    (tail : List Char) :
    Reader.parenthesizedTarget? (writtenTarget url ++ tail) = some (url.toList, tail) := by
  rw [writtenTarget, List.cons_append, List.append_assoc]
  exact Reader.parenthesizedTarget?_linkDestination plain tail

/-- The text of an image is read as the text that describes it. -/
theorem exists_readsAs_description
    {alt : List Char}
    (single : '\n' ∉ alt)
    (noReference : Reader.holdsLongReference alt = false)
    (behind : List Char) :
    ∃ inlines, ReadsAs setting false before (Escape.text false alt) (']' :: behind) inlines ∧
      Node.textContents (Inline.toNodes inlines) = String.ofList alt := by
  have separates : Reader.Separates (']' :: behind) :=
    @Reader.separates_of_isSpecial setting _ fun c isFirst => by
      obtain rfl := Option.some.inj isFirst
      rfl
  have ends : Reader.EndsText setting alt (']' :: behind) :=
    ⟨fun c isFirst => by obtain rfl := Option.some.inj isFirst; rfl, separates,
      (by cases ·), (by cases ·)⟩
  obtain ⟨texts, flat, reads⟩ :=
    @Reader.exists_readsAs_of_spells setting false before _ _ _ (Escape.spells_text single) ends
  obtain rfl := flat.trans (Reader.readLongReferences_eq_self noReference)
  refine ⟨_, reads, ?_⟩
  have shown := (IsText.line texts).toNodes_append []
  rw [List.append_nil, Text.unlines_singleton] at shown
  rw [shown, Inline.toNodes, Inline.consNode]
  · split
    · next empty =>
        rw [String.isEmpty_iff] at empty
        rw [empty]
        rfl
    · rw [Node.textContents, Node.textContent, Node.textContents, String.append_empty]
  · intro value rest isText
    cases isText

end Nodes

/-! ## All nodes -/

section Content

variable {options : Options} {setting : Setting}

theorem isSpecial_of_endsText
    (same : setting.strikethrough = options.strikethrough)
    {text tail : List Char}
    (ends : endsText options.strikethrough text tail = true) :
    (∀ c ∈ tail.head?, setting.isSpecial c = true) ∧
      (tail.head? = some '[' → text.getLast? ≠ some '!') := by
  rw [endsText, Bool.and_eq_true, Option.all_eq_true, Bool.or_eq_true, bne_iff_ne, bne_iff_ne] at ends
  obtain ⟨special, noImage⟩ := ends
  refine ⟨fun c isFirst => ?_, fun isBracket => noImage.resolve_left (absurd isBracket)⟩
  rw [← special c isFirst, Setting.isSpecial, same]
  rfl

theorem readsBack_text
    (same : setting.strikethrough = options.strikethrough)
    {inLink : Bool}
    {before tail : List Char}
    {value : String}
    (marked : (Node.text value).isMarked options inLink before tail = true)
    (trimmed : ∀ line ∈ Text.lines (before.reverse ++ ((Node.text value).markup ++ tail)),
      IsTrimmed line) :
    (Node.text value).ReadsBack setting options.autolink inLink before tail := by
  rw [Node.isMarked, Bool.and_eq_true, Bool.and_eq_true, Bool.and_eq_true, bne_iff_ne] at marked
  obtain ⟨⟨⟨filled, ends⟩, noReference⟩, noAddress⟩ := marked
  obtain ⟨special, noImage⟩ := isSpecial_of_endsText same ends
  have written : Text.unlines ((Text.lines value.toList).map (Escape.text false)) =
      (Node.text value).markup := by
    rw [← Escape.lines_text, Text.unlines_lines, Node.markup]
  have spells : ∀ line ∈ Text.lines value.toList, Spells (Escape.text false line) line :=
    fun line isLine => Escape.spells_text (Text.notMem_of_mem_lines isLine)
  obtain ⟨inlines, isText, reads⟩ := @Reader.exists_readsAs_lines setting (!inLink) _ _ before tail
    spells (Text.lines_ne_nil _) special (by rwa [Text.unlines_lines]) (by rwa [written])
  have kept : (Text.lines value.toList).map Reader.readLongReferences = Text.lines value.toList :=
    (List.map_congr_left fun line isLine => Reader.readLongReferences_eq_self
      (by simpa using List.all_eq_true.mp noReference line isLine)).trans (List.map_id _)
  rw [kept] at isText
  rw [written] at reads
  refine ⟨inlines, reads, fun others nodes shows apart => shows.text isText filled ?_ ?_⟩
  · intro outside on line isLine
    simp only [outside, on, Bool.not_true, Bool.or_self, Bool.false_or, List.all_eq_true,
      Option.isNone_iff_eq_none] at noAddress
    exact noAddress line isLine
  · rintro text rest rfl
    cases apart

/-- A description of an image that begins with no circumflex is not written as if it did. -/
theorem head?_description_ne
    {alt : List Char}
    (single : '\n' ∉ alt)
    (noNote : alt.head? ≠ some '^') :
    (Escape.text false alt ++ [']']).head? ≠ some '^' := by
  intro isNote
  have spelled := Escape.spells_text single
  generalize Escape.text false alt = written at isNote spelled
  cases written with
  | nil => cases isNote
  | cons c rest =>
      rcases spelled.first isNote with isBackslash | isFirst
      · cases isBackslash
      · exact noNote isFirst

theorem readsBack_image
    {inLink : Bool}
    {before tail : List Char}
    {url alt : String}
    (marked : (Node.image url alt).isMarked options inLink before tail = true) :
    (Node.image url alt).ReadsBack setting options.autolink inLink before tail := by
  rw [Node.isMarked, Bool.and_eq_true, Bool.and_eq_true, Bool.and_eq_true, Bool.not_eq_true',
    Bool.not_eq_true', List.contains_eq_mem, decide_eq_false_iff_not, bne_iff_ne] at marked
  obtain ⟨⟨⟨plain, single⟩, noReference⟩, noNote⟩ := marked
  obtain ⟨inlines, reads, shows⟩ :=
    exists_readsAs_description single noReference (writtenTarget url ++ tail)
  have isTarget := parenthesizedTarget?_writtenTarget plain tail
  refine Node.readsBack_of_mark (reads.image (head?_description_ne single noNote) isTarget) rfl ?_
  cases inLink
  all_goals
    refine congr (congrArg Node.image String.ofList_toList) (shows.trans String.ofList_toList)

theorem readsBack_lineBreak
    {autolink inLink : Bool}
    {before tail : List Char}
    (trimmed : ∀ line ∈ Text.lines (before.reverse ++ (Node.lineBreak.markup ++ tail)), IsTrimmed line) :
    Node.lineBreak.ReadsBack setting autolink inLink before tail := by
  have behind : ∀ c ∈ tail.head?, Text.isAsciiSpace c = false := by
    have whole : before.reverse ++ (Node.lineBreak.markup ++ tail) =
        (before.reverse ++ ['\\']) ++ '\n' :: tail := by
      simp [Node.markup]
    rw [whole] at trimmed
    exact fun c isFirst =>
      Text.isAsciiSpace_eq_false ((Reader.visible_of_newline trimmed).2 c isFirst)
  refine Node.readsBack_of_mark (Reader.readsAs_hardBreak behind) rfl ?_
  cases inLink
  all_goals rfl

theorem readsBack_html
    {inLink : Bool}
    {before tail : List Char}
    {value : String}
    (marked : (Node.html value).isMarked options inLink before tail = true) :
    (Node.html value).ReadsBack setting options.autolink inLink before tail := by
  rw [Node.isMarked, Bool.and_eq_true, beq_iff_eq, isHtmlBefore, Bool.and_eq_true, Bool.and_eq_true,
    Option.isNone_iff_eq_none, Option.isNone_iff_eq_none, beq_iff_eq] at marked
  obtain ⟨isAngle, ⟨noUri, noMail⟩, isHtml⟩ := marked
  have cut : (Node.html value).markup = '<' :: value.toList.tail := by
    obtain ⟨inside, cut⟩ := List.head?_eq_some_iff.mp isAngle
    rw [Node.markup, cut, List.tail_cons]
  have reads := @Reader.readsAs_html setting (!inLink) before tail _ noUri noMail isHtml
  rw [← cut] at reads
  refine Node.readsBack_of_mark reads rfl ?_
  cases inLink
  all_goals exact congrArg Node.html String.ofList_toList

mutual

/-- An inline node that is marked as it should be reads back. -/
theorem readsBack_of_isMarked
    (same : setting.strikethrough = options.strikethrough) :
    (node : Node) → (inLink : Bool) → (before tail : List Char) →
      node.isMarked options inLink before tail = true →
      (∀ line ∈ Text.lines (before.reverse ++ (node.markup ++ tail)), IsTrimmed line) →
        node.ReadsBack setting options.autolink inLink before tail
  | .text value, inLink, before, tail, marked, trimmed => readsBack_text same marked trimmed
  | .strong children, inLink, before, tail, marked, trimmed => by
      rw [Node.isMarked, Bool.and_eq_true, canWrap_iff, ← same] at marked
      obtain ⟨inlines, reads, shows⟩ := exists_shows_of_areMarked same children inLink _ _ marked.2
        (by simpa [Node.markup, Delimiter.marker] using trimmed)
      refine Node.readsBack_of_mark (readsAs_delimited rfl marked.1 reads) rfl ?_
      cases inLink
      all_goals exact congrArg Node.strong shows.toNodes_eq
  | .emphasis children, inLink, before, tail, marked, trimmed => by
      rw [Node.isMarked, Bool.and_eq_true, canWrap_iff, ← same] at marked
      obtain ⟨inlines, reads, shows⟩ := exists_shows_of_areMarked same children inLink _ _ marked.2
        (by simpa [Node.markup, Delimiter.marker] using trimmed)
      refine Node.readsBack_of_mark (readsAs_delimited rfl marked.1 reads) rfl ?_
      cases inLink
      all_goals exact congrArg Node.emphasis shows.toNodes_eq
  | .delete children, inLink, before, tail, marked, trimmed => by
      rw [Node.isMarked, Bool.and_eq_true, Bool.and_eq_true, canWrap_iff, ← same] at marked
      obtain ⟨inlines, reads, shows⟩ := exists_shows_of_areMarked same children inLink _ _ marked.2
        (by simpa [Node.markup, Delimiter.marker] using trimmed)
      have delimits : setting.delimits Delimiter.delete.char = true := by
        rw [Setting.delimits, marked.1.1]
        rfl
      refine Node.readsBack_of_mark (readsAs_delimited delimits marked.1.2 reads) rfl ?_
      cases inLink
      all_goals exact congrArg Node.delete shows.toNodes_eq
  | .inlineCode value, inLink, before, tail, marked, trimmed => by
      rw [Node.isMarked, Bool.and_eq_true, bne_iff_ne] at marked
      refine Node.readsBack_of_mark (readsAs_codeSpan marked.1 (!inLink) marked.2) rfl ?_
      cases inLink
      all_goals exact congrArg Node.inlineCode String.ofList_toList
  | .link url children, inLink, before, tail, marked, trimmed => by
      rw [Node.isMarked, Bool.and_eq_true, Bool.and_eq_true] at marked
      obtain ⟨⟨outside, plain⟩, content⟩ := marked
      obtain rfl : inLink = false := by simpa using outside
      obtain ⟨inlines, reads, shows⟩ := exists_shows_of_areMarked same children true _ _ content
        (by simpa [Node.markup] using trimmed)
      have isTarget := parenthesizedTarget?_writtenTarget plain tail
      refine Node.readsBack_of_mark (reads.link isTarget) rfl ?_
      exact congr (congrArg Node.link String.ofList_toList) shows.toNodes_eq
  | .image _ _, _, _, _, marked, _ => readsBack_image marked
  | .lineBreak, _, _, _, _, trimmed => readsBack_lineBreak trimmed
  | .html _, _, _, _, marked, _ => readsBack_html marked

/-- Inline content that is marked as it should be is read from what is written for it. -/
theorem exists_shows_of_areMarked
    (same : setting.strikethrough = options.strikethrough) :
    (nodes : List Node) → (inLink : Bool) → (before tail : List Char) →
      Node.areMarked options inLink before tail nodes = true →
      (∀ line ∈ Text.lines (before.reverse ++ (Node.markups nodes ++ tail)), IsTrimmed line) →
        ∃ inlines, ReadsAs setting (!inLink) before (Node.markups nodes) tail inlines ∧
          Shows inLink options.autolink inlines nodes
  | [], inLink, before, tail, _, _ => by
      rw [Node.markups]
      exact ⟨[], Reader.readsAs_nil, Reader.shows_nil inLink options.autolink⟩
  | node :: rest, inLink, before, tail, marked, trimmed => by
      rw [Node.areMarked, Bool.and_eq_true, Bool.and_eq_true] at marked
      obtain ⟨⟨first, apart⟩, others⟩ := marked
      rw [Node.markups, List.append_assoc] at trimmed
      obtain ⟨inlines, reads, shows⟩ := readsBack_of_isMarked same node inLink before _ first trimmed
      obtain ⟨more, readsRest, showsRest⟩ := exists_shows_of_areMarked same rest inLink _ tail others
        (by simpa using trimmed)
      rw [Node.markups]
      exact ⟨inlines ++ more, reads.append readsRest, shows more rest showsRest (by simpa using apart)⟩

end

end Content

/-! ## Inline texts -/

/-- Marked text is read as itself, where it begins with no task marker. -/
theorem inlineNodes_of_areMarked
    {context : Reader.Block.Context}
    (same : context.setting.strikethrough = context.options.strikethrough)
    {children : List Node}
    (marked : Node.areMarked context.options false [] [] children = true)
    (trimmed : ∀ line ∈ Text.lines (Node.markups children), IsTrimmed line)
    {mayBeTask : Bool}
    (noTask : (mayBeTask && context.options.tasklist) = true → ∀ value rest,
      children = .text value :: rest →
        ∀ line ∈ (Text.lines value.toList).head?, Inline.dropTaskMarker line = line)
    {text : List Char}
    (isWritten : Text.trimEnd Text.isAsciiSpace text = Node.markups children)
    (expanded : Nat) :
    Reader.Block.inlineNodes context mayBeTask expanded text = (children, expanded) := by
  obtain ⟨inlines, reads, shows⟩ :=
    exists_shows_of_areMarked same children false [] [] marked (by simpa using trimmed)
  exact Reader.inlineNodes_of_shows reads shows noTask isWritten expanded

/-! ## Content on one line -/

namespace Node

/-- Whether some nodes read back from a line of their own. -/
def fitLine
    (options : Options)
    (children : List Node) :
    Bool :=
  let written := markups children
  areMarked options false [] [] children && !written.contains '\n' && isTrimmedLine written &&
    written.all isKept

/-- What is true of nodes that read back from a line of their own. -/
structure FitLine
    (options : Options)
    (children : List Node) : Prop where
  areMarked : areMarked options false [] [] children = true
  single : '\n' ∉ markups children
  isTrimmed : IsTrimmed (markups children)
  kept : ∀ c ∈ markups children, isKept c = true

variable {options : Options} {children : List Node}

theorem fitLine_of_fitLine_eq_true
    (fit : fitLine options children = true) :
    FitLine options children := by
  simp only [fitLine, Bool.and_eq_true, Bool.not_eq_true', List.contains_eq_mem,
    decide_eq_false_iff_not, List.all_eq_true] at fit
  obtain ⟨⟨⟨areMarked, single⟩, trimmed⟩, kept⟩ := fit
  exact ⟨areMarked, single, isTrimmed_of_isTrimmedLine trimmed, kept⟩

/-- Such nodes are read from their line. -/
theorem FitLine.inlineNodes
    (fit : FitLine options children)
    {context : Reader.Block.Context}
    (same : context.IsFor options)
    (expanded : Nat) :
    Reader.Block.inlineNodes context false expanded (markups children) = (children, expanded) := by
  obtain rfl := same.options_eq
  refine @inlineNodes_of_areMarked context same.strikethrough_eq children fit.areMarked
    (by simpa [Text.lines_of_notMem fit.single] using fit.isTrimmed) false (by simp) _ ?_ expanded
  exact Text.trimEnd_eq_self fun c isLast => Text.isAsciiSpace_eq_false (fit.isTrimmed.last c isLast)

end Node

end Markdown
end TwinEditor
