import TwinEditor.Proofs.Markdown.HtmlBlocks
import TwinEditor.Proofs.Markdown.PlainTree
import TwinEditor.Proofs.Markdown.Tables

/-!
# Marked documents

A document is marked if its headings, paragraphs and tables hold marked text, or plain text, at any depth
of quotes and lists, with code, raw HTML and thematic breaks among them. It comes back from its text.
-/

namespace TwinEditor
namespace Markdown

open Reader (Block IsTrimmed IsQuiet HoldsMoreThanRule)

variable {options : Options}

/-! ## Lines that begin no block -/

/-- Whether a line is text wherever it stands: it begins no block and underlines none. -/
def isQuietLine : List Char → Bool
  | [] => false
  | c :: rest =>
      !Text.isSpaceOrTab c && c != '>' && (Reader.heading? (c :: rest)).isNone &&
        (Reader.openingFence? (c :: rest)).isNone && (Reader.htmlKind? false (c :: rest)).isNone &&
        !Reader.isRule (c :: rest) && (Reader.listMarker? false (c :: rest)).isNone &&
        (Reader.underlineDepth? (c :: rest)).isNone

/-- Whether a line holds a character that no thematic break holds. -/
def holdsMoreThanRule (line : List Char) : Bool :=
  line.any fun c => c != '*' && c != '-' && c != '_' && !Text.isSpaceOrTab c

theorem isQuiet_of_isQuietLine
    {line : List Char}
    (quiet : isQuietLine line = true) :
    IsQuiet line := by
  cases line with
  | nil => cases quiet
  | cons c rest =>
      simp only [isQuietLine, Bool.and_eq_true, Bool.not_eq_true', bne_iff_ne,
        Option.isNone_iff_eq_none] at quiet
      obtain ⟨⟨⟨⟨⟨⟨⟨visible, noQuote⟩, noHeading⟩, noFence⟩, noHtml⟩, noRule⟩, noItem⟩, noUnderline⟩ := quiet
      refine ⟨⟨c, rest, rfl, visible⟩, fun cursor shows inParagraph continues => ?_, noUnderline⟩
      rw [Reader.start?_of_visible visible noQuote shows, noHeading, noFence,
        Reader.htmlKind?_of_outside noHtml, noRule, Reader.listMarker?_of_outside noItem]
      rfl

/-! ## Marked blocks -/

/-- Whether a line of marked text is text wherever it stands, and written as it is. -/
def isMarkedLine (line : List Char) : Bool :=
  isTrimmedLine line && line.all isKept && isQuietLine line && Escape.lineStart line == line

/-- Whether some nodes begin with a task marker. -/
def beginsTask : List Node → Bool
  | .text value :: _ =>
      (Text.lines value.toList).head?.any fun line => Reader.Inline.dropTaskMarker line != line
  | _ => false

/-- Whether some nodes read as a paragraph with them. -/
def isMarkedParagraph
    (options : Options)
    (children : List Node) :
    Bool :=
  let written := Node.markups children
  let lines := Text.lines written
  Node.areMarked options false [] [] children && lines.all isMarkedLine &&
    lines.head?.any holdsMoreThanRule && (Reader.definition? (written ++ ['\n'])).isNone &&
    (!options.tables || lines.tail.all (!Reader.isDelimiterRow ·)) &&
    (!options.tasklist || !beginsTask children)

/-- Whether some nodes read as a heading with them. -/
def isMarkedHeading
    (options : Options)
    (children : List Node) :
    Bool :=
  Node.fitLine options children && (Node.markups children).getLast? != some '#'

/-- Whether a block that is no quote and no list reads back. -/
def Node.isMarkedLeaf (options : Options) : Node → Bool
  | .heading depth children =>
      (.heading depth children : Node).isPlain options ||
        (1 ≤ depth.toNat && depth.toNat ≤ 6 && isMarkedHeading options children)
  | .paragraph children =>
      (.paragraph children : Node).isPlain options || isMarkedParagraph options children
  | .html value => isPlainHtml value.toList
  | .table align rows => isMarkedTable options align rows
  | node => node.isPlain options

/-- Whether a document is made of marked blocks. A byte order mark at its start would be dropped, and the
markers of lists that are nested too deep would be text. -/
def Tree.isMarked (options : Options) (tree : Tree) : Bool :=
  Node.areMadeOf (Node.isMarkedLeaf options) tree.children &&
    tree.nesting ≤ Reader.itemContainerLimit && tree.toMarkdown.toList.head?.all (·.toNat != 0xFEFF)

/-! ## Marked blocks are recovered -/

section Leaves

variable {children : List Node}

theorem isTrimmed_of_isMarkedLine
    {line : List Char}
    (marked : isMarkedLine line = true) :
    IsTrimmed line := by
  rw [isMarkedLine, Bool.and_eq_true, Bool.and_eq_true, Bool.and_eq_true] at marked
  exact isTrimmed_of_isTrimmedLine marked.1.1.1

theorem recovers_marked_heading
    {depth : UInt8}
    (positive : 1 ≤ depth.toNat)
    (bounded : depth.toNat ≤ 6)
    (marked : isMarkedHeading options children = true) :
    Recovers options (.heading depth children) (.heading depth children) none
      (Text.lines (headingText depth children)) := by
  rw [isMarkedHeading, Bool.and_eq_true, bne_iff_ne] at marked
  have fit := Node.fitLine_of_fitLine_eq_true marked.1
  have trimmed := fit.isTrimmed
  have signs : max 1 (min depth.toNat 6) = depth.toNat := by omega
  have filled : (Node.markups children).isEmpty = false := by
    simpa using trimmed.some
  have written : headingText depth children =
      List.replicate depth.toNat '#' ++ ' ' :: Node.markups children := by
    rw [headingText, Node.inlineText_of_areMarked fit.areMarked (absurd · Bool.false_ne_true),
      Escape.within_false, Text.onOneLine_eq_self fit.single, Text.trim_eq_self trimmed.first trimmed.last, signs,
      if_neg marked.2, filled, if_neg Bool.false_ne_true]
  have isHeading := Reader.heading?_replicate_append positive bounded
    (fun c isFirst => Text.isSpaceOrTab_eq_false (trimmed.first c isFirst))
    (fun c isLast => Text.isAsciiSpace_eq_false (trimmed.last c isLast)) (.inl marked.2) trimmed.some
  refine recovers_heading positive fit.single written isHeading ?_ fit.kept
  intro context mayBeTask expanded same
  rw [Block.toNodes, fit.inlineNodes same, UInt8.ofNat_toNat]

theorem recovers_marked_paragraph
    (marked : isMarkedParagraph options children = true) :
    Recovers options (.paragraph children) (.paragraph children) none
      (Text.lines (paragraphText children)) := by
  simp only [isMarkedParagraph, Bool.and_eq_true, List.all_eq_true, Option.isNone_iff_eq_none] at marked
  obtain ⟨⟨⟨⟨⟨areMarked, lines⟩, holds⟩, noDefinition⟩, noRow⟩, noTask⟩ := marked
  have trimmed : ∀ line ∈ Text.lines (Node.markups children), IsTrimmed line := fun line isLine =>
    isTrimmed_of_isMarkedLine (lines line isLine)
  have started : Escape.lineStarts (Node.markups children) = Node.markups children := by
    have kept : (Text.lines (Node.markups children)).map Escape.lineStart =
        Text.lines (Node.markups children) := by
      refine (List.map_congr_left fun line isLine => ?_).trans (List.map_id _)
      have marked := lines line isLine
      rw [isMarkedLine, Bool.and_eq_true, beq_iff_eq] at marked
      exact marked.2
    rw [Escape.lineStarts, kept, Text.unlines_lines]
  have written : paragraphText children = Node.markups children := by
    have inlineText := Node.inlineText_of_areMarked areMarked (absurd · Bool.false_ne_true)
    rw [Escape.within_false] at inlineText
    rw [paragraphText_eq (by rwa [inlineText]), inlineText, started]
  have shown : (Block.paragraph (Node.markups children ++ ['\n'])).ShowsAs options
      (.paragraph children) := by
    intro context mayBeTask expanded same
    obtain rfl := same.options_eq
    have whole : Text.trimEnd Text.isAsciiSpace (Node.markups children ++ ['\n']) =
        Node.markups children := by
      rw [Text.trimEnd_concat_of_pos rfl]
      refine Text.trimEnd_eq_self fun c isLast => ?_
      obtain ⟨line, isLine, isLast⟩ :=
        Text.exists_getLast?_of_lines (fun line isLine => (trimmed line isLine).some) isLast
      exact Text.isAsciiSpace_eq_false ((trimmed line isLine).last c isLast)
    have read := @inlineNodes_of_areMarked context same.strikethrough_eq children areMarked trimmed
      mayBeTask (fun on value rest begins line isFirst => by
        rw [Bool.and_eq_true] at on
        rw [on.2, begins, beginsTask, isFirst] at noTask
        simpa using noTask) _ whole expanded
    rw [Block.toNodes, read]
  rw [← Text.flatMap_lines] at shown noDefinition
  obtain ⟨first, others, cut⟩ := List.exists_cons_of_ne_nil (Text.lines_ne_nil (Node.markups children))
  rw [cut] at lines holds noRow shown noDefinition
  have each : ∀ line ∈ first :: others, IsQuiet line ∧ ∀ c ∈ line, isKept c = true := by
    intro line isLine
    have marked := lines line isLine
    simp only [isMarkedLine, Bool.and_eq_true, List.all_eq_true] at marked
    exact ⟨isQuiet_of_isQuietLine marked.1.2, marked.1.1.2⟩
  refine recovers_paragraph (written ▸ cut) (fun line isLine => (each line isLine).1) ?_ noDefinition
    (fun on line isLine => ?_) shown fun line isLine => (each line isLine).2
  · simpa [holdsMoreThanRule, HoldsMoreThanRule, and_assoc] using holds
  · simp only [on, Bool.not_true, Bool.false_or, List.tail_cons, List.all_eq_true,
      Bool.not_eq_true'] at noRow
    exact noRow line isLine

/-- A marked block that is no quote and no list is recovered from its lines. -/
theorem recovers_of_isMarkedLeaf :
    (node : Node) → node.isContainer = false → node.isMarkedLeaf options = true →
      Recovers options node node none (Text.lines node.blockText)
  | .heading depth children, _, marked => by
      rw [Node.isMarkedLeaf, Bool.or_eq_true] at marked
      rcases marked with plain | marked
      · exact recovers_of_isPlain _ rfl plain
      · rw [Bool.and_eq_true, Bool.and_eq_true, decide_eq_true_eq, decide_eq_true_eq] at marked
        exact recovers_marked_heading marked.1.1 marked.1.2 marked.2
  | .paragraph children, _, marked => by
      rw [Node.isMarkedLeaf, Bool.or_eq_true] at marked
      rcases marked with plain | marked
      · exact recovers_of_isPlain _ rfl plain
      · exact recovers_marked_paragraph marked
  | .code lang value, _, plain => recovers_of_isPlain _ rfl plain
  | .thematicBreak, _, plain => recovers_of_isPlain _ rfl plain
  | .html _, _, plain => recovers_html plain
  | .table .., _, marked => recovers_table marked

/-- A marked document comes back from its text. -/
theorem Tree.ofMarkdown_toMarkdown_of_isMarked
    {tree : Tree}
    (marked : tree.isMarked options = true) :
    ofMarkdown options tree.toMarkdown = tree := by
  rw [isMarked, Bool.and_eq_true, Bool.and_eq_true, decide_eq_true_eq] at marked
  obtain ⟨⟨blocks, shallow⟩, noMark⟩ := marked
  exact ofMarkdown_toMarkdown_of_recovers recovers_of_isMarkedLeaf blocks shallow noMark

end Leaves

end Markdown
end TwinEditor
