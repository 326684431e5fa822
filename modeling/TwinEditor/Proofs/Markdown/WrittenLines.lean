import TwinEditor.Proofs.Markdown.Containers
import TwinEditor.Proofs.Markdown.Escaping

/-!
# The lines that blocks write

Every block is written as a text, but it is read line by line. Here the lines are given that each kind of
block writes, for text without marks.
-/

namespace TwinEditor
namespace Text

theorem onOneLine_eq_self
    {text : List Char}
    (single : '\n' ∉ text) :
    onOneLine text = text := by
  refine (List.map_congr_left fun c member => if_neg ?_).trans (List.map_id' _)
  rintro rfl
  exact single member

end Text

namespace Markdown

open Reader (Spells IsTrimmed quoteLine)

theorem Node.inlineText_text (value : String) :
    Node.inlineText false [.text value] = Escape.text false value.toList := by
  simp [Node.inlineText, Node.mergeRuns, Node.appendMerged, Node.consMerged, Node.spans, Node.span,
    Span.join, Span.joinOnto, Span.plain]

/-! ## Paragraphs -/

/-- What a paragraph writes for a line of its text. -/
def paragraphLine (line : List Char) : List Char :=
  Escape.lineStart (Escape.text false line)

theorem spells_paragraphLine
    {line : List Char}
    (single : '\n' ∉ line) :
    Spells (paragraphLine line) line :=
  Escape.spells_lineStart (Escape.spells_text single)

/-- Where no line has white space at its ends, a paragraph is its inline text with the start of every
line escaped. -/
theorem paragraphText_eq
    {children : List Node}
    (trimmed : ∀ row ∈ Text.lines (Node.inlineText false children), IsTrimmed row) :
    paragraphText children = Escape.lineStarts (Node.inlineText false children) := by
  have rows : (Text.lines (Node.inlineText false children)).map (Text.trim Text.isSpaceOrTab) =
      Text.lines (Node.inlineText false children) := by
    refine (List.map_congr_left fun row member => ?_).trans (List.map_id _)
    have isTrimmed := trimmed row member
    exact Text.trim_eq_self
      (fun c isFirst => Text.isSpaceOrTab_eq_false (isTrimmed.first c isFirst))
      (fun c isLast => Text.isSpaceOrTab_eq_false (isTrimmed.last c isLast))
  have visible {c : Char} (isVisible : Text.isBlank c = false) : (c == '\n') = false :=
    beq_eq_false_iff_ne.mpr fun same => by
      subst same
      cases isVisible
  have filled := fun row member => (trimmed row member).some
  have whole : Text.trim (· == '\n') (Node.inlineText false children) =
      Node.inlineText false children := by
    refine Text.trim_eq_self (fun c isFirst => ?_) (fun c isLast => ?_)
    · obtain ⟨row, member, isFirst⟩ := Text.exists_head?_of_lines filled isFirst
      exact visible ((trimmed row member).first c isFirst)
    · obtain ⟨row, member, isLast⟩ := Text.exists_getLast?_of_lines filled isLast
      exact visible ((trimmed row member).last c isLast)
  rw [paragraphText, rows, Text.unlines_lines, whole]

section Paragraph

variable {value : String}
  (trimmed : ∀ line ∈ Text.lines value.toList, IsTrimmed line)
include trimmed

/-- A written line of a paragraph has no white space at its ends. -/
theorem isTrimmed_of_mem_lines_text
    {row : List Char}
    (member : row ∈ (Text.lines value.toList).map (Escape.text false)) :
    IsTrimmed row := by
  obtain ⟨line, isLine, rfl⟩ := List.mem_map.mp member
  exact (Escape.spells_text (Text.notMem_of_mem_lines isLine)).isTrimmed (trimmed line isLine)

theorem paragraphText_text :
    paragraphText [.text value] = Text.unlines ((Text.lines value.toList).map paragraphLine) := by
  have rows := fun row => @isTrimmed_of_mem_lines_text value trimmed row
  rw [← Escape.lines_text, ← Node.inlineText_text] at rows
  rw [paragraphText_eq rows, Node.inlineText_text, Escape.lineStarts, Escape.lines_text, List.map_map]
  rfl

theorem lines_paragraphText :
    Text.lines (paragraphText [.text value]) = (Text.lines value.toList).map paragraphLine := by
  rw [paragraphText_text trimmed]
  refine Text.lines_unlines (by simpa using Text.lines_ne_nil value.toList) fun written member => ?_
  obtain ⟨line, isLine, rfl⟩ := List.mem_map.mp member
  exact (spells_paragraphLine (Text.notMem_of_mem_lines isLine)).newline_notMem

end Paragraph

/-! ## Headings -/

theorem separates_numberSign : Reader.Separates ['#'] :=
  ⟨fun c isFirst => by obtain rfl := Option.some.inj isFirst; decide, rfl, rfl⟩

theorem separates_escapedNumberSign : Reader.Separates ['\\', '#'] :=
  ⟨fun c isFirst => by obtain rfl := Option.some.inj isFirst; decide, rfl, rfl⟩

/-- A heading is written as its number signs and one line that spells its text. A number sign at the end
of that line stands behind a backslash. -/
theorem exists_headingText_text
    {depth : UInt8}
    (positive : 1 ≤ depth.toNat)
    (bounded : depth.toNat ≤ 6)
    {value : String}
    (single : '\n' ∉ value.toList)
    (isTrimmed : IsTrimmed value.toList) :
    ∃ content, headingText depth [.text value] =
        List.replicate depth.toNat '#' ++ ' ' :: content ∧
      Spells content value.toList ∧
      (content.getLast? ≠ some '#' ∨ ∃ before, content = before ++ ['\\', '#']) := by
  have spells := Escape.spells_text single
  have noNewline := spells.newline_notMem
  have oneLine := Text.onOneLine_eq_self noNewline
  have whole : Text.trim Text.isBlank (Escape.text false value.toList) =
      Escape.text false value.toList := by
    refine Text.trim_eq_self (fun c isFirst => ?_) (fun c isLast => ?_)
    · rcases spells.first isFirst with rfl | isFirst
      · rfl
      · exact isTrimmed.first c isFirst
    · exact isTrimmed.last c (spells.getLast?_eq ▸ isLast)
  have signs : max 1 (min depth.toNat 6) = depth.toNat := by omega
  rw [headingText, Node.inlineText_text, oneLine, whole, signs]
  by_cases closes : (Escape.text false value.toList).getLast? = some '#'
  · obtain ⟨line, shape⟩ : ∃ line, value.toList = line ++ ['#'] := by
      rw [spells.getLast?_eq] at closes
      exact List.getLast?_eq_some_iff.mp closes
    rw [shape, List.mem_append, not_or] at single
    have written : Escape.text false value.toList = Escape.text false line ++ ['#'] := by
      rw [shape, Escape.text_append separates_numberSign]
      rfl
    refine ⟨Escape.text false line ++ ['\\', '#'], ?_, ?_, .inr ⟨_, rfl⟩⟩
    · simp [written]
    · rw [shape]
      exact (Escape.spells_text single.1).append separates_escapedNumberSign
        separates_numberSign (.escaped (by decide) rfl .nil)
  · refine ⟨Escape.text false value.toList, ?_, spells, .inl closes⟩
    have some := spells.ne_nil isTrimmed.some
    simp [closes, some]

/-! ## Code -/

/-- The lines of code between its fences: none at all if the code is empty. -/
def codeLines (value : List Char) : List (List Char) :=
  if value.isEmpty then [] else Text.lines value

/-- The fence around some code. -/
def codeFence (value : List Char) : List Char :=
  List.replicate (max (Text.longestRun '\x60' value) 2 + 1) '\x60'

theorem lines_codeText
    {lang : Option String}
    (single : '\n' ∉ (lang.getD "").toList)
    (value : List Char) :
    Text.lines (codeText lang value) =
      (codeFence value ++ (lang.getD "").toList) :: (codeLines value ++ [codeFence value]) := by
  have fenceSingle : '\n' ∉ codeFence value := by
    simp [codeFence]
  have openingSingle : '\n' ∉ codeFence value ++ (lang.getD "").toList := by
    simp [fenceSingle, single]
  have opening (rest : List Char) :
      Text.lines (codeFence value ++ (lang.getD "").toList ++ '\n' :: rest) =
        (codeFence value ++ (lang.getD "").toList) :: Text.lines rest := by
    rw [Text.lines_append_newline, Text.lines_of_notMem openingSingle, List.singleton_append]
  rw [codeText]
  by_cases empty : value.isEmpty = true
  · rw [if_pos empty, codeLines, if_pos empty]
    exact (opening _).trans (congrArg _ (Text.lines_of_notMem fenceSingle))
  · rw [if_neg empty, codeLines, if_neg empty]
    refine (opening _).trans (congrArg _ ?_)
    rw [Text.lines_append_newline]
    exact congrArg _ (Text.lines_of_notMem fenceSingle)

/-! ## Quotes and items -/

theorem newline_notMem_quoteLine
    {line : List Char}
    (single : '\n' ∉ line) :
    '\n' ∉ quoteLine line := by
  rw [quoteLine]
  split
  · decide
  · simp [single]

theorem lines_quoteText
    {body : List Char}
    (some : body ≠ []) :
    Text.lines (quoteText body) = (Text.lines body).map quoteLine := by
  have notEmpty : ¬ body.isEmpty = true := by simpa using some
  rw [quoteText, if_neg notEmpty]
  refine Text.lines_unlines (by simpa using Text.lines_ne_nil body) fun written member => ?_
  obtain ⟨line, isLine, rfl⟩ := List.mem_map.mp member
  exact newline_notMem_quoteLine (Text.notMem_of_mem_lines isLine)

/-- An item is written as its marker with the first line of its content, and the other lines indented by
the width of the marker and a space. -/
theorem lines_itemText
    {marker body first : List Char}
    {rest : List (List Char)}
    (single : '\n' ∉ marker)
    (some : body ≠ [])
    (cut : Text.lines body = first :: rest) :
    Text.lines (itemText marker body) =
      (marker ++ ' ' :: first) :: rest.map (Reader.Body.indentedLine (marker.length + 1)) := by
  have notEmpty : ¬ body.isEmpty = true := by simpa using some
  have allSingle : ∀ line ∈ first :: rest, '\n' ∉ line := fun line member =>
    Text.notMem_of_mem_lines (cut.symm ▸ member)
  obtain ⟨firstSingle, othersSingle⟩ := List.forall_mem_cons.mp allSingle
  rw [itemText, if_neg notEmpty, cut]
  refine Text.lines_unlines (List.cons_ne_nil _ _) fun written member => ?_
  rcases List.mem_cons.mp member with rfl | member
  · simp [single, firstSingle]
  · obtain ⟨line, isLine, rfl⟩ := List.mem_map.mp member
    split
    · exact List.not_mem_nil
    · simp [othersSingle line isLine]

end Markdown
end TwinEditor
