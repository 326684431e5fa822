import TwinEditor.Markdown.BlockPrinter
import TwinEditor.Proofs.Markdown.PlainText

/-!
# Cells of tables

In a table the bars of texts stand behind backslashes. A row is cut at the other bars, and every cell of it
is the text that was written for it.
-/

namespace TwinEditor
namespace Markdown

/-! ## Escaped bars -/

namespace Escape

/-- A text with every bar escaped. -/
def bars (text : List Char) : List Char :=
  Text.replaceChar '|' ['\\', '|'] text

/-- What stands for a text: in a table its bars are escaped. -/
def within (inTable : Bool) (text : List Char) : List Char :=
  if inTable then bars text else text

theorem bars_cons
    (c : Char)
    (rest : List Char) :
    bars (c :: rest) = (if c = '|' then ['\\', '|'] else [c]) ++ bars rest := by
  rw [bars, Text.replaceChar, List.flatMap_cons]
  rfl

theorem bars_append
    (first second : List Char) :
    bars (first ++ second) = bars first ++ bars second :=
  List.flatMap_append

theorem bars_eq_self
    {text : List Char}
    (noBar : '|' ∉ text) :
    bars text = text := by
  induction text with
  | nil => rfl
  | cons c rest inductionHypothesis =>
      rw [List.mem_cons, not_or] at noBar
      rw [bars_cons, if_neg (Ne.symm noBar.1), inductionHypothesis noBar.2]
      rfl

theorem mem_bars
    {text : List Char}
    {c : Char}
    (member : c ∈ bars text) :
    c ∈ text ∨ c = '\\' := by
  obtain ⟨d, isInside, member⟩ := List.mem_flatMap.mp member
  split at member
  · next isBar =>
      subst isBar
      rcases List.mem_cons.mp member with rfl | member
      · exact .inr rfl
      · exact .inl (List.mem_singleton.mp member ▸ isInside)
  · exact .inl (List.mem_singleton.mp member ▸ isInside)

/-- No text begins with a bar that is not escaped. -/
theorem head?_bars_append_ne
    (text : List Char)
    {rest : List Char}
    (other : rest.head? ≠ some '|') :
    (bars text ++ rest).head? ≠ some '|' := by
  cases text with
  | nil => exact other
  | cons c others =>
      rw [bars_cons]
      split
      · exact fun isFirst => absurd (Option.some.inj isFirst) (by decide)
      · next plain => exact fun isFirst => plain (Option.some.inj isFirst)

theorem head?_bars
    {text : List Char}
    {c : Char}
    (isFirst : c ∈ (bars text).head?) :
    c ∈ text.head? ∨ text.head? = some '|' ∧ c = '\\' := by
  cases text with
  | nil => cases isFirst
  | cons d rest =>
      rw [bars_cons] at isFirst
      split at isFirst
      · next isBar =>
          obtain rfl := Option.some.inj isFirst
          exact .inr ⟨congrArg some isBar, rfl⟩
      · exact .inl isFirst

theorem getLast?_bars (text : List Char) : (bars text).getLast? = text.getLast? := by
  induction text with
  | nil => rfl
  | cons c rest inductionHypothesis =>
      rw [bars_cons, List.getLast?_append, inductionHypothesis, List.getLast?_cons]
      split
      · next isBar =>
          subst isBar
          cases rest.getLast? <;> rfl
      · cases rest.getLast? <;> rfl

/-- In a table a text is escaped as elsewhere, and its bars too. -/
theorem text_true (value : List Char) : text true value = bars (text false value) := by
  induction value with
  | nil => rfl
  | cons c rest inductionHypothesis =>
      by_cases isBar : c = '|'
      · subst isBar
        rw [text, text, inductionHypothesis]
        rfl
      · have same : isSpecial true c = isSpecial false c := by
          simp [isSpecial, isBar]
        rw [text, text, same]
        split
        · rw [bars_cons, bars_cons, if_neg (by decide), if_neg isBar, inductionHypothesis]
          rfl
        · rw [bars_cons, if_neg isBar, inductionHypothesis]
          rfl

theorem text_eq_within
    (inTable : Bool)
    (value : List Char) :
    text inTable value = within inTable (text false value) := by
  cases inTable with
  | false => rfl
  | true => exact text_true value

@[simp] theorem within_false (text : List Char) : within false text = text :=
  rfl

@[simp] theorem within_nil (inTable : Bool) : within inTable [] = [] := by
  cases inTable <;> rfl

theorem within_append
    (inTable : Bool)
    (first second : List Char) :
    within inTable (first ++ second) = within inTable first ++ within inTable second := by
  cases inTable with
  | false => rfl
  | true => exact bars_append first second

theorem within_eq_self
    {inTable : Bool}
    {text : List Char}
    (noBar : inTable = true → '|' ∉ text) :
    within inTable text = text := by
  cases inTable with
  | false => rfl
  | true => exact bars_eq_self (noBar rfl)

theorem head?_within
    {inTable : Bool}
    {text : List Char}
    {c : Char}
    (isFirst : c ∈ (within inTable text).head?) :
    c ∈ text.head? ∨ text.head? = some '|' ∧ c = '\\' := by
  cases inTable with
  | false => exact .inl isFirst
  | true => exact head?_bars isFirst

theorem getLast?_within
    (inTable : Bool)
    (text : List Char) :
    (within inTable text).getLast? = text.getLast? := by
  cases inTable with
  | false => rfl
  | true => exact getLast?_bars text

theorem within_eq_nil_iff
    {inTable : Bool}
    {text : List Char} :
    within inTable text = [] ↔ text = [] := by
  refine ⟨fun empty => ?_, fun empty => empty ▸ within_nil inTable⟩
  have last := getLast?_within inTable text
  rw [empty] at last
  exact List.getLast?_eq_none_iff.mp last.symm

end Escape

/-! ## Reading rows -/

namespace Reader

/-- A cell ends at the first bar that is not escaped, and the others lose their backslashes. -/
theorem splitCell_bars
    (cell rest : List Char) :
    splitCell (Escape.bars cell ++ ' ' :: '|' :: rest) = (cell ++ [' '], some rest) := by
  induction cell with
  | nil => rfl
  | cons c others inductionHypothesis =>
      rw [Escape.bars_cons]
      by_cases isBar : c = '|'
      · subst isBar
        rw [if_pos rfl, List.append_assoc, List.cons_append, List.singleton_append, splitCell,
          inductionHypothesis]
        rfl
      · rw [if_neg isBar, List.append_assoc, List.singleton_append, splitCell, if_neg isBar,
          inductionHypothesis]
        · rfl
        -- No bar stands directly behind a backslash of the text, since each has a backslash of its own.
        · intro behind _ begins
          have noBar : (Escape.bars others ++ ' ' :: '|' :: rest).head? ≠ some '|' :=
            Escape.head?_bars_append_ne others (by simp)
          exact noBar (congrArg List.head? begins)

theorem isCellSpace_eq_false
    {c : Char}
    (visible : Text.isBlank c = false) :
    isCellSpace c = false := by
  rw [Bool.eq_false_iff] at visible ⊢
  intro isSpace
  refine visible ?_
  rw [isCellSpace, Bool.or_eq_true, Bool.or_eq_true, Bool.or_eq_true, beq_iff_eq, beq_iff_eq,
    beq_iff_eq, beq_iff_eq] at isSpace
  rcases isSpace with ((rfl | rfl) | rfl) | rfl
  all_goals rfl

/-- The first cell of the rest of a row, which holds nothing or has no white space at its ends. -/
theorem cellsWithin_bars
    {cell : List Char}
    (trimmed : cell ≠ [] → IsTrimmed cell)
    (bound : Nat)
    (rest : List Char) :
    cellsWithin (bound + 1) ((Escape.bars cell ++ ' ' :: '|' :: rest).dropWhile isCellSpace) =
      cell :: cellsWithin bound (rest.dropWhile isCellSpace) := by
  cases cell with
  | nil => rfl
  | cons c others =>
      have isTrimmed := trimmed (List.cons_ne_nil c others)
      have whole : (Escape.bars (c :: others) ++ ' ' :: '|' :: rest).dropWhile isCellSpace =
          Escape.bars (c :: others) ++ ' ' :: '|' :: rest := by
        refine Text.trimStart_eq_self fun d isFirst => ?_
        rw [Escape.bars_cons] at isFirst
        split at isFirst
        · obtain rfl := Option.some.inj isFirst
          rfl
        · obtain rfl := Option.some.inj isFirst
          exact isCellSpace_eq_false (isTrimmed.first _ rfl)
      have kept : Text.trim Text.isAsciiSpace (c :: others ++ [' ']) = c :: others := by
        rw [Text.trim, Text.trimStart_eq_self, Text.trimEnd_concat_of_pos rfl, Text.trimEnd_eq_self]
        · exact fun d isLast => Text.isAsciiSpace_eq_false (isTrimmed.last d isLast)
        · exact fun d isFirst => Text.isAsciiSpace_eq_false (isTrimmed.first d isFirst)
      rw [whole, cellsWithin, splitCell_bars]
      dsimp only
      rw [kept]

/-- The cells of the rest of a row. -/
theorem cellsWithin_intercalate
    {cells : List (List Char)}
    (some : cells ≠ [])
    (trimmed : ∀ cell ∈ cells, cell ≠ [] → IsTrimmed cell)
    {bound : Nat}
    (enough : cells.length < bound) :
    cellsWithin bound ((List.intercalate [' ', '|', ' '] (cells.map Escape.bars) ++
      [' ', '|']).dropWhile isCellSpace) = cells := by
  induction cells generalizing bound with
  | nil => exact absurd rfl some
  | cons cell others inductionHypothesis =>
      obtain ⟨first, rest⟩ := List.forall_mem_cons.mp trimmed
      cases bound with
      | zero => exact absurd enough (Nat.not_lt_zero _)
      | succ bound =>
          cases others with
          | nil =>
              rw [List.map_singleton, List.intercalate_singleton, cellsWithin_bars first]
              cases bound <;> rfl
          | cons next more =>
              have remains := inductionHypothesis (List.cons_ne_nil next more) rest
                (Nat.lt_of_succ_lt_succ enough)
              rw [List.map_cons] at remains
              rw [List.map_cons, List.map_cons, List.intercalate_cons_cons, List.append_assoc,
                List.append_assoc, List.cons_append, List.cons_append, cellsWithin_bars first]
              exact congrArg (List.cons cell) remains

theorem length_le_length_intercalate
    (separator : List Char)
    (some : separator ≠ [])
    (pieces : List (List Char)) :
    pieces.length ≤ (separator.intercalate pieces).length + 1 := by
  induction pieces with
  | nil => exact Nat.zero_le _
  | cons piece rest inductionHypothesis =>
      cases rest with
      | nil => simp
      | cons next more =>
          have filled := List.length_pos_iff.mpr some
          rw [List.intercalate_cons_cons, List.length_cons, List.length_append, List.length_append]
          omega

theorem rowText_eq_cons (cells : List (List Char)) :
    rowText cells = '|' :: ' ' :: (List.intercalate [' ', '|', ' '] cells ++ [' ', '|']) :=
  rfl

theorem length_lt_length_rowText (cells : List (List Char)) :
    cells.length < (rowText cells).length := by
  have few := length_le_length_intercalate [' ', '|', ' '] (List.cons_ne_nil _ _) cells
  rw [rowText_eq_cons, List.length_cons, List.length_cons, List.length_append, List.length_cons]
  omega

/-- A written row has the cells that were written. -/
theorem tableRow?_rowText
    {cells : List (List Char)}
    (some : cells ≠ [])
    (trimmed : ∀ cell ∈ cells, cell ≠ [] → IsTrimmed cell) :
    tableRow? (rowText (cells.map Escape.bars)) = .some cells := by
  have few := length_lt_length_rowText (cells.map Escape.bars)
  rw [List.length_map] at few
  have found := cellsWithin_intercalate some trimmed (Nat.lt_succ_of_lt few)
  obtain ⟨first, others, rfl⟩ := List.exists_cons_of_ne_nil some
  have inner : (' ' :: (List.intercalate [' ', '|', ' '] ((first :: others).map Escape.bars) ++
      [' ', '|'])).dropWhile isCellSpace = (List.intercalate [' ', '|', ' ']
        ((first :: others).map Escape.bars) ++ [' ', '|']).dropWhile isCellSpace :=
    List.dropWhile_cons_of_pos rfl
  rw [rowText_eq_cons] at found ⊢
  rw [tableRow?, inner, found]

theorem delimiterCell?_alignmentText
    (alignment : Alignment)
    (rest : List Char) :
    delimiterCell? (' ' :: (alignmentText alignment ++ ' ' :: '|' :: rest)) = some ('|' :: rest) := by
  cases alignment <;> rfl

theorem areDelimiterCells_intercalate
    {align : List Alignment}
    (some : align ≠ [])
    {bound : Nat}
    (enough : align.length ≤ bound) :
    areDelimiterCells bound (' ' :: (List.intercalate [' ', '|', ' '] (align.map alignmentText) ++
      [' ', '|'])) = true := by
  induction align generalizing bound with
  | nil => exact absurd rfl some
  | cons alignment others inductionHypothesis =>
      cases bound with
      | zero => exact absurd enough (Nat.not_succ_le_zero _)
      | succ bound =>
          cases others with
          | nil =>
              rw [List.map_singleton, List.intercalate_singleton, areDelimiterCells,
                delimiterCell?_alignmentText]
              rfl
          | cons next more =>
              have remains := inductionHypothesis (List.cons_ne_nil next more)
                (Nat.le_of_succ_le_succ enough)
              rw [List.map_cons] at remains
              rw [List.map_cons, List.map_cons, List.intercalate_cons_cons, List.append_assoc,
                List.append_assoc, List.cons_append, List.cons_append, areDelimiterCells,
                delimiterCell?_alignmentText]
              exact Bool.or_eq_true_iff.mpr (.inr remains)

/-- The second line of a written table is a delimiter row. -/
theorem isDelimiterRow_rowText
    {align : List Alignment}
    (some : align ≠ []) :
    isDelimiterRow (rowText (align.map alignmentText)) = true := by
  have few := length_lt_length_rowText (align.map alignmentText)
  rw [List.length_map] at few
  have cells := areDelimiterCells_intercalate some (Nat.le_succ_of_le (Nat.le_of_lt few))
  rw [rowText_eq_cons] at cells ⊢
  exact cells

theorem cellAlignment_alignmentText (alignment : Alignment) :
    cellAlignment (alignmentText alignment) = alignment := by
  cases alignment <;> rfl

theorem isTrimmed_alignmentText (alignment : Alignment) : IsTrimmed (alignmentText alignment) := by
  have visible : (alignmentText alignment).all (!Text.isBlank ·) = true := by
    cases alignment <;> rfl
  rw [List.all_eq_true] at visible
  refine ⟨?_, fun c isFirst => ?_, fun c isLast => ?_⟩
  · cases alignment <;> exact List.cons_ne_nil _ _
  · simpa using visible c (List.mem_of_head? isFirst)
  · simpa using visible c (List.mem_of_getLast? isLast)

/-- The delimiter row of a written table has a cell for each column, which says how it is aligned. -/
theorem tableRow?_alignments
    {align : List Alignment}
    (some : align ≠ []) :
    tableRow? (rowText (align.map alignmentText)) = .some (align.map alignmentText) := by
  have plain : (align.map alignmentText).map Escape.bars = align.map alignmentText := by
    rw [List.map_map]
    refine List.map_congr_left fun alignment _ => ?_
    cases alignment <;> rfl
  have trimmed : ∀ cell ∈ align.map alignmentText, cell ≠ [] → IsTrimmed cell := by
    rw [List.forall_mem_map]
    exact fun alignment _ _ => isTrimmed_alignmentText alignment
  have found := tableRow?_rowText (fun none => some (List.map_eq_nil_iff.mp none)) trimmed
  rwa [plain] at found

end Reader

end Markdown
end TwinEditor
