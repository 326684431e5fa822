import Mathlib.Data.List.TakeWhile
import TwinEditor.Proofs.Markdown.ReadingMarks

/-!
# Tables

A table is written with a line for each row and a delimiter row behind the first. The first line alone is
text of a paragraph, which the delimiter row makes the header of a table.
-/

namespace TwinEditor
namespace Markdown

open Reader (Block Body IsTrimmed IsQuiet IsProse)
open Reader.Body (Reads Completes)

/-! ## What reads back -/

namespace Node

/-- Whether a node is a cell that reads back. -/
def isMarkedCell (options : Options) : Node → Bool
  | .tableCell children => children.isEmpty || fitLine options children && keepBars children
  | _ => false

/-- Whether a node is a row of such cells in a table of some columns. -/
def isMarkedRow (options : Options) (columns : Nat) : Node → Bool
  | .tableRow cells => cells.length == columns && cells.all (isMarkedCell options)
  | _ => false

/-- What is read from the cells of a row. -/
def cellMarkups (row : Node) : List (List Char) :=
  row.children.map fun cell => markups cell.children

end Node

/-- Whether a table reads back. -/
def isMarkedTable
    (options : Options)
    (align : List Alignment)
    (rows : List Node) :
    Bool :=
  options.tables && !align.isEmpty && !rows.isEmpty &&
    rows.all (Node.isMarkedRow options align.length)

/-! ## Reading -/

namespace Reader
namespace Body

variable {align : List Alignment} {closed : List Block}

/-- What a row of a table is written as. -/
def rowLine (cells : List (List Char)) : List Char :=
  rowText (cells.map Escape.bars)

/-- Cells that fill the columns of a table, none of which begins or ends with white space. -/
structure FillsRow
    (align : List Alignment)
    (cells : List (List Char)) : Prop where
  length_eq : cells.length = align.length
  trimmed : ∀ cell ∈ cells, cell ≠ [] → IsTrimmed cell

theorem FillsRow.tableRow?
    {cells : List (List Char)}
    (fills : FillsRow align cells)
    (some : align ≠ []) :
    tableRow? (rowLine cells) = .some cells := by
  refine tableRow?_rowText (fun none => some ?_) fills.trimmed
  rw [← List.length_eq_zero_iff, ← fills.length_eq, none]
  rfl

/-- A line of a table begins no block. -/
theorem isProse_rowText (cells : List (List Char)) : IsProse (rowText cells) := by
  rw [rowText_eq_cons]
  exact ⟨⟨'|', _, rfl, by decide, by decide⟩, .inl rfl⟩

/-- The rows behind the first one of a table. -/
theorem reads_table_rows
    {rows : List (List (List Char))}
    (some : align ≠ [])
    (fill : ∀ row ∈ rows, FillsRow align row)
    (tables : Bool)
    (closed : List Block)
    (before : List (List (List Char))) :
    Reads tables ⟨closed, .leaf (.table align before 0)⟩ (rows.map rowLine)
      ⟨closed, .leaf (.table align (rows.reverse ++ before) 0)⟩ := by
  induction rows generalizing before with
  | nil => exact .nil _
  | cons row rows inductionHypothesis =>
      obtain ⟨first, others⟩ := List.forall_mem_cons.mp fill
      have quiet := (isProse_rowText (row.map Escape.bars)).isQuiet
      have rest := inductionHypothesis others (row :: before)
      rw [List.reverse_cons, List.append_assoc, List.singleton_append]
      refine .cons _ (fun cursor shows => ?_) (fun _ => rfl) rest
      have whole : row.take align.length = row := by
        rw [← first.length_eq, List.take_length]
      rw [next, OpenBlock.step, stepLeaf, Cursor.isBlank_of_isSolid quiet.isSolid shows, stepTable,
        quiet.start? cursor shows, Cursor.skipBlanks_of_isSolid quiet.isSolid shows]
      obtain ⟨column, rfl⟩ := shows
      dsimp only
      rw [if_neg Bool.false_ne_true, first.tableRow? some]
      dsimp only
      rw [if_pos (Nat.zero_le _), whole, first.length_eq, Nat.sub_self, List.replicate_zero,
        List.append_nil]
      rfl

theorem reads_table
    {header : List (List Char)}
    {rows : List (List (List Char))}
    (some : align ≠ [])
    (fills : FillsRow align header)
    (single : '\n' ∉ rowLine header)
    (fill : ∀ row ∈ rows, FillsRow align row)
    (closed : List Block) :
    Reads true ⟨closed, .none⟩
      (rowLine header :: rowText (align.map alignmentText) :: rows.map rowLine)
      ⟨closed, .leaf (.table align (rows.reverse ++ [header]) 0)⟩ := by
  have quiet := (isProse_rowText (header.map Escape.bars)).isQuiet
  have delimiters := (isProse_rowText (align.map alignmentText)).isQuiet
  refine .cons ⟨closed, .leaf (.paragraph (rowLine header ++ ['\n']) false)⟩ (fun cursor shows => ?_)
    (absurd · quiet.isSolid.ne_nil)
    (.cons ⟨closed, .leaf (.table align [header] 0)⟩ (fun cursor shows => ?_) (fun _ => rfl)
      (reads_table_rows some fill true closed [header]))
  -- Until the delimiter row is read the header is the first line of a paragraph.
  · rw [next_of_not_start? (quiet.start? cursor shows _ _), ofText,
      Cursor.isBlank_of_isSolid quiet.isSolid shows, Cursor.skipBlanks_of_isSolid quiet.isSolid shows]
    obtain ⟨column, rfl⟩ := shows
    rfl
  · have text : (rowLine header ++ ['\n']).dropLast = rowLine header := List.dropLast_concat
    have alone : (rowLine header).reverse.dropWhile (· != '\n') = [] := by
      rw [List.dropWhile_eq_nil_iff]
      intro c member
      rw [bne_iff_ne]
      rintro rfl
      exact single (List.mem_reverse.mp member)
    have sameLength : (align.map alignmentText).length = header.length := by
      rw [List.length_map, fills.length_eq]
    have aligned : (align.map alignmentText).map cellAlignment = align := by
      rw [List.map_map]
      exact (List.map_congr_left fun alignment _ => cellAlignment_alignmentText alignment).trans
        (List.map_id _)
    rw [next, OpenBlock.step, stepLeaf, stepParagraph, Cursor.isBlank_of_isSolid delimiters.isSolid shows,
      Cursor.isIndented_of_isSolid delimiters.isSolid shows,
      Cursor.skipBlanks_of_isSolid delimiters.isSolid shows, delimiters.start? cursor shows]
    obtain ⟨column, rfl⟩ := shows
    dsimp only
    rw [if_neg Bool.false_ne_true, if_neg Bool.false_ne_true, delimiters.underlineDepth?,
      isDelimiterRow_rowText some, text, alone]
    dsimp only
    rw [List.reverse_nil, List.length_nil, List.drop_zero, tableRow?_alignments some,
      fills.tableRow? some]
    dsimp only
    rw [if_pos sameLength, aligned]
    rfl

/-- A table is complete behind its last row. -/
theorem completes_table
    (tables : Bool)
    (closed : List Block)
    (align : List Alignment)
    (rows : List (List (List Char))) :
    Completes tables (.table align rows.reverse :: closed) none
      ⟨closed, .leaf (.table align rows 0)⟩ := by
  refine ⟨rfl, rfl, ⟨.table align rows.reverse :: closed, .none⟩, fun cursor shows => ?_, trivial, rfl,
    rfl⟩
  rw [next, OpenBlock.step, stepLeaf, Cursor.isBlank_of_empty shows,
    start?_of_rest_eq_nil (congrArg Cursor.rest shows.choose_spec)]
  dsimp only
  rw [ofText, Cursor.isBlank_of_empty shows]
  rfl

end Body
end Reader

/-! ## Cells -/

section Cells

variable {options : Options} {align : List Alignment} {cell row : Node} {columns : Nat}

theorem exists_of_isMarkedCell
    (marked : cell.isMarkedCell options = true) :
    ∃ children, cell = .tableCell children ∧
      (children = [] ∨ Node.FitLine options children ∧ Node.keepBars children = true) := by
  cases cell with
  | tableCell children =>
      rw [Node.isMarkedCell, Bool.or_eq_true, Bool.and_eq_true, List.isEmpty_iff] at marked
      exact ⟨children, rfl, marked.imp_right (And.imp_left Node.fitLine_of_fitLine_eq_true)⟩
  | _ => cases marked

theorem exists_of_isMarkedRow
    (marked : row.isMarkedRow options columns = true) :
    ∃ cells, row = .tableRow cells ∧ cells.length = columns ∧
      ∀ cell ∈ cells, cell.isMarkedCell options = true := by
  cases row with
  | tableRow cells =>
      rw [Node.isMarkedRow, Bool.and_eq_true, beq_iff_eq, List.all_eq_true] at marked
      exact ⟨cells, rfl, marked⟩
  | _ => cases marked

/-- A cell that reads back is written on its line with its bars escaped. -/
theorem trim_inlineText_of_isMarkedCell
    (marked : cell.isMarkedCell options = true) :
    Text.trim Text.isBlank (Text.onOneLine (Node.inlineText true cell.children)) =
      Escape.bars (Node.markups cell.children) := by
  obtain ⟨children, rfl, rfl | ⟨fit, bars⟩⟩ := exists_of_isMarkedCell marked
  · rfl
  · have single : '\n' ∉ Escape.bars (Node.markups children) := fun member =>
      (Escape.mem_bars member).elim fit.single (by cases ·)
    rw [Node.children, Node.inlineText_of_areMarked fit.areMarked fun _ => bars, Escape.within,
      if_pos rfl, Text.onOneLine_eq_self single]
    refine Text.trim_eq_self (fun c isFirst => ?_) (fun c isLast => ?_)
    · rcases Escape.head?_bars isFirst with isFirst | ⟨-, rfl⟩
      · exact fit.isTrimmed.first c isFirst
      · rfl
    · rw [Escape.getLast?_bars] at isLast
      exact fit.isTrimmed.last c isLast

theorem rowCells_of_isMarkedRow
    (marked : row.isMarkedRow options columns = true) :
    rowCells row = row.cellMarkups.map Escape.bars := by
  obtain ⟨cells, rfl, -, areMarked⟩ := exists_of_isMarkedRow marked
  rw [rowCells, Node.cellMarkups, List.map_map]
  exact List.map_congr_left fun cell member => trim_inlineText_of_isMarkedCell (areMarked cell member)

theorem fillsRow_of_isMarkedRow
    (marked : row.isMarkedRow options align.length = true) :
    Body.FillsRow align row.cellMarkups := by
  obtain ⟨cells, rfl, length_eq, areMarked⟩ := exists_of_isMarkedRow marked
  refine ⟨(List.length_map _).trans length_eq, fun text member filled => ?_⟩
  obtain ⟨cell, isCell, rfl⟩ := List.mem_map.mp member
  obtain ⟨children, rfl, rfl | ⟨fit, -⟩⟩ := exists_of_isMarkedCell (areMarked cell isCell)
  · exact absurd rfl filled
  · exact fit.isTrimmed

theorem mem_intercalate
    {separator : List Char}
    {pieces : List (List Char)}
    {c : Char}
    (member : c ∈ separator.intercalate pieces) :
    c ∈ separator ∨ ∃ piece ∈ pieces, c ∈ piece := by
  induction pieces with
  | nil => cases member
  | cons piece rest inductionHypothesis =>
      cases rest with
      | nil =>
          rw [List.intercalate_singleton] at member
          exact .inr ⟨piece, .head _, member⟩
      | cons next more =>
          rw [List.intercalate_cons_cons, List.mem_append, List.mem_append] at member
          rcases member with (member | member) | member
          · exact .inr ⟨piece, .head _, member⟩
          · exact .inl member
          · refine (inductionHypothesis member).imp_right ?_
            rintro ⟨found, isPiece, member⟩
            exact ⟨found, .tail _ isPiece, member⟩

theorem mem_rowText
    {cells : List (List Char)}
    {c : Char}
    (member : c ∈ rowText cells) :
    c = '|' ∨ c = ' ' ∨ ∃ text ∈ cells, c ∈ text := by
  have frame {separator : List Char} (isFrame : separator.all (fun d => d == '|' || d == ' ') = true)
      (member : c ∈ separator) : c = '|' ∨ c = ' ' := by
    have found := List.all_eq_true.mp isFrame c member
    rwa [Bool.or_eq_true, beq_iff_eq, beq_iff_eq] at found
  rw [← or_assoc]
  rw [rowText, List.mem_append, List.mem_append] at member
  rcases member with (member | member) | member
  · exact .inl (frame rfl member)
  · exact (mem_intercalate member).imp_left (frame rfl)
  · exact .inl (frame rfl member)

/-- The characters of a written row can be read. -/
theorem isKept_of_mem_rowLine
    (marked : row.isMarkedRow options columns = true)
    {c : Char}
    (member : c ∈ Body.rowLine row.cellMarkups) :
    isKept c = true ∧ c ≠ '\n' := by
  obtain ⟨cells, rfl, -, areMarked⟩ := exists_of_isMarkedRow marked
  rcases mem_rowText member with rfl | rfl | ⟨text, isText, member⟩
  · decide
  · decide
  · obtain ⟨markup, isMarkup, rfl⟩ := List.mem_map.mp isText
    obtain ⟨cell, isCell, rfl⟩ := List.mem_map.mp isMarkup
    obtain ⟨children, rfl, rfl | ⟨fit, -⟩⟩ := exists_of_isMarkedCell (areMarked cell isCell)
    · cases member
    · rcases Escape.mem_bars member with member | rfl
      · exact ⟨fit.kept c member, fun isFeed => fit.single (isFeed ▸ member)⟩
      · decide

theorem isKept_of_mem_delimiters
    {c : Char}
    (member : c ∈ rowText (align.map alignmentText)) :
    isKept c = true ∧ c ≠ '\n' := by
  rcases mem_rowText member with rfl | rfl | ⟨text, isText, member⟩
  · decide
  · decide
  · obtain ⟨alignment, -, rfl⟩ := List.mem_map.mp isText
    have all : (alignmentText alignment).all (fun d => isKept d && d != '\n') = true := by
      cases alignment <;> rfl
    simpa using List.all_eq_true.mp all c member

end Cells

/-! ## Lines -/

theorem map_range_getD
    {A B : Type}
    (items : List A)
    (fallback : A)
    (f : A → B) :
    (List.range items.length).map (fun i => f (items.getD i fallback)) = items.map f := by
  refine List.ext_getElem (by simp) fun i bounded _ => ?_
  rw [List.length_map, List.length_range] at bounded
  simp [bounded]

theorem foldl_max_eq
    {lengths : List Nat}
    {most : Nat}
    (bounded : ∀ length ∈ lengths, length ≤ most) :
    lengths.foldl max most = most := by
  induction lengths with
  | nil => rfl
  | cons length lengths inductionHypothesis =>
      obtain ⟨first, others⟩ := List.forall_mem_cons.mp bounded
      rw [List.foldl_cons, Nat.max_eq_left first, inductionHypothesis others]

section Tables

variable {options : Options} {align : List Alignment} {header : Node} {rows : List Node}

/-- The lines of a table: its first row, the delimiter row and the other rows. -/
theorem lines_tableText
    (some : align ≠ [])
    (marked : ∀ row ∈ header :: rows, row.isMarkedRow options align.length = true) :
    Text.lines (tableText align (header :: rows)) =
      Body.rowLine header.cellMarkups :: rowText (align.map alignmentText) ::
        (rows.map Node.cellMarkups).map Body.rowLine := by
  have cells : (header :: rows).map rowCells =
      (header :: rows).map fun row => row.cellMarkups.map Escape.bars :=
    List.map_congr_left fun row member => rowCells_of_isMarkedRow (marked row member)
  have wide : ∀ row ∈ header :: rows, (row.cellMarkups.map Escape.bars).length = align.length :=
    fun row member => (List.length_map _).trans (fillsRow_of_isMarkedRow (marked row member)).length_eq
  have columns : (((header :: rows).map fun row => row.cellMarkups.map Escape.bars).map
      List.length).foldl max align.length = align.length := by
    refine foldl_max_eq fun length member => ?_
    rw [List.map_map] at member
    obtain ⟨row, isRow, rfl⟩ := List.mem_map.mp member
    exact Nat.le_of_eq (wide row isRow)
  have line : ∀ row ∈ header :: rows, rowText ((List.range align.length).map fun i =>
      (row.cellMarkups.map Escape.bars).getD i []) = Body.rowLine row.cellMarkups := by
    intro row member
    have whole := map_range_getD (row.cellMarkups.map Escape.bars) [] id
    rw [wide row member, List.map_id] at whole
    exact congrArg rowText whole
  obtain ⟨first, others⟩ := List.forall_mem_cons.mp line
  rw [tableText, cells]
  dsimp only
  rw [columns, List.map_cons]
  dsimp only
  rw [if_neg (by simpa using some), first, map_range_getD, List.map_map]
  have same : rows.map ((fun row => rowText ((List.range align.length).map fun i => row.getD i [])) ∘
      fun row => row.cellMarkups.map Escape.bars) =
        rows.map (Body.rowLine ∘ Node.cellMarkups) :=
    List.map_congr_left others
  rw [same, ← List.map_map]
  refine Text.lines_unlines (List.cons_ne_nil _ _) ?_
  simp only [List.forall_mem_cons, List.forall_mem_map]
  exact ⟨fun member => (isKept_of_mem_rowLine (marked header (.head _)) member).2 rfl,
    fun member => (isKept_of_mem_delimiters member).2 rfl,
    fun row isRow member => (isKept_of_mem_rowLine (marked row (.tail _ isRow)) member).2 rfl⟩

/-! ## Tables are recovered -/

theorem cellNodes_of_areMarked
    {context : Block.Context}
    (same : context.IsFor options)
    (expanded : Nat)
    {cells : List Node}
    (marked : ∀ cell ∈ cells, cell.isMarkedCell options = true) :
    Block.cellNodes context expanded (cells.map fun cell => Node.markups cell.children) =
      (cells, expanded) := by
  induction cells with
  | nil => rfl
  | cons cell others inductionHypothesis =>
      obtain ⟨first, rest⟩ := List.forall_mem_cons.mp marked
      have inside : Block.inlineNodes context false expanded (Node.markups cell.children) =
          (cell.children, expanded) ∧ cell = .tableCell cell.children := by
        obtain ⟨children, rfl, rfl | ⟨fit, -⟩⟩ := exists_of_isMarkedCell first
        · exact ⟨Reader.inlineNodes_nil context expanded, rfl⟩
        · exact ⟨fit.inlineNodes same expanded, rfl⟩
      rw [List.map_cons, Block.cellNodes, inside.1]
      dsimp only
      rw [inductionHypothesis rest, ← inside.2]

theorem rowNodes_of_areMarked
    {context : Block.Context}
    (same : context.IsFor options)
    (expanded : Nat)
    {columns : Nat}
    {rows : List Node}
    (marked : ∀ row ∈ rows, row.isMarkedRow options columns = true) :
    Block.rowNodes context expanded (rows.map Node.cellMarkups) = (rows, expanded) := by
  induction rows with
  | nil => rfl
  | cons row others inductionHypothesis =>
      obtain ⟨first, rest⟩ := List.forall_mem_cons.mp marked
      obtain ⟨cells, rfl, -, areMarked⟩ := exists_of_isMarkedRow first
      rw [List.map_cons, Block.rowNodes, Node.cellMarkups, Node.children,
        cellNodes_of_areMarked same expanded areMarked]
      dsimp only
      rw [inductionHypothesis rest]

/-- A table is recovered from its lines. -/
theorem recovers_table
    (marked : isMarkedTable options align rows = true) :
    Recovers options (.table align rows) (.table align rows) none
      (Text.lines (tableText align rows)) := by
  simp only [isMarkedTable, Bool.and_eq_true, Bool.not_eq_true', List.isEmpty_eq_false_iff,
    List.all_eq_true] at marked
  obtain ⟨⟨⟨on, some⟩, filled⟩, areMarked⟩ := marked
  obtain ⟨header, others, rfl⟩ := List.exists_cons_of_ne_nil filled
  have lines := lines_tableText some areMarked
  obtain ⟨headerMarked, othersMarked⟩ := List.forall_mem_cons.mp areMarked
  have shown : (Block.table align ((others.map Node.cellMarkups).reverse ++
      [header.cellMarkups]).reverse).ShowsAs options (.table align (header :: others)) := by
    intro context mayBeTask expanded same
    have nodes := rowNodes_of_areMarked same expanded areMarked
    rw [List.map_cons] at nodes
    rw [List.reverse_append, List.reverse_reverse, List.reverse_singleton, List.singleton_append,
      Block.toNodes, nodes]
  have fill : ∀ row ∈ others.map Node.cellMarkups, Body.FillsRow align row := by
    rw [List.forall_mem_map]
    exact fun row member => fillsRow_of_isMarkedRow (othersMarked row member)
  have reads := Body.reads_table some (fillsRow_of_isMarkedRow headerMarked)
    (fun member => (isKept_of_mem_rowLine headerMarked member).2 rfl) fill
  have opens : Opens none false 0 (Body.rowLine header.cellMarkups) := by
    have prose := Body.isProse_rowText (header.cellMarkups.map Escape.bars)
    refine .of_content? prose.isSolid (fun _ => prose.holdsMoreThanRule)
      fun cursor shows start begins => ?_
    rw [prose.start? shows] at begins
    cases begins
  rw [lines]
  refine ⟨⟨_, _, rfl, opens⟩, ⟨_, shown, fun closed => ⟨_, on ▸ reads closed,
    Body.completes_table _ closed align _, (absurd · Bool.false_ne_true)⟩⟩, ?_⟩
  simp only [List.forall_mem_cons, List.forall_mem_map]
  exact ⟨fun c member => (isKept_of_mem_rowLine headerMarked member).1,
    fun c member => (isKept_of_mem_delimiters member).1,
    fun row isRow c member => (isKept_of_mem_rowLine (othersMarked row isRow) member).1⟩

end Tables

end Markdown
end TwinEditor
