import Mathlib.Algebra.Ring.Nat
import TwinEditor.Proofs.Markdown.BareBars
import TwinEditor.Proofs.Markdown.Tables

/-!
# The grid of a written table

A table is written with one line for each row and a delimiter row behind the first. Cut at the bars that
are not behind a backslash, every line has a cell for each column, and the cells are those of the row. A
bar that code, a destination or raw HTML brings into a cell is not behind a backslash: it cuts the cell
in two.
-/

namespace TwinEditor
namespace Markdown

open Text

/-! ## Cutting lines -/

/-- The pieces of a text between the bars that are not behind a backslash, where `escaped` says whether
the text is behind one. -/
def barPieces (escaped : Bool) : List Char → List (List Char)
  | [] => [[]]
  | c :: rest =>
      if c = '|' ∧ escaped = false then [] :: barPieces false rest
      else (barPieces (c == '\\') rest).modifyHead (c :: ·)

/-- The cells of a line that begins and ends with a bar. -/
def lineCells (line : List Char) : List (List Char) :=
  (barPieces false line).tail.dropLast

/-- A cell as it stands between two bars. -/
def spaced (cell : List Char) : List Char :=
  ' ' :: (cell ++ [' '])

theorem length_barPieces
    (escaped : Bool)
    (text : List Char) :
    (barPieces escaped text).length = bareBars escaped text + 1 := by
  induction text generalizing escaped with
  | nil => rfl
  | cons c rest inductionHypothesis =>
      rw [barPieces, bareBars]
      split
      · next isBar =>
          have plain : (c == '\\') = false := by
            rw [isBar.1]
            rfl
          rw [List.length_cons, inductionHypothesis, plain, Nat.add_comm 1]
      · rw [List.length_modifyHead, inductionHypothesis, Nat.zero_add]

/-- The first bar that is not behind a backslash ends the first piece. -/
theorem barPieces_append_bar
    {escaped : Bool}
    {text : List Char}
    (noBar : bareBars escaped text = 0)
    (unescaped : escapesNext escaped text = false)
    (rest : List Char) :
    barPieces escaped (text ++ '|' :: rest) = text :: barPieces false rest := by
  induction text generalizing escaped with
  | nil => rw [List.nil_append, barPieces, if_pos ⟨rfl, unescaped⟩]
  | cons c others inductionHypothesis =>
      rw [bareBars, Nat.add_eq_zero_iff, ite_eq_right_iff] at noBar
      rw [List.cons_append, barPieces, if_neg fun isBar => absurd (noBar.1 isBar) Nat.one_ne_zero,
        inductionHypothesis noBar.2 unescaped, List.modifyHead_cons]

/-! ## Cutting rows -/

theorem escapesNext_spaced
    (escaped : Bool)
    (cell : List Char) :
    escapesNext escaped (spaced cell) = false := by
  rw [spaced, ← List.cons_append, escapesNext_concat]
  rfl

theorem bareBars_spaced (cell : List Char) : bareBars false (spaced cell) = bareBars false cell :=
  bareBars_enclosed [' '] [' '] (by decide) (by decide) rfl cell

/-- A row is written as its cells with a bar before the first and one behind each. -/
theorem rowText_eq_flatMap
    {cells : List (List Char)}
    (some : cells ≠ []) :
    rowText cells = '|' :: cells.flatMap fun cell => spaced cell ++ ['|'] := by
  induction cells with
  | nil => exact absurd rfl some
  | cons cell rest inductionHypothesis =>
      by_cases last : rest = []
      · subst last
        simp [rowText, spaced]
      · obtain ⟨next, more, rfl⟩ := List.exists_cons_of_ne_nil last
        have others := inductionHypothesis last
        rw [rowText, List.append_assoc, List.cons_append, List.cons.injEq] at others
        rw [List.flatMap_cons, ← others.2, rowText, List.intercalate_cons_cons]
        simp [spaced]

theorem barPieces_flatMap
    {cells : List (List Char)}
    (noBar : ∀ cell ∈ cells, bareBars false cell = 0) :
    barPieces false (cells.flatMap fun cell => spaced cell ++ ['|']) = cells.map spaced ++ [[]] := by
  induction cells with
  | nil => rfl
  | cons cell rest inductionHypothesis =>
      obtain ⟨first, others⟩ := List.forall_mem_cons.mp noBar
      rw [List.flatMap_cons, List.append_assoc, List.singleton_append,
        barPieces_append_bar ((bareBars_spaced cell).trans first) (escapesNext_spaced false cell),
        inductionHypothesis others, List.map_cons, List.cons_append]

/-- A row whose bars are all behind backslashes is cut into its cells. -/
theorem lineCells_rowText
    {cells : List (List Char)}
    (some : cells ≠ [])
    (noBar : ∀ cell ∈ cells, bareBars false cell = 0) :
    lineCells (rowText cells) = cells.map spaced := by
  rw [lineCells, rowText_eq_flatMap some, ← List.nil_append ('|' :: _), barPieces_append_bar rfl rfl,
    barPieces_flatMap noBar, List.tail_cons, List.dropLast_concat]

theorem bareBars_flatMap (cells : List (List Char)) :
    bareBars false (cells.flatMap fun cell => spaced cell ++ ['|']) =
      cells.length + (cells.map (bareBars false)).sum := by
  induction cells with
  | nil => rfl
  | cons cell rest inductionHypothesis =>
      have behind : escapesNext false (spaced cell ++ ['|']) = false := escapesNext_concat ..
      have bar : bareBars false ['|'] = 1 := rfl
      rw [List.flatMap_cons, bareBars_append, behind, inductionHypothesis, bareBars_append,
        bareBars_spaced, escapesNext_spaced, bar, List.length_cons, List.map_cons, List.sum_cons]
      omega

/-- Every bar of a cell that is not behind a backslash cuts the row once more. -/
theorem length_lineCells_rowText
    {cells : List (List Char)}
    (some : cells ≠ []) :
    (lineCells (rowText cells)).length = cells.length + (cells.map (bareBars false)).sum := by
  have bar : bareBars false ['|'] = 1 := rfl
  rw [lineCells, rowText_eq_flatMap some, List.length_dropLast, List.length_tail, length_barPieces,
    ← List.singleton_append, bareBars_append, bar]
  change 1 + bareBars false _ + 1 - 1 - 1 = _
  rw [bareBars_flatMap]
  omega

/-! ## Cells -/

theorem bareBars_onOneLine
    (escaped : Bool)
    (text : List Char) :
    bareBars escaped (onOneLine text) = bareBars escaped text := by
  induction text generalizing escaped with
  | nil => rfl
  | cons c rest inductionHypothesis =>
      rw [onOneLine] at inductionHypothesis ⊢
      rw [List.map_cons, bareBars, bareBars, inductionHypothesis]
      split
      · next newline =>
          subst newline
          rfl
      · rfl

theorem newline_notMem_onOneLine (text : List Char) : '\n' ∉ onOneLine text := by
  intro member
  obtain ⟨c, -, turned⟩ := List.mem_map.mp member
  split at turned
  · cases turned
  · next other => exact other turned

theorem mem_of_mem_trim
    {p : Char → Bool}
    {text : List Char}
    {c : Char}
    (member : c ∈ trim p text) :
    c ∈ text := by
  rw [trim, trimEnd, List.mem_reverse] at member
  have fromStart := List.mem_reverse.mp ((List.dropWhile_sublist p).subset member)
  exact (List.dropWhile_sublist p).subset fromStart

theorem bareBars_trim (text : List Char) : bareBars false (trim isBlank text) = bareBars false text := by
  obtain ⟨behind, cut, blankBehind⟩ := exists_trimmed isBlank (trimStart isBlank text)
  have before : ∀ c ∈ text.takeWhile isBlank, isBlank c = true :=
    fun c member => List.mem_takeWhile_imp member
  have padded := bareBars_padded before (.of_blank blankBehind) (trim isBlank text)
  rw [trim, ← cut, trimStart, List.takeWhile_append_dropWhile] at padded
  exact padded.symm

namespace Node

/-- What a cell of a table is written as: its content on one line, without white space around it. -/
def cellText (cell : Node) : List Char :=
  trim isBlank (onOneLine (inlineText true cell.children))

/-- The number of bars that code, destinations and raw HTML bring into the cells of a row. -/
def rowRawBars (row : Node) : Nat :=
  (row.children.map fun cell => allRawBars cell.children).sum

theorem newline_notMem_cellText (cell : Node) : '\n' ∉ cell.cellText :=
  fun member => newline_notMem_onOneLine _ (mem_of_mem_trim member)

theorem brings_cellText
    (exact : Bool)
    (cell : Node)
    (free : exact = true → areFreeOfHtml cell.children = true) :
    bareBars false cell.cellText ≤ allRawBars cell.children ∧
      (exact = true → bareBars false cell.cellText = allRawBars cell.children) := by
  have brings := brings_inlineText free
  rw [cellText, bareBars_trim, bareBars_onOneLine]
  exact ⟨brings.le false, fun isExact => brings.eq isExact false⟩

end Node

/-! ## Rows of a table -/

/-- The number of columns of a table: the length of its widest row or of its list of alignments. -/
def columnCount (align : List Alignment) (rows : List Node) : Nat :=
  (rows.map fun row => row.children.length).foldl max align.length

/-- The cells of a row in a table of some columns, empty where the row is short. -/
def filledCells (columns : Nat) (row : Node) : List (List Char) :=
  (List.range columns).map fun i => (rowCells row).getD i []

/-- The cells of the delimiter row in a table of some columns. -/
def delimiterCells (align : List Alignment) (columns : Nat) : List (List Char) :=
  (List.range columns).map fun i => alignmentText (align.getD i .none)

theorem le_foldl_max
    (lengths : List Nat)
    (most : Nat) :
    most ≤ lengths.foldl max most ∧ ∀ length ∈ lengths, length ≤ lengths.foldl max most := by
  induction lengths generalizing most with
  | nil => exact ⟨Nat.le_refl most, nofun⟩
  | cons length rest inductionHypothesis =>
      obtain ⟨most_le, rest_le⟩ := inductionHypothesis (max most length)
      exact ⟨(Nat.le_max_left ..).trans most_le,
        List.forall_mem_cons.mpr ⟨(Nat.le_max_right ..).trans most_le, rest_le⟩⟩

theorem length_children_le_columnCount
    (align : List Alignment)
    {rows : List Node}
    {row : Node}
    (member : row ∈ rows) :
    row.children.length ≤ columnCount align rows :=
  (le_foldl_max _ align.length).2 _ (List.mem_map_of_mem member)

theorem filledCells_eq
    {columns : Nat}
    {row : Node}
    (fits : row.children.length ≤ columns) :
    filledCells columns row = row.children.map Node.cellText ++
      List.replicate (columns - row.children.length) [] := by
  have length_eq : (rowCells row).length = row.children.length := List.length_map _
  refine List.ext_getElem (by simp [filledCells, fits]) fun i bounded _ => ?_
  simp only [filledCells, List.getElem_map, List.getElem_range, List.getD_eq_getElem?_getD]
  by_cases inside : i < row.children.length
  · rw [List.getElem_append_left (by simpa using inside), List.getElem?_eq_getElem (by omega)]
    rfl
  · rw [List.getElem_append_right (by simpa using inside), List.getElem_replicate,
      List.getElem?_eq_none (by omega)]
    rfl

theorem newline_notMem_of_mem_filledCells
    {columns : Nat}
    {row : Node}
    {cell : List Char}
    (member : cell ∈ filledCells columns row) :
    '\n' ∉ cell := by
  obtain ⟨i, -, rfl⟩ := List.mem_map.mp member
  rw [List.getD_eq_getElem?_getD]
  cases found : (rowCells row)[i]? with
  | none => nofun
  | some written =>
      obtain ⟨source, -, rfl⟩ := List.mem_map.mp (List.mem_of_getElem? found)
      exact source.newline_notMem_cellText

theorem newline_notMem_of_mem_delimiterCells
    {align : List Alignment}
    {columns : Nat}
    {cell : List Char}
    (member : cell ∈ delimiterCells align columns) :
    '\n' ∉ cell := by
  obtain ⟨i, -, rfl⟩ := List.mem_map.mp member
  cases align.getD i .none <;> decide

theorem newline_notMem_rowText
    {cells : List (List Char)}
    (single : ∀ cell ∈ cells, '\n' ∉ cell) :
    '\n' ∉ rowText cells := by
  intro member
  rcases mem_rowText member with isBar | isSpace | ⟨cell, isCell, member⟩
  · cases isBar
  · cases isSpace
  · exact single cell isCell member

/-- The bars of the cells that fill a row are those of the cells it has. -/
theorem sum_bareBars_filledCells
    {columns : Nat}
    {row : Node}
    (fits : row.children.length ≤ columns) :
    ((filledCells columns row).map (bareBars false)).sum =
      (row.children.map fun cell => bareBars false cell.cellText).sum := by
  have none : ((List.replicate (columns - row.children.length) []).map (bareBars false)).sum = 0 := by
    rw [List.map_replicate, bareBars, List.sum_replicate_nat, Nat.mul_zero]
  rw [filledCells_eq fits, List.map_append, List.sum_append, none, List.map_map]
  rfl

/-! ## The grid -/

section Grid

variable {align : List Alignment} {header row : Node} {body : List Node} {columns : Nat}

/-- The lines of a table with at least one column: its first row, the delimiter row and the other
rows. -/
theorem lines_tableText_of_pos
    (wide : 0 < columnCount align (header :: body)) :
    lines (tableText align (header :: body)) =
      rowText (filledCells (columnCount align (header :: body)) header) ::
        rowText (delimiterCells align (columnCount align (header :: body))) ::
          body.map fun row => rowText (filledCells (columnCount align (header :: body)) row) := by
  have count : ((rowCells header :: body.map rowCells).map List.length).foldl max align.length =
      columnCount align (header :: body) := by
    rw [← List.map_cons, List.map_map, columnCount]
    exact congrArg _ (List.map_congr_left fun row _ => List.length_map _)
  rw [tableText, List.map_cons]
  dsimp only
  rw [count, if_neg wide.ne', List.map_map]
  refine lines_unlines (List.cons_ne_nil _ _) ?_
  simp only [List.forall_mem_cons, List.forall_mem_map]
  exact ⟨newline_notMem_rowText fun _ member => newline_notMem_of_mem_filledCells member,
    newline_notMem_rowText fun _ member => newline_notMem_of_mem_delimiterCells member,
    fun row _ => newline_notMem_rowText fun _ member => newline_notMem_of_mem_filledCells member⟩

theorem lineCells_delimiters
    (wide : 0 < columns) :
    lineCells (rowText (delimiterCells align columns)) = (delimiterCells align columns).map spaced := by
  refine lineCells_rowText (by simpa [delimiterCells] using wide.ne') fun cell member => ?_
  obtain ⟨i, -, rfl⟩ := List.mem_map.mp member
  cases align.getD i .none <;> rfl

theorem filledCells_ne_nil
    (wide : 0 < columns) :
    filledCells columns row ≠ [] := by
  simpa [filledCells] using wide.ne'

/-- Without bars of code, destinations and raw HTML a line is cut into the cells of its row. -/
theorem lineCells_of_rowRawBars_eq_zero
    (wide : 0 < columns)
    (fits : row.children.length ≤ columns)
    (noBar : row.rowRawBars = 0) :
    lineCells (rowText (filledCells columns row)) = (filledCells columns row).map spaced := by
  refine lineCells_rowText (filledCells_ne_nil wide) fun cell member => ?_
  rw [filledCells_eq fits, List.mem_append, List.mem_map] at member
  rcases member with ⟨source, isCell, rfl⟩ | filler
  · have bars := List.sum_eq_zero_iff_forall_eq_nat.mp noBar _ (List.mem_map_of_mem isCell)
    have brings := Node.brings_cellText false source nofun
    exact Nat.le_zero.mp (bars ▸ brings.1)
  · rw [List.eq_of_mem_replicate filler]
    rfl

/-- Every bar of code and destinations cuts a line once more. -/
theorem length_lineCells_of_areFreeOfHtml
    (wide : 0 < columns)
    (fits : row.children.length ≤ columns)
    (free : ∀ cell ∈ row.children, Node.areFreeOfHtml cell.children = true) :
    (lineCells (rowText (filledCells columns row))).length = columns + row.rowRawBars := by
  have bars : (row.children.map fun cell => bareBars false cell.cellText) =
      row.children.map fun cell => Node.allRawBars cell.children :=
    List.map_congr_left fun cell member =>
      (Node.brings_cellText true cell fun _ => free cell member).2 rfl
  rw [length_lineCells_rowText (filledCells_ne_nil wide), sum_bareBars_filledCells fits, bars]
  exact congrArg (· + row.rowRawBars) (by simp [filledCells])

/-- A table with at least one column is written on one line for each row, with the delimiter row behind the
first. Cut at the bars that are not behind a backslash, every line has a cell for each column of the table
and these are the cells of its row, unless code, destinations or raw HTML bring bars into the row. Every
such bar makes a further cell, except that one at the beginning of raw HTML may be hidden by what is
written before it. -/
theorem tableText_grid
    (count : columnCount align (header :: body) = columns)
    (wide : 0 < columns) :
    lines (tableText align (header :: body)) =
        rowText (filledCells columns header) :: rowText (delimiterCells align columns) ::
          body.map (fun row => rowText (filledCells columns row)) ∧
      lineCells (rowText (delimiterCells align columns)) =
        (delimiterCells align columns).map spaced ∧
      ∀ row ∈ header :: body,
        (row.rowRawBars = 0 →
          lineCells (rowText (filledCells columns row)) = (filledCells columns row).map spaced) ∧
        ((∀ cell ∈ row.children, Node.areFreeOfHtml cell.children = true) →
          (lineCells (rowText (filledCells columns row))).length = columns + row.rowRawBars) := by
  subst count
  refine ⟨lines_tableText_of_pos wide, lineCells_delimiters wide, fun row member => ?_⟩
  have fits := length_children_le_columnCount align member
  exact ⟨lineCells_of_rowRawBars_eq_zero wide fits, length_lineCells_of_areFreeOfHtml wide fits⟩

/-- Escaped bars of texts and a missing cell leave the grid as it is. -/
theorem tableText_grid_of_ragged_rows :
    let header := Node.tableRow [.tableCell [.text "a|b"], .tableCell [.strong [.text "|"]]]
    let row := Node.tableRow [.tableCell [.inlineCode "c"]]
    (lines (tableText [.left] [header, row])).map lineCells =
      [[" a\\|b ", " **\\|** "].map String.toList, [" :-- ", " --- "].map String.toList,
        [" \x60c\x60 ", "  "].map String.toList] := by
  intro header row
  have count : columnCount [.left] [header, row] = 2 := by decide
  obtain ⟨written, delimiters, cells⟩ := tableText_grid count (by decide)
  obtain ⟨first, second, -⟩ := List.forall_mem_cons.mp cells |>.imp_right List.forall_mem_cons.mp
  rw [written, List.map_cons, List.map_cons, List.map_singleton, List.map_singleton, delimiters,
    first.1 (by decide +kernel), second.1 (by decide +kernel)]
  decide +kernel

/-- A bar of code makes a second cell in a table of one column. -/
theorem bar_of_code_adds_cell :
    let row := Node.tableRow [.tableCell [.inlineCode "a|b"]]
    columnCount [] [row] = 1 ∧
      (lines (tableText [] [row])).map lineCells =
        [[" \x60a", "b\x60 "].map String.toList, [" --- ".toList]] := by
  decide +kernel

end Grid

end Markdown
end TwinEditor
