import TwinEditor.Markdown.Reader.Cursor

/-!
# Cursors at written lines

A line of a written document is seen by a reader at some column behind the prefixes of its containers.
Nothing here depends on that column.
-/

namespace TwinEditor
namespace Markdown
namespace Reader

/-- A cursor at the start of a line, at whatever column. -/
def Cursor.Shows (line : List Char) (cursor : Cursor) : Prop :=
  ∃ column, cursor = ⟨column, false, line⟩

/-- A line that is not empty and does not begin with a space or a tab. -/
def IsSolid (line : List Char) : Prop :=
  ∃ c rest, line = c :: rest ∧ Text.isSpaceOrTab c = false

theorem IsSolid.ne_nil
    {line : List Char}
    (solid : IsSolid line) :
    line ≠ [] := by
  obtain ⟨c, rest, rfl, -⟩ := solid
  exact List.cons_ne_nil c rest

namespace Cursor

variable {line : List Char} {cursor : Cursor}

/-! ## Passing over the start of a line -/

theorem skipBlanksFrom_of_isSolid
    (solid : IsSolid line)
    (column : Nat) :
    skipBlanksFrom column line = ⟨column, false, line⟩ := by
  obtain ⟨c, rest, rfl, visible⟩ := solid
  rw [skipBlanksFrom]
  · rintro _ ⟨⟩
    exact absurd visible (by decide)
  · rintro _ ⟨⟩
    exact absurd visible (by decide)

@[simp] theorem skipBlanksFrom_nil (column : Nat) :
    skipBlanksFrom column [] = ⟨column, false, []⟩ :=
  rfl

theorem column_le_skipBlanksFrom
    (column : Nat)
    (line : List Char) :
    column ≤ (skipBlanksFrom column line).column := by
  fun_induction skipBlanksFrom column line with
  | case1 column rest inductionHypothesis => omega
  | case2 column rest inductionHypothesis => omega
  | case3 column rest => exact Nat.le_refl column

theorem skipBlanksFrom_replicate
    (count column : Nat)
    (line : List Char) :
    skipBlanksFrom column (List.replicate count ' ' ++ line) =
      skipBlanksFrom (column + count) line := by
  induction count generalizing column with
  | zero => rfl
  | succ count inductionHypothesis =>
      rw [List.replicate_succ, List.cons_append, skipBlanksFrom, inductionHypothesis]
      congr 1
      omega

theorem dropColumnsFrom_replicate
    (count column : Nat)
    (line : List Char) :
    dropColumnsFrom column false count (List.replicate count ' ' ++ line) =
      ⟨column + count, false, line⟩ := by
  induction count generalizing column with
  | zero => cases line <;> rfl
  | succ count inductionHypothesis =>
      rw [List.replicate_succ, List.cons_append, dropColumnsFrom, inductionHypothesis]
      · congr 1
        omega
      · exact nofun

theorem advance_append
    {start : List Char}
    (noTab : '\t' ∉ start)
    (column : Nat)
    (line : List Char) :
    advance start.length ⟨column, false, start ++ line⟩ = ⟨column + start.length, false, line⟩ := by
  induction start generalizing column with
  | nil => rfl
  | cons c rest inductionHypothesis =>
      rw [List.mem_cons, not_or] at noTab
      obtain ⟨first, others⟩ := noTab
      rw [List.length_cons, advance, List.cons_append, next, inductionHypothesis others]
      · congr 1
        omega
      · exact fun isTab => first isTab.symm

/-- A cursor at an indented line stands behind the indentation once that is dropped. -/
theorem shows_dropColumns_replicate
    {count : Nat}
    (shows : cursor.Shows (List.replicate count ' ' ++ line)) :
    (cursor.dropColumns count).Shows line := by
  obtain ⟨column, rfl⟩ := shows
  exact ⟨column + count, dropColumnsFrom_replicate count column line⟩

theorem le_indent_of_shows_replicate
    {count : Nat}
    (shows : cursor.Shows (List.replicate count ' ' ++ line)) :
    count ≤ cursor.indent := by
  obtain ⟨column, rfl⟩ := shows
  have reached := column_le_skipBlanksFrom (column + count) line
  rw [indent, skipBlanks, skipBlanksFrom_replicate]
  dsimp only
  omega

section Solid

variable (solid : IsSolid line) (shows : cursor.Shows line)
include solid shows

theorem skipBlanks_of_isSolid : cursor.skipBlanks = cursor := by
  obtain ⟨column, rfl⟩ := shows
  exact skipBlanksFrom_of_isSolid solid column

theorem indent_of_isSolid : cursor.indent = 0 := by
  rw [indent, skipBlanks_of_isSolid solid shows]
  exact Nat.sub_self _

theorem isIndented_of_isSolid : cursor.isIndented = false := by
  rw [isIndented, indent_of_isSolid solid shows]
  rfl

theorem isBlank_of_isSolid : cursor.isBlank = false := by
  obtain ⟨column, rfl⟩ := shows
  obtain ⟨c, rest, rfl, visible⟩ := solid
  rw [isBlank, skipBlanks_of_isSolid ⟨c, rest, rfl, visible⟩ ⟨column, rfl⟩]
  rfl

end Solid

section Empty

variable (shows : cursor.Shows [])
include shows

theorem skipBlanks_of_empty : cursor.skipBlanks = cursor := by
  obtain ⟨column, rfl⟩ := shows
  rfl

theorem indent_of_empty : cursor.indent = 0 := by
  rw [indent, skipBlanks_of_empty shows]
  exact Nat.sub_self _

theorem isBlank_of_empty : cursor.isBlank = true := by
  obtain ⟨column, rfl⟩ := shows
  rfl

end Empty
end Cursor

end Reader
end Markdown
end TwinEditor
