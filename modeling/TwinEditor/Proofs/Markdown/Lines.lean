import TwinEditor.Markdown.BlockPrinter
import TwinEditor.Markdown.Reader.Cursor

/-!
# The lines of a written text

How a text that was put together of lines is cut into lines again, by its writer and by its reader.
-/

namespace TwinEditor
namespace Text

/-! ## Cutting -/

@[simp] theorem lines_nil : lines [] = [[]] :=
  rfl

@[simp] theorem lines_newline_cons (text : List Char) : lines ('\n' :: text) = [] :: lines text :=
  rfl

theorem lines_ne_nil (text : List Char) : lines text ≠ [] :=
  splitAt_ne_nil '\n' text

/-- A character belongs to the first line of what follows it. -/
theorem lines_cons
    {c : Char}
    (plain : c ≠ '\n')
    {text line : List Char}
    {others : List (List Char)}
    (cut : lines text = line :: others) :
    lines (c :: text) = (c :: line) :: others := by
  rw [lines, splitAt, if_neg plain]
  rw [lines] at cut
  rw [cut]

theorem lines_append_newline (first second : List Char) :
    lines (first ++ '\n' :: second) = lines first ++ lines second := by
  induction first with
  | nil => rfl
  | cons c rest inductionHypothesis =>
      obtain ⟨line, others, cut⟩ := List.exists_cons_of_ne_nil (lines_ne_nil rest)
      rw [cut, List.cons_append] at inductionHypothesis
      by_cases newline : c = '\n'
      · subst newline
        rw [List.cons_append, lines_newline_cons, lines_newline_cons, inductionHypothesis, cut]
        rfl
      · rw [List.cons_append, lines_cons newline inductionHypothesis, lines_cons newline cut]
        rfl

theorem lines_of_notMem
    {text : List Char}
    (single : '\n' ∉ text) :
    lines text = [text] := by
  induction text with
  | nil => rfl
  | cons c rest inductionHypothesis =>
      rw [List.mem_cons, not_or] at single
      obtain ⟨first, others⟩ := single
      exact lines_cons (Ne.symm first) (inductionHypothesis others)

theorem notMem_of_mem_lines
    {text line : List Char}
    (member : line ∈ lines text) :
    '\n' ∉ line := by
  induction text generalizing line with
  | nil =>
      obtain rfl := List.mem_singleton.mp member
      exact List.not_mem_nil
  | cons c rest inductionHypothesis =>
      by_cases newline : c = '\n'
      · subst newline
        rcases List.mem_cons.mp member with rfl | member
        · exact List.not_mem_nil
        · exact inductionHypothesis member
      · obtain ⟨first, others, cut⟩ := List.exists_cons_of_ne_nil (lines_ne_nil rest)
        rw [lines_cons newline cut] at member
        rw [cut] at inductionHypothesis
        rcases List.mem_cons.mp member with rfl | member
        · rw [List.mem_cons, not_or]
          exact ⟨Ne.symm newline, inductionHypothesis (.head _)⟩
        · exact inductionHypothesis (.tail _ member)

/-! ## Putting together -/

@[simp] theorem unlines_singleton (line : List Char) : unlines [line] = line := by
  simp [unlines, List.intercalate]

theorem unlines_cons
    (line : List Char)
    {others : List (List Char)}
    (more : others ≠ []) :
    unlines (line :: others) = line ++ '\n' :: unlines others := by
  obtain ⟨next, rest, rfl⟩ := List.exists_cons_of_ne_nil more
  simp [unlines, List.intercalate, List.intersperse]

theorem unlines_concat
    {before : List (List Char)}
    (some : before ≠ [])
    (line : List Char) :
    unlines (before ++ [line]) = unlines before ++ '\n' :: line := by
  induction before with
  | nil => exact absurd rfl some
  | cons first rest inductionHypothesis =>
      by_cases last : rest = []
      · rw [last, List.singleton_append, unlines_cons first (List.cons_ne_nil line []),
          unlines_singleton, unlines_singleton]
      · rw [List.cons_append, unlines_cons first (List.append_ne_nil_of_left_ne_nil last _),
          unlines_cons first last, inductionHypothesis last, List.append_assoc, List.cons_append]

/-- Pieces that may hold several lines each are cut into all their lines. -/
theorem lines_unlines_eq_flatMap
    {pieces : List (List Char)}
    (some : pieces ≠ []) :
    lines (unlines pieces) = pieces.flatMap lines := by
  induction pieces with
  | nil => exact absurd rfl some
  | cons piece rest inductionHypothesis =>
      by_cases last : rest = []
      · subst last
        simp
      · rw [unlines_cons piece last, lines_append_newline, inductionHypothesis last]
        rfl

theorem lines_unlines
    {pieces : List (List Char)}
    (some : pieces ≠ [])
    (single : ∀ piece ∈ pieces, '\n' ∉ piece) :
    lines (unlines pieces) = pieces := by
  rw [lines_unlines_eq_flatMap some]
  induction pieces with
  | nil => rfl
  | cons piece rest inductionHypothesis =>
      obtain ⟨first, others⟩ := List.forall_mem_cons.mp single
      rw [List.flatMap_cons, lines_of_notMem first]
      by_cases last : rest = []
      · rw [last]
        rfl
      · rw [inductionHypothesis last others]
        rfl

/-! ## The ends of texts made of lines -/

theorem unlines_ne_nil
    {piece : List Char}
    (filled : piece ≠ [])
    (rest : List (List Char)) :
    unlines (piece :: rest) ≠ [] := by
  by_cases last : rest = []
  · rwa [last, unlines_singleton]
  · rw [unlines_cons piece last]
    exact List.append_ne_nil_of_left_ne_nil filled _

/-- A text that was put together of lines that are not empty ends as one of them does. -/
theorem exists_getLast?_of_unlines
    {pieces : List (List Char)}
    (filled : ∀ piece ∈ pieces, piece ≠ [])
    {c : Char}
    (isLast : c ∈ (unlines pieces).getLast?) :
    ∃ piece ∈ pieces, c ∈ piece.getLast? := by
  induction pieces with
  | nil => cases isLast
  | cons piece rest inductionHypothesis =>
      obtain ⟨first, others⟩ := List.forall_mem_cons.mp filled
      cases rest with
      | nil =>
          rw [unlines_singleton] at isLast
          exact ⟨piece, .head _, isLast⟩
      | cons next more =>
          have remains := unlines_ne_nil (others next (.head _)) more
          rw [unlines_cons piece (List.cons_ne_nil next more), List.getLast?_append,
            List.getLast?_cons_of_ne_nil remains] at isLast
          have isEnd := (Option.or_eq_some_iff.mp isLast).resolve_right fun none =>
            remains (List.getLast?_eq_none_iff.mp none.1)
          obtain ⟨found, member, isLast⟩ := inductionHypothesis others isEnd
          exact ⟨found, .tail _ member, isLast⟩

/-- A text without empty lines ends as one of its lines does. -/
theorem exists_getLast?_of_lines
    {text : List Char}
    (filled : ∀ line ∈ lines text, line ≠ [])
    {c : Char}
    (isLast : c ∈ text.getLast?) :
    ∃ line ∈ lines text, c ∈ line.getLast? := by
  rw [← unlines_lines text] at isLast
  exact exists_getLast?_of_unlines filled isLast

/-- A text without empty lines begins as one of its lines does. -/
theorem exists_head?_of_lines
    {text : List Char}
    (filled : ∀ line ∈ lines text, line ≠ [])
    {c : Char}
    (isFirst : c ∈ text.head?) :
    ∃ line ∈ lines text, c ∈ line.head? := by
  obtain ⟨line, others, cut⟩ := List.exists_cons_of_ne_nil (lines_ne_nil text)
  rw [← unlines_lines text, cut] at isFirst
  rw [cut] at filled ⊢
  obtain ⟨d, rest, rfl⟩ := List.exists_cons_of_ne_nil (filled line (.head _))
  refine ⟨_, .head _, ?_⟩
  by_cases last : others = []
  · rwa [last, unlines_singleton] at isFirst
  · rwa [unlines_cons _ last] at isFirst

/-! ## Trimming -/

theorem trimStart_eq_self
    {p : Char → Bool}
    {text : List Char}
    (keeps : ∀ c ∈ text.head?, p c = false) :
    trimStart p text = text := by
  cases text with
  | nil => rfl
  | cons c rest => exact List.dropWhile_cons_of_neg (by simp [keeps c rfl])

theorem trimEnd_concat_of_neg
    {p : Char → Bool}
    {c : Char}
    (keeps : p c = false)
    (text : List Char) :
    trimEnd p (text ++ [c]) = text ++ [c] := by
  simp [trimEnd, keeps]

theorem trimEnd_concat_of_pos
    {p : Char → Bool}
    {c : Char}
    (goes : p c = true)
    (text : List Char) :
    trimEnd p (text ++ [c]) = trimEnd p text := by
  simp [trimEnd, goes]

theorem trimEnd_eq_self
    {p : Char → Bool}
    {text : List Char}
    (keeps : ∀ c ∈ text.getLast?, p c = false) :
    trimEnd p text = text := by
  rcases List.eq_nil_or_concat text with rfl | ⟨start, c, rfl⟩
  · rfl
  · rw [List.concat_eq_append] at keeps ⊢
    exact trimEnd_concat_of_neg (keeps c (by simp)) start

theorem trim_eq_self
    {p : Char → Bool}
    {text : List Char}
    (keepsFirst : ∀ c ∈ text.head?, p c = false)
    (keepsLast : ∀ c ∈ text.getLast?, p c = false) :
    trim p text = text := by
  rw [trim, trimStart_eq_self keepsFirst, trimEnd_eq_self keepsLast]

end Text

namespace Markdown
namespace Reader

theorem sourceLines_go_append_newline
    {text : List Char}
    (noReturn : '\r' ∉ text)
    {before line : List Char}
    {others : List (List Char)}
    (cut : Text.lines text = line :: others) :
    sourceLines.go before (text ++ ['\n']) = (before.reverse ++ line) :: others := by
  induction text generalizing before line others with
  | nil =>
      obtain ⟨rfl, rfl⟩ := List.cons.inj cut
      simp [sourceLines.go]
  | cons c rest inductionHypothesis =>
      rw [List.mem_cons, not_or] at noReturn
      obtain ⟨first, none⟩ := noReturn
      obtain ⟨next, more, cut'⟩ := List.exists_cons_of_ne_nil (Text.lines_ne_nil rest)
      by_cases newline : c = '\n'
      · subst newline
        rw [Text.lines_newline_cons] at cut
        obtain ⟨rfl, rfl⟩ := List.cons.inj cut
        rw [List.cons_append, sourceLines.go]
        · rw [if_pos (.inl rfl), inductionHypothesis none cut', cut']
          simp
        · exact nofun
      · rw [Text.lines_cons newline cut'] at cut
        obtain ⟨rfl, rfl⟩ := List.cons.inj cut
        rw [List.cons_append, sourceLines.go]
        · rw [if_neg (not_or.mpr ⟨newline, Ne.symm first⟩), inductionHypothesis none cut']
          simp
        · exact fun _ isReturn => absurd isReturn.symm first

/-- A reader finds the lines of a text that ends in a line feed. -/
theorem sourceLines_append_newline
    {text : List Char}
    (noReturn : '\r' ∉ text) :
    sourceLines (text ++ ['\n']) = Text.lines text := by
  obtain ⟨line, others, cut⟩ := List.exists_cons_of_ne_nil (Text.lines_ne_nil text)
  rw [sourceLines, sourceLines_go_append_newline noReturn cut, cut]
  rfl

/-- A text without NUL characters and without a byte order mark at its start is read as it is. -/
theorem cleanSource_eq_self
    {text : List Char}
    (noNul : ∀ c ∈ text, c.toNat ≠ 0)
    (noMark : ∀ c ∈ text.head?, c.toNat ≠ 0xFEFF) :
    cleanSource text = text := by
  have replaced : (text.map fun c => if c.toNat = 0 then Char.ofNat 0xFFFD else c) = text := by
    exact (List.map_congr_left fun c member => if_neg (noNul c member)).trans (List.map_id' text)
  rw [cleanSource, replaced]
  cases text with
  | nil => rfl
  | cons c rest => exact if_neg (noMark c rfl)

end Reader
end Markdown
end TwinEditor
