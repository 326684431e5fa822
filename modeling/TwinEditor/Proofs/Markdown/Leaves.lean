import TwinEditor.Proofs.Markdown.Containers

/-!
# Reading blocks of text

How the lines of a heading, a rule, a code block or a paragraph are read where nothing is open, and what
stands there afterwards.
-/

namespace TwinEditor
namespace Text

theorem isInfix_unlines
    {pieces : List (List Char)}
    {piece : List Char}
    (member : piece ∈ pieces) :
    piece <:+: unlines pieces := by
  induction pieces with
  | nil => cases member
  | cons first rest inductionHypothesis =>
      by_cases last : rest = []
      · subst last
        obtain rfl := List.mem_singleton.mp member
        exact (unlines_singleton piece).symm ▸ List.infix_refl piece
      · rw [unlines_cons first last]
        rcases List.mem_cons.mp member with rfl | member
        · exact (List.prefix_append piece _).isInfix
        · exact (inductionHypothesis member).trans
            ((List.suffix_cons '\n' _).trans (List.suffix_append first _)).isInfix

/-- Every line of a text is a stretch of it. -/
theorem isInfix_of_mem_lines
    {text line : List Char}
    (member : line ∈ lines text) :
    line <:+: text := by
  rw [← unlines_lines text]
  exact isInfix_unlines member

/-- Lines that each end in a line feed. -/
theorem flatMap_lines (text : List Char) :
    (lines text).flatMap (· ++ ['\n']) = text ++ ['\n'] := by
  induction text with
  | nil => rfl
  | cons c rest inductionHypothesis =>
      obtain ⟨first, others, cut⟩ := List.exists_cons_of_ne_nil (lines_ne_nil rest)
      rw [cut] at inductionHypothesis
      by_cases newline : c = '\n'
      · subst newline
        rw [lines_newline_cons, List.flatMap_cons, cut, inductionHypothesis]
        rfl
      · rw [lines_cons newline cut]
        exact congrArg (List.cons c) inductionHypothesis

theorem le_longestRun_go
    (target : Char)
    (longest current : Nat)
    (text : List Char) :
    longest ≤ longestRun.go target longest current text := by
  fun_induction longestRun.go target longest current text with
  | case1 longest current => exact Nat.le_refl longest
  | case2 longest current rest inductionHypothesis =>
      exact Nat.le_trans (Nat.le_max_left _ _) inductionHypothesis
  | case3 longest current c rest other inductionHypothesis => exact inductionHypothesis

theorem add_le_longestRun_go
    {target : Char}
    {longest current : Nat}
    (counted : current ≤ longest)
    (length : Nat)
    (rest : List Char) :
    current + length ≤
      longestRun.go target longest current (List.replicate length target ++ rest) := by
  induction length generalizing longest current with
  | zero => exact Nat.le_trans counted (le_longestRun_go target longest current rest)
  | succ length inductionHypothesis =>
      rw [List.replicate_succ, List.cons_append, longestRun.go, if_pos rfl,
        ← Nat.add_assoc, Nat.add_right_comm]
      exact inductionHypothesis (Nat.le_max_right _ _)

/-- No run of a character in a text is longer than the longest. -/
theorem le_longestRun
    {target : Char}
    {length : Nat}
    {text : List Char}
    (run : List.replicate length target <:+: text) :
    length ≤ longestRun target text := by
  obtain ⟨before, after, rfl⟩ := run
  have counted {longest current : Nat} (counted : current ≤ longest) :
      length ≤ longestRun.go target longest current
        (before ++ List.replicate length target ++ after) := by
    induction before generalizing longest current with
    | nil => exact Nat.le_trans (Nat.le_add_left _ _) (add_le_longestRun_go counted length after)
    | cons c rest inductionHypothesis =>
        rw [List.cons_append, List.cons_append, longestRun.go]
        split
        · exact inductionHypothesis (Nat.le_max_right _ _)
        · exact inductionHypothesis (Nat.zero_le _)
  exact counted (Nat.le_refl 0)

end Text

namespace Markdown
namespace Reader
namespace Body

variable {tables : Bool} {closed : List Block} {cursor : Cursor} {line : List Char}

/-! ## Headings and rules -/

/-- A block that is finished on its last line is complete. -/
theorem completes_of_closed
    {block : Block}
    (visible : block.isVisible = true)
    (tables : Bool)
    (closed : List Block) :
    Completes tables (block :: closed) none ⟨block :: closed, .none⟩ := by
  refine ⟨rfl, ?_, ⟨block :: closed, .none⟩, fun cursor shows => ?_, trivial, rfl, rfl⟩
  · rw [HasChild, OpenBlock.hasChild, List.any_cons, visible, Bool.true_or]
  · rw [next_of_not_start? (start?_of_rest_eq_nil (congrArg Cursor.rest shows.choose_spec) _ _),
      ofText, Cursor.isBlank_of_empty shows, if_pos rfl]

theorem reads_heading
    {depth : Nat}
    (positive : 1 ≤ depth)
    {text : List Char}
    (isHeading : heading? (List.replicate depth '#' ++ line) = some (depth, text))
    (tables : Bool)
    (closed : List Block) :
    Reads tables ⟨closed, .none⟩ [List.replicate depth '#' ++ line]
      ⟨.heading depth text :: closed, .none⟩ := by
  refine .cons _ (fun cursor shows => ?_) (fun isEmpty => ?_) (.nil _)
  · rw [next_of_start? (start?_heading positive isHeading shows), begin]
  · rw [List.append_eq_nil_iff, List.replicate_eq_nil_iff] at isEmpty
    omega

theorem reads_rule
    (tables : Bool)
    (closed : List Block) :
    Reads tables ⟨closed, .none⟩ [['*', '*', '*']] ⟨.rule :: closed, .none⟩ := by
  refine .cons _ (fun cursor shows => ?_) nofun (.nil _)
  rw [next_of_start? (start?_rule shows), begin]

/-! ## Code -/

theorem rest_skipBlanksFrom
    (column : Nat)
    (line : List Char) :
    (Cursor.skipBlanksFrom column line).rest = line.dropWhile Text.isSpaceOrTab := by
  fun_induction Cursor.skipBlanksFrom column line with
  | case1 column rest inductionHypothesis =>
      rw [inductionHypothesis, List.dropWhile_cons_of_pos (by decide)]
  | case2 column rest inductionHypothesis =>
      rw [inductionHypothesis, List.dropWhile_cons_of_pos (by decide)]
  | case3 column line noSpace noTab =>
      cases line with
      | nil => rfl
      | cons c rest =>
          have visible : Text.isSpaceOrTab c = false := by
            rw [Text.isSpaceOrTab, Bool.or_eq_false_iff, beq_eq_false_iff_ne, beq_eq_false_iff_ne]
            exact ⟨fun isSpace => noSpace rest (isSpace ▸ rfl), fun isTab => noTab rest (isTab ▸ rfl)⟩
          rw [List.dropWhile_cons_of_neg (by simp [visible])]

/-- A line of code without a run of backticks as long as the fence does not close it. -/
theorem isClosingFence_eq_false
    {length : Nat}
    (shorter : ∀ run, List.replicate run '\x60' <:+: line → run < length) :
    isClosingFence '\x60' length (line.dropWhile Text.isSpaceOrTab) = false := by
  have isRun (text : List Char) : text.takeWhile (· == '\x60') =
      List.replicate (text.takeWhile (· == '\x60')).length '\x60' := by
    refine List.eq_replicate_iff.mpr ⟨rfl, fun c member => ?_⟩
    exact eq_of_beq (List.all_eq_true.mp List.all_takeWhile c member)
  have inside := (List.takeWhile_prefix (· == '\x60')).isInfix.trans
    (List.dropWhile_suffix (α := Char) (l := line) Text.isSpaceOrTab).isInfix
  rw [isRun] at inside
  rw [isClosingFence, decide_eq_false (Nat.not_le.mpr (shorter _ inside)), Bool.false_and]

/-- The lines between fences are the code, if none of them closes it. -/
theorem reads_code_lines
    {lines : List (List Char)}
    {length : Nat}
    (shorter : ∀ line ∈ lines, ∀ run, List.replicate run '\x60' <:+: line → run < length)
    (tables : Bool)
    (closed : List Block)
    (info value : List Char) :
    Reads tables ⟨closed, .leaf (.fenced '\x60' length 0 info value)⟩ lines
      ⟨closed, .leaf (.fenced '\x60' length 0 info (value ++ lines.flatMap (· ++ ['\n'])))⟩ := by
  induction lines generalizing value with
  | nil =>
      rw [List.flatMap_nil, List.append_nil]
      exact .nil _
  | cons line lines inductionHypothesis =>
      obtain ⟨first, others⟩ := List.forall_mem_cons.mp shorter
      have rest := inductionHypothesis others (value ++ line ++ ['\n'])
      rw [List.flatMap_cons]
      simp only [List.append_assoc] at rest ⊢
      refine .cons _ (fun cursor shows => ?_) (fun _ => rfl) rest
      obtain ⟨column, rfl⟩ := shows
      have stays : ¬ (¬ (⟨column, false, line⟩ : Cursor).isIndented ∧
          isClosingFence '\x60' length (⟨column, false, line⟩ : Cursor).skipBlanks.rest = true) := by
        rw [Cursor.skipBlanks, rest_skipBlanksFrom, isClosingFence_eq_false first]
        simp
      have text : ((⟨column, false, line⟩ : Cursor).dropBlankColumns 0).text = line := by
        rw [Cursor.dropBlankColumns, Nat.zero_min, Cursor.dropColumns]
        cases line <;> rfl
      rw [next, OpenBlock.step, stepLeaf, if_neg stays, text, openLeaf, List.append_assoc]

/-- Code between fences that are longer than every run of backticks in it. -/
theorem reads_code
    {lines : List (List Char)}
    {length : Nat}
    (shorter : ∀ line ∈ lines, ∀ run, List.replicate run '\x60' <:+: line → run < length)
    (long : 3 ≤ length)
    {info : List Char}
    (noTick : '\x60' ∉ info)
    (tables : Bool)
    (closed : List Block) :
    Reads tables ⟨closed, .none⟩
      ((List.replicate length '\x60' ++ info) :: (lines ++ [List.replicate length '\x60']))
      ⟨.code (cleanInfo info) (lines.flatMap (· ++ ['\n'])) :: closed, .none⟩ := by
  have solid : IsSolid (List.replicate length '\x60') := by
    obtain ⟨more, rfl⟩ := Nat.exists_eq_add_of_le' (Nat.le_trans (by decide : 1 ≤ 3) long)
    exact ⟨'\x60', _, rfl, by decide⟩
  refine .cons ⟨closed, .leaf (.fenced '\x60' length 0 info [])⟩ (fun cursor shows => ?_)
    (fun isEmpty => absurd (List.append_eq_nil_iff.mp isEmpty).1 solid.ne_nil)
    ((reads_code_lines shorter tables closed info []).append
      (.cons _ (fun cursor shows => ?_) (fun _ => rfl) (.nil _)))
  · rw [next_of_start? (start?_fence long noTick shows), begin, openLeaf]
  · have closes : isClosingFence '\x60' length (List.replicate length '\x60') = true := by
      simp [isClosingFence]
    rw [next, OpenBlock.step, stepLeaf, Cursor.skipBlanks_of_isSolid solid shows,
      Cursor.isIndented_of_isSolid solid shows]
    obtain ⟨column, rfl⟩ := shows
    rw [if_pos ⟨Bool.false_ne_true, closes⟩]
    rfl

/-! ## Paragraphs -/

/-- A line of text continues a paragraph, unless it makes a table of it. -/
theorem reads_paragraph_lines
    {lines : List (List Char)}
    (quiet : ∀ line ∈ lines, IsQuiet line)
    (noRow : tables = true → ∀ line ∈ lines, isDelimiterRow line = false)
    (closed : List Block)
    (text : List Char) :
    Reads tables ⟨closed, .leaf (.paragraph text false)⟩ lines
      ⟨closed, .leaf (.paragraph (text ++ lines.flatMap (· ++ ['\n'])) false)⟩ := by
  induction lines generalizing text with
  | nil =>
      rw [List.flatMap_nil, List.append_nil]
      exact .nil _
  | cons line lines inductionHypothesis =>
      obtain ⟨first, others⟩ := List.forall_mem_cons.mp quiet
      have rest := inductionHypothesis others (fun on other member => noRow on other (.tail _ member))
        (text ++ line ++ ['\n'])
      rw [List.flatMap_cons]
      simp only [List.append_assoc] at rest ⊢
      refine .cons _ (fun cursor shows => ?_) (fun _ => rfl) rest
      have row : (tables && !false && !false && isDelimiterRow line) = false := by
        cases on : tables with
        | false => rfl
        | true => exact noRow on line (.head _)
      have solid := first.isSolid
      rw [next, OpenBlock.step, stepLeaf, stepParagraph, first.start? cursor shows,
        Cursor.isBlank_of_isSolid solid shows, Cursor.isIndented_of_isSolid solid shows,
        Cursor.skipBlanks_of_isSolid solid shows]
      obtain ⟨column, rfl⟩ := shows
      simp only [Bool.false_eq_true, if_false, first.underlineDepth?, row, openLeaf,
        List.append_assoc]

/-- Lines of text where nothing is open are a paragraph. -/
theorem reads_paragraph
    {lines : List (List Char)}
    (quiet : ∀ piece ∈ line :: lines, IsQuiet piece)
    (noRow : tables = true → ∀ line ∈ lines, isDelimiterRow line = false)
    (closed : List Block) :
    Reads tables ⟨closed, .none⟩ (line :: lines)
      ⟨closed, .leaf (.paragraph ((line :: lines).flatMap (· ++ ['\n'])) false)⟩ := by
  obtain ⟨first, others⟩ := List.forall_mem_cons.mp quiet
  have solid := first.isSolid
  refine .cons _ (fun cursor shows => ?_) (fun isEmpty => absurd isEmpty solid.ne_nil)
    (reads_paragraph_lines others noRow closed (line ++ ['\n']))
  rw [next_of_not_start? (first.start? cursor shows _ _), ofText, Cursor.isBlank_of_isSolid solid shows,
    Cursor.skipBlanks_of_isSolid solid shows]
  obtain ⟨column, rfl⟩ := shows
  rfl

section Paragraph

variable {c : Char} {rest : List Char}

/-- A text that does not begin with a bracket begins with no definition. -/
theorem definition?_eq_none
    (noBracket : c ≠ '[') :
    definition? (c :: rest) = none := by
  have noLabel : label? (c :: rest) = none := by
    rw [label?]
    rintro _ ⟨⟩
    exact noBracket rfl
  rw [definition?, noLabel]
  rfl

/-- A paragraph that begins with no definition holds none. -/
theorem close_paragraph
    (noDefinition : definition? (c :: rest) = none)
    (visible : Text.isSpaceOrTab c = false)
    (noNewline : c ≠ '\n')
    (refusesTable : Bool) :
    (OpenLeaf.paragraph (c :: rest) refusesTable).close = [.paragraph (c :: rest)] := by
  have shown : isBlankText (c :: rest) = false := by
    rw [isBlankText, List.dropWhile_cons_of_neg (by simp [visible])]
    simpa using noNewline
  rw [OpenLeaf.close, takeDefinitions, List.length_cons, definitionsWithin, noDefinition]
  dsimp only
  rw [shown]
  rfl

theorem completes_paragraph
    (noDefinition : definition? (c :: rest) = none)
    (visible : Text.isSpaceOrTab c = false)
    (noNewline : c ≠ '\n')
    (tables : Bool)
    (closed : List Block)
    (refusesTable : Bool) :
    Completes tables (.paragraph (c :: rest) :: closed) none
      ⟨closed, .leaf (.paragraph (c :: rest) refusesTable)⟩ := by
  have closes := @close_paragraph c rest noDefinition visible noNewline refusesTable
  refine ⟨?_, rfl, ⟨.paragraph (c :: rest) :: closed, .none⟩, fun cursor shows => ?_, trivial, rfl, rfl⟩
  · rw [close, OpenBlock.close, closes]
    rfl
  · rw [next, OpenBlock.step, stepLeaf, stepParagraph, Cursor.isBlank_of_empty shows, closes]
    rfl

/-- A line that begins a block also where a paragraph is open ends the paragraph. -/
theorem next_of_paragraph
    {text line : List Char}
    {refusesTable : Bool}
    {cursor : Cursor}
    {start : Start}
    (solid : IsSolid line)
    (shows : cursor.Shows line)
    (noUnderline : underlineDepth? line = none)
    (interrupts : start? true true cursor = some start)
    (begins : start? false false cursor = some start)
    (tables : Bool) :
    (⟨closed, .leaf (.paragraph text refusesTable)⟩ : Body).next tables cursor =
      (⟨close ⟨closed, .leaf (.paragraph text refusesTable)⟩, .none⟩ : Body).next tables cursor := by
  rw [next_of_start? begins, next, OpenBlock.step, stepLeaf, stepParagraph, interrupts,
    Cursor.isBlank_of_isSolid solid shows, Cursor.isIndented_of_isSolid solid shows,
    Cursor.skipBlanks_of_isSolid solid shows]
  obtain ⟨column, rfl⟩ := shows
  simp only [Bool.false_eq_true, if_false, noUnderline, close, OpenBlock.close]

end Paragraph

end Body
end Reader
end Markdown
end TwinEditor
