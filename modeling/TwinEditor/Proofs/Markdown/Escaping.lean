import TwinEditor.Proofs.Markdown.LineStart
import TwinEditor.Proofs.Markdown.PlainText

/-!
# Escaped text reads back

The text of a paragraph or heading is written so that its lines spell it: what could begin inline markup
stands behind a backslash, and so does what could begin a block at the start of a line.
-/

namespace TwinEditor
namespace Markdown
namespace Reader
namespace Spells

/-- A further backslash in front of a special character changes nothing. -/
theorem backslash
    {c : Char}
    {written line : List Char}
    (spells : Spells (c :: written) line)
    (punctuation : Text.isAsciiPunctuation c = true)
    (noBackslash : c ≠ '\\')
    (noAmpersand : c ≠ '&') :
    Spells ('\\' :: c :: written) line := by
  have noLong (line : List Char) : (c == '&' && (longReference? line).isSome) = false := by
    rw [beq_false_of_ne noAmpersand, Bool.false_and]
  cases spells with
  | escaped => exact absurd rfl noBackslash
  | ampersand => exact absurd rfl noAmpersand
  | plain _ rest | exclamation rest => exact .escaped punctuation (noLong _) rest

/-- What is spelled piece by piece is spelled as a whole, unless a character reference would span both
pieces. -/
theorem append
    {written line written' line' : List Char}
    (spells : Spells written line)
    (separates : Separates written')
    (separatesLine : Separates line')
    (spells' : Spells written' line') :
    Spells (written ++ written') (line ++ line') := by
  induction spells with
  | nil => exact spells'
  | plain safe rest inductionHypothesis => exact .plain safe inductionHypothesis
  | @escaped c written line punctuation noLong rest inductionHypothesis =>
      have same := longReference?_append separatesLine line
      exact .escaped punctuation (same ▸ noLong) inductionHypothesis
  | exclamation rest inductionHypothesis => exact .exclamation inductionHypothesis
  | @ampersand written line noReference sameLong rest inductionHypothesis =>
      have same := (longReference?_append separates written).trans
        (sameLong.trans (longReference?_append separatesLine line).symm)
      exact .ampersand ((isReferenceTail_append separates written).trans noReference) same inductionHypothesis

end Spells

/-! ## Rows of tables -/

theorem mem_dropWhile_of_neg
    {p : Char → Bool}
    {c : Char}
    (stays : p c = false)
    {text : List Char}
    (member : c ∈ text) :
    c ∈ text.dropWhile p := by
  rw [← @List.takeWhile_append_dropWhile _ p text, List.mem_append] at member
  refine member.resolve_left fun dropped => ?_
  rw [List.all_eq_true.mp List.all_takeWhile c dropped] at stays
  cases stays

/-- A delimiter cell leaves a backslash where it is. -/
theorem backslash_mem_of_delimiterCell?
    {text rest : List Char}
    (isCell : delimiterCell? text = some rest)
    (member : '\\' ∈ text) :
    '\\' ∈ rest := by
  have inside := mem_dropWhile_of_neg (show isCellSpace '\\' = false by decide) member
  unfold delimiterCell? at isCell
  extract_lets opened at isCell
  have stillThere : '\\' ∈ opened := by
    unfold opened
    split
    · next rest cut =>
        rw [cut, List.mem_cons] at inside
        exact inside.resolve_left (by decide)
    · exact inside
  have hyphens := @mem_dropWhile_of_neg (· == '-') '\\' (by decide) _ stillThere
  split at isCell
  · split at isCell
    · next cut =>
        obtain rfl := Option.some.inj isCell
        rw [cut, List.mem_cons] at hyphens
        exact mem_dropWhile_of_neg (by decide) (hyphens.resolve_left (by decide))
    · obtain rfl := Option.some.inj isCell
      exact mem_dropWhile_of_neg (by decide) hyphens
  · cases isCell

theorem areDelimiterCells_eq_false
    (bound : Nat)
    {text : List Char}
    (member : '\\' ∈ text) :
    areDelimiterCells bound text = false := by
  induction bound generalizing text with
  | zero => rfl
  | succ bound inductionHypothesis =>
      rw [areDelimiterCells]
      split
      · next isCell => exact absurd (backslash_mem_of_delimiterCell? isCell member) List.not_mem_nil
      · next rest isCell =>
          have others := backslash_mem_of_delimiterCell? isCell member
          rw [List.mem_cons] at others
          have later := others.resolve_left (by decide)
          rw [inductionHypothesis later, Bool.or_false]
          exact List.all_eq_false.mpr ⟨'\\', later, by decide⟩
      · rfl

/-- No delimiter row holds a backslash. -/
theorem isDelimiterRow_eq_false
    {line : List Char}
    (member : '\\' ∈ line) :
    isDelimiterRow line = false := by
  unfold isDelimiterRow
  split
  · next rest => exact areDelimiterCells_eq_false _ ((List.mem_cons.mp member).resolve_left (by decide))
  · exact areDelimiterCells_eq_false _ member

end Reader

namespace Escape

open Reader (Spells IsProse IsTrimmed Separates)

/-! ## Inline markup -/

theorem isAsciiPunctuation_of_isSpecial
    {c : Char}
    (special : isSpecial false c = true) :
    Text.isAsciiPunctuation c = true := by
  simp only [isSpecial, Bool.false_and, Bool.or_false, Bool.or_eq_true, beq_iff_eq] at special
  rcases special with ((((((rfl | rfl) | rfl) | rfl) | rfl) | rfl) | rfl) | rfl
  all_goals rfl

theorem isSpecial_of_isAlphanum
    {c : Char}
    (alphanumeric : c.isAlphanum = true) :
    isSpecial false c = false := by
  refine Bool.eq_false_iff.mpr fun special => ?_
  simp only [isSpecial, Bool.false_and, Bool.or_false, Bool.or_eq_true, beq_iff_eq] at special
  rcases special with ((((((rfl | rfl) | rfl) | rfl) | rfl) | rfl) | rfl) | rfl
  all_goals cases alphanumeric

theorem text_cons_of_plain
    {c : Char}
    (noMarkup : isSpecial false c = false)
    (noAmpersand : c ≠ '&')
    (rest : List Char) :
    text false (c :: rest) = c :: text false rest := by
  rw [text, noMarkup, if_neg (by simp [noAmpersand])]

theorem text_cons_of_isAlphanum
    {c : Char}
    (alphanumeric : c.isAlphanum = true)
    (rest : List Char) :
    text false (c :: rest) = c :: text false rest :=
  text_cons_of_plain (isSpecial_of_isAlphanum alphanumeric) (fun isAmpersand => by
    subst isAmpersand
    cases alphanumeric) rest

/-- A character is written as it is or with a backslash in front. -/
theorem text_cons
    (c : Char)
    (rest : List Char) :
    text false (c :: rest) = c :: text false rest ∨
      text false (c :: rest) = '\\' :: c :: text false rest ∧ c ≠ ';' := by
  rw [text]
  split
  · next escaped =>
      refine .inr ⟨rfl, ?_⟩
      rintro rfl
      cases escaped
  · exact .inl rfl

/-- What holds nothing to escape is written as it is. -/
theorem text_append_of_plain
    {start : List Char}
    (plain : ∀ c ∈ start, isSpecial false c = false ∧ c ≠ '&')
    (rest : List Char) :
    text false (start ++ rest) = start ++ text false rest := by
  induction start with
  | nil => rfl
  | cons c start inductionHypothesis =>
      obtain ⟨⟨noMarkup, noAmpersand⟩, others⟩ := List.forall_mem_cons.mp plain
      rw [List.cons_append, text_cons_of_plain noMarkup noAmpersand, inductionHypothesis others,
        List.cons_append]

/-- What stands before the first escape is written as it is. -/
theorem exists_of_text_eq
    {line start written : List Char}
    (noBackslash : '\\' ∉ start)
    (same : text false line = start ++ written) :
    ∃ rest, line = start ++ rest := by
  induction start generalizing line with
  | nil => exact ⟨line, rfl⟩
  | cons d start inductionHypothesis =>
      rw [List.mem_cons, not_or] at noBackslash
      cases line with
      | nil => cases same
      | cons c line =>
          rcases text_cons c line with plain | ⟨escaped, -⟩
          · rw [plain] at same
            obtain ⟨rfl, others⟩ := List.cons.inj same
            obtain ⟨rest, rfl⟩ := inductionHypothesis noBackslash.2 others
            exact ⟨rest, rfl⟩
          · rw [escaped] at same
            exact absurd (List.cons.inj same).1 noBackslash.1

/-- Escaping neither makes nor breaks a long reference. -/
theorem longReference?_text (line : List Char) :
    Reader.longReference? (text false line) = Reader.longReference? line := by
  have plain {body : List Char} {c : Char} (isLong : Reader.IsLongReference body c) :
      ∀ d ∈ body ++ [';'], isSpecial false d = false ∧ d ≠ '&' ∧ d ≠ '\\' := by
    refine isLong.forall_mem (by decide) (by decide) fun d isName => ?_
    refine ⟨isSpecial_of_isAlphanum isName, ?_, ?_⟩
    all_goals
      rintro rfl
      cases isName
  cases found : Reader.longReference? line with
  | some c =>
      obtain ⟨body, rest, rfl, isLong⟩ := Reader.exists_of_longReference? found
      rw [List.append_cons, text_append_of_plain fun d member =>
        ⟨(plain isLong d member).1, (plain isLong d member).2.1⟩, ← List.append_cons]
      exact isLong.reads _
  | none =>
      refine Option.eq_none_iff_forall_ne_some.mpr fun c escaped => ?_
      obtain ⟨body, rest, same, isLong⟩ := Reader.exists_of_longReference? escaped
      rw [List.append_cons] at same
      obtain ⟨rest, rfl⟩ := exists_of_text_eq (fun member => (plain isLong _ member).2.2 rfl) same
      rw [← List.append_cons, isLong.reads] at found
      cases found

/-- Escaping does not change whether a text begins with letters or digits and a semicolon. -/
theorem beginsWithRun_text
    {p : Char → Bool}
    (inClass : ∀ c, p c = true → c.isAlphanum = true)
    (least most : Nat)
    (line : List Char) :
    beginsWithRun p least most (text false line) = beginsWithRun p least most line := by
  have noBackslash : p '\\' = false := Bool.eq_false_iff.mpr fun isIn => by cases inClass _ isIn
  have same : (text false line).takeWhile p = line.takeWhile p ∧
      (((text false line).dropWhile p).head? == some ';') =
        ((line.dropWhile p).head? == some ';') := by
    induction line with
    | nil => exact ⟨rfl, rfl⟩
    | cons c rest inductionHypothesis =>
        by_cases isIn : p c = true
        · rw [text_cons_of_isAlphanum (inClass c isIn)]
          simp [isIn, inductionHypothesis]
        · rcases text_cons c rest with plain | ⟨escaped, noSemicolon⟩
          · simp [plain, isIn]
          · simp [escaped, isIn, noBackslash, noSemicolon]
  rw [beginsWithRun, beginsWithRun, same.1, same.2]

/-- Escaping does not change whether a text continues with the rest of a character reference. -/
theorem isReferenceTail_text (line : List Char) :
    isReferenceTail (text false line) = isReferenceTail line := by
  have hexadecimal := beginsWithRun_text (fun _ => Reader.isAlphanum_of_isHexDigit) 1 6
  have decimal := beginsWithRun_text
    (fun c (isDigit : c.isDigit = true) => by simp [Char.isAlphanum, isDigit]) 1 7
  have alphanumeric := beginsWithRun_text (p := Char.isAlphanum) (fun _ isIn => isIn) 1 31
  fun_cases isReferenceTail line with
  | case1 rest => exact hexadecimal rest
  | case2 rest => exact hexadecimal rest
  | case3 rest noLower noUpper =>
      have first {c : Char} (noBackslash : c ≠ '\\') {written : List Char}
          (same : text false rest = c :: written) : ∃ others, rest = c :: others := by
        cases rest with
        | nil => cases same
        | cons d others =>
            rcases text_cons d others with plain | ⟨escaped, -⟩
            · obtain ⟨rfl, -⟩ := List.cons.inj (plain.symm.trans same)
              exact ⟨others, rfl⟩
            · exact absurd (List.cons.inj (escaped.symm.trans same)).1.symm noBackslash
      rw [text_cons_of_plain rfl (by decide), isReferenceTail, decimal]
      · intro written same
        obtain ⟨others, rfl⟩ := first (by decide) same
        exact noLower others rfl
      · intro written same
        obtain ⟨others, rfl⟩ := first (by decide) same
        exact noUpper others rfl
  | case4 c rest noLower noUpper noSign =>
      rcases text_cons c rest with plain | ⟨escaped, -⟩
      · rw [plain, isReferenceTail, alphanumeric]
        · exact fun _ same => absurd same noSign
        · exact fun _ same => absurd same noSign
        · exact noSign
      · have noLetter : c.isAlpha = false := by
          refine Bool.eq_false_iff.mpr fun letter => ?_
          have plain := @text_cons_of_isAlphanum c (by simp [Char.isAlphanum, letter]) rest
          rw [escaped] at plain
          obtain ⟨rfl, -⟩ := List.cons.inj plain
          cases letter
        rw [escaped, noLetter]
        rfl
  | case5 => rfl

/-- A line is spelled by its escaped form. -/
theorem spells_text
    {line : List Char}
    (single : '\n' ∉ line) :
    Spells (text false line) line := by
  induction line with
  | nil => exact .nil
  | cons c rest inductionHypothesis =>
      rw [List.mem_cons, not_or] at single
      obtain ⟨noNewline, others⟩ := single
      have isSpelled := inductionHypothesis others
      rw [text]
      split
      · next escaped =>
          rcases Bool.or_eq_true_iff.mp escaped with special | ampersand
          · refine .escaped (isAsciiPunctuation_of_isSpecial special) ?_ isSpelled
            rw [beq_false_of_ne, Bool.false_and]
            rintro rfl
            cases special
          · obtain ⟨isAmpersand, seen⟩ := Bool.and_eq_true_iff.mp ampersand
            obtain rfl := eq_of_beq isAmpersand
            refine .escaped rfl ?_ isSpelled
            rw [Reader.longReference?_eq_none seen]
            rfl
      · next plain =>
          rw [Bool.or_eq_true, not_or, Bool.and_eq_true, not_and, beq_iff_eq] at plain
          obtain ⟨noMarkup, noReference⟩ := plain
          by_cases isAmpersand : c = '&'
          · subst isAmpersand
            refine .ampersand ?_ (longReference?_text rest) isSpelled
            rw [isReferenceTail_text]
            exact Bool.eq_false_iff.mpr (noReference rfl)
          · by_cases isExclamation : c = '!'
            · subst isExclamation
              exact .exclamation isSpelled
            · rw [Bool.not_eq_true] at noMarkup
              simp only [isSpecial, Bool.false_and, Bool.or_false, Bool.or_eq_false_iff,
                beq_eq_false_iff_ne] at noMarkup
              exact .plain (by simp [Reader.inlineOpeners, noMarkup, isAmpersand, isExclamation,
                Ne.symm noNewline]) isSpelled

theorem text_append
    {tail : List Char}
    (separates : Separates tail)
    (line : List Char) :
    text false (line ++ tail) = text false line ++ text false tail := by
  induction line with
  | nil => rfl
  | cons c rest inductionHypothesis =>
      rw [List.cons_append, text, text, Reader.isReferenceTail_append separates, inductionHypothesis]
      split <;> rfl

theorem newline_notMem_text
    {line : List Char}
    (single : '\n' ∉ line) :
    '\n' ∉ text false line := by
  induction line with
  | nil => exact single
  | cons c rest inductionHypothesis =>
      rw [List.mem_cons, not_or] at single
      have others := inductionHypothesis single.2
      rcases text_cons c rest with plain | ⟨escaped, -⟩
      · simp [plain, others, single.1]
      · simp [escaped, others, single.1]

/-- The lines of a text are escaped one by one. -/
theorem lines_text (value : List Char) :
    Text.lines (text false value) = (Text.lines value).map (text false) := by
  have unlines {lines : List (List Char)} (some : lines ≠ []) :
      text false (Text.unlines lines) = Text.unlines (lines.map (text false)) := by
    induction lines with
    | nil => exact absurd rfl some
    | cons line rest inductionHypothesis =>
        by_cases last : rest = []
        · subst last
          rw [Text.unlines_singleton, List.map_singleton, Text.unlines_singleton]
        · have separates : Separates ('\n' :: Text.unlines rest) :=
            Reader.EndsLine.separates fun c isFirst => (Option.some.inj isFirst).symm
          rw [Text.unlines_cons line last, text_append separates, text_cons_of_plain rfl (by decide),
            inductionHypothesis last, List.map_cons, Text.unlines_cons _ (by simpa using last)]
  have some := Text.lines_ne_nil value
  have written := unlines some
  rw [Text.unlines_lines] at written
  rw [written, Text.lines_unlines (by simpa using some)]
  intro piece member
  obtain ⟨line, isLine, rfl⟩ := List.mem_map.mp member
  exact newline_notMem_text (Text.notMem_of_mem_lines isLine)

/-! ## The start of a line -/

theorem isAsciiPunctuation_of_isLineMarker
    {c : Char}
    (isMarker : isLineMarker c = true) :
    Text.isAsciiPunctuation c = true ∧ c ≠ '\\' ∧ c ≠ '&' := by
  simp only [isLineMarker, Bool.or_eq_true, beq_iff_eq] at isMarker
  rcases isMarker with (((rfl | rfl) | rfl) | rfl) | rfl
  all_goals decide

theorem isLineMarker_of_isDigit
    {c : Char}
    (isDigit : c.isDigit = true) :
    isLineMarker c = false := by
  refine Bool.eq_false_iff.mpr fun isMarker => ?_
  simp only [isLineMarker, Bool.or_eq_true, beq_iff_eq] at isMarker
  rcases isMarker with (((rfl | rfl) | rfl) | rfl) | rfl
  all_goals cases isDigit

theorem isDigit_of_mem_takeWhile
    {c : Char}
    {line : List Char}
    (member : c ∈ line.takeWhile Char.isDigit) :
    c.isDigit = true :=
  List.all_eq_true.mp List.all_takeWhile c member

/-- A number of more than nine digits numbers no item, since the tenth digit stands behind the ninth. -/
theorem unnumbered_of_length
    {line : List Char}
    (long : 9 < (line.takeWhile Char.isDigit).length) :
    ∀ c ∈ (line.drop ((line.takeWhile Char.isDigit).take 9).length).head?, c ≠ '.' ∧ c ≠ ')' := by
  intro c isNext
  have tenth : c ∈ ((line.takeWhile Char.isDigit).drop 9).head? := by
    rw [List.length_take_of_le (Nat.le_of_lt long)] at isNext
    rw [← @List.takeWhile_append_dropWhile _ Char.isDigit line,
      List.drop_append_of_le_length (Nat.le_of_lt long)] at isNext
    obtain ⟨d, others, cut⟩ := List.exists_cons_of_length_pos
      (show 0 < ((line.takeWhile Char.isDigit).drop 9).length by rw [List.length_drop]; omega)
    rw [cut] at isNext ⊢
    exact isNext
  have isDigit := isDigit_of_mem_takeWhile (List.mem_of_mem_drop (List.mem_of_head? tenth))
  constructor
  all_goals rintro rfl; cases isDigit

/-- How the start of a line is escaped: a character that begins a block gets a backslash in front, and so
does what stands behind a number that would number an item. -/
theorem lineStart_cases (line : List Char) :
    (∃ c rest, line = c :: rest ∧ isLineMarker c = true ∧ lineStart line = '\\' :: line) ∨
    (∃ digits c rest, line = digits ++ c :: rest ∧ digits ≠ [] ∧ (∀ d ∈ digits, d.isDigit = true) ∧
      (c = '.' ∨ c = ')') ∧ lineStart line = digits ++ '\\' :: c :: rest) ∨
    (lineStart line = line ∧ (∀ c ∈ line.head?, isLineMarker c = false) ∧
      (line.takeWhile Char.isDigit = [] ∨
        ∀ c ∈ (line.drop ((line.takeWhile Char.isDigit).take 9).length).head?, c ≠ '.' ∧ c ≠ ')')) := by
  have whole := @List.takeWhile_append_dropWhile _ Char.isDigit line
  have noMarker (numbered : line.takeWhile Char.isDigit ≠ []) :
      ∀ c ∈ line.head?, isLineMarker c = false := by
    intro c isFirst
    obtain ⟨d, digits, cut⟩ := List.exists_cons_of_ne_nil numbered
    rw [← whole, cut] at isFirst
    obtain rfl := Option.some.inj isFirst
    exact isLineMarker_of_isDigit (isDigit_of_mem_takeWhile (cut ▸ List.mem_cons_self))
  have behind (short : (line.takeWhile Char.isDigit).length ≤ 9) :
      line.drop ((line.takeWhile Char.isDigit).take 9).length = line.dropWhile Char.isDigit := by
    rw [List.take_of_length_le short]
    exact (congrArg (List.drop _) whole.symm).trans List.drop_left
  rw [lineStart]
  by_cases numbered : line.takeWhile Char.isDigit = []
  · rw [numbered, List.nil_append] at whole
    rw [whole]
    cases line with
    | nil => exact .inr (.inr ⟨rfl, nofun, .inl rfl⟩)
    | cons c rest =>
        rw [numbered]
        dsimp only
        rw [if_pos List.isEmpty_nil]
        split
        · next isMarker => exact .inl ⟨c, rest, rfl, isMarker, rfl⟩
        · next isMarker =>
            refine .inr (.inr ⟨rfl, fun d isFirst => ?_, .inl rfl⟩)
            obtain rfl := Option.some.inj isFirst
            exact Bool.eq_false_iff.mpr isMarker
  · have notEmpty : ¬ (line.takeWhile Char.isDigit).isEmpty = true := by
      simpa using numbered
    by_cases long : 9 < (line.takeWhile Char.isDigit).length
    · refine .inr (.inr ⟨?_, noMarker numbered, .inr (unnumbered_of_length long)⟩)
      split
      · rfl
      · rw [if_neg notEmpty, if_neg fun short => absurd short.1 (Nat.not_le.mpr long)]
    · rw [Nat.not_lt] at long
      cases cut : line.dropWhile Char.isDigit with
      | nil =>
          refine .inr (.inr ⟨rfl, noMarker numbered, .inr ?_⟩)
          rw [behind long, cut]
          exact nofun
      | cons c rest =>
          dsimp only
          rw [if_neg notEmpty]
          split
          · next delimits =>
              exact .inr (.inl ⟨_, c, rest, cut ▸ whole.symm, numbered,
                fun d => isDigit_of_mem_takeWhile, delimits.2, rfl⟩)
          · next delimits =>
              refine .inr (.inr ⟨rfl, noMarker numbered, .inr ?_⟩)
              rw [behind long, cut]
              intro d isNext
              obtain rfl := Option.some.inj isNext
              exact not_or.mp fun isDelimiter => delimits ⟨long, isDelimiter⟩

/-- A line that begins no block reads as what the line spelled before its start was escaped. -/
theorem spells_lineStart
    {written line : List Char}
    (spells : Spells written line) :
    Spells (lineStart written) line := by
  obtain ⟨c, rest, rfl, isMarker, same⟩ | ⟨digits, c, rest, rfl, -, areDigits, delimits, same⟩ |
    ⟨same, -⟩ := lineStart_cases written
  · obtain ⟨punctuation, noBackslash, noAmpersand⟩ := isAsciiPunctuation_of_isLineMarker isMarker
    rw [same]
    exact spells.backslash punctuation noBackslash noAmpersand
  · have plain : ∀ d ∈ digits, d ∉ Reader.inlineOpeners := fun d member =>
      Reader.notMem_inlineOpeners_of_isAlphanum (by simp [Char.isAlphanum, areDigits d member])
    obtain ⟨line', rfl, behind⟩ := (Spells.append_iff plain).mp spells
    rw [same]
    refine (Spells.append_iff plain).mpr ⟨line', rfl, ?_⟩
    rcases delimits with rfl | rfl
    all_goals exact behind.backslash (by decide) (by decide) (by decide)
  · rw [same]
    exact spells

/-- What a line spelled so may begin with unless it is escaped as the start of a line. -/
theorem notMem_blockOpeners
    {c : Char}
    {written line : List Char}
    (spells : Spells (c :: written) line)
    (noMarker : isLineMarker c = false) :
    c ∉ Reader.blockOpeners := by
  simp only [isLineMarker, Bool.or_eq_false_iff, beq_eq_false_iff_ne] at noMarker
  cases spells with
  | plain safe rest =>
      simp only [Reader.inlineOpeners, List.mem_cons, not_or] at safe
      simp [Reader.blockOpeners, noMarker, safe]
  | escaped | exclamation | ampersand => decide

/-- With its start escaped, a line begins no block. -/
theorem isProse_lineStart
    {written line : List Char}
    (spells : Spells written line)
    (isTrimmed : IsTrimmed line) :
    IsProse (lineStart written) := by
  have visible {c : Char} (isFirst : c ∈ written.head?) : Text.isSpaceOrTab c = false := by
    rcases spells.first isFirst with rfl | isFirst
    · rfl
    · exact Text.isSpaceOrTab_eq_false (isTrimmed.first c isFirst)
  obtain ⟨c, rest, rfl, isMarker, same⟩ | ⟨digits, c, rest, rfl, some, areDigits, delimits, same⟩ |
    ⟨same, noMarker, unnumbered⟩ := lineStart_cases written
  · rw [same]
    exact ⟨⟨'\\', c :: rest, rfl, by decide, by decide⟩, .inl rfl⟩
  · obtain ⟨d, others, rfl⟩ := List.exists_cons_of_ne_nil some
    have noMarker := isLineMarker_of_isDigit (areDigits d List.mem_cons_self)
    rw [same]
    refine ⟨⟨d, _, rfl, visible rfl, notMem_blockOpeners spells noMarker⟩, .inr ?_⟩
    have run := Reader.takeWhile_isDigit_append areDigits (by decide : '\\'.isDigit = false) (c :: rest)
    by_cases long : 9 < (d :: others).length
    · exact unnumbered_of_length (run.symm ▸ long)
    · rw [run, List.take_of_length_le (Nat.not_lt.mp long), List.drop_left]
      intro e isNext
      obtain rfl := Option.some.inj isNext
      decide
  · obtain ⟨c, rest, rfl⟩ := List.exists_cons_of_ne_nil (spells.ne_nil isTrimmed.some)
    rw [same]
    exact ⟨⟨c, rest, rfl, visible rfl, notMem_blockOpeners spells (noMarker c rfl)⟩, unnumbered⟩

/-- A line that is written without a backslash is written as it is. -/
theorem text_eq_self
    {line : List Char}
    (unescaped : '\\' ∉ text false line) :
    text false line = line := by
  induction line with
  | nil => rfl
  | cons c rest inductionHypothesis =>
      rcases text_cons c rest with plain | ⟨escaped, -⟩
      · rw [plain, List.mem_cons, not_or] at unescaped
        rw [plain, inductionHypothesis unescaped.2]
      · exact absurd (escaped ▸ List.mem_cons_self) unescaped

theorem lineStart_eq_self
    {line : List Char}
    (unescaped : '\\' ∉ lineStart line) :
    lineStart line = line := by
  obtain ⟨c, rest, rfl, -, same⟩ | ⟨digits, c, rest, rfl, -, -, -, same⟩ | ⟨same, -⟩ :=
    lineStart_cases line
  · exact absurd (same ▸ List.mem_cons_self) unescaped
  · exact absurd (by simp [same]) unescaped
  · exact same

/-- Escaping makes no line a delimiter row. -/
theorem isDelimiterRow_lineStart_text
    {line : List Char}
    (noRow : Reader.isDelimiterRow line = false) :
    Reader.isDelimiterRow (lineStart (text false line)) = false := by
  by_cases escaped : '\\' ∈ lineStart (text false line)
  · exact Reader.isDelimiterRow_eq_false escaped
  · have unescaped := lineStart_eq_self escaped
    rw [unescaped] at escaped ⊢
    rw [text_eq_self escaped]
    exact noRow

end Escape
end Markdown
end TwinEditor
