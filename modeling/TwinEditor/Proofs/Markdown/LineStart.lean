import TwinEditor.Proofs.Markdown.Columns
import TwinEditor.Proofs.Markdown.Lines
import TwinEditor.Markdown.Reader.OpenBlock

/-!
# What a line begins

The block that a line begins depends on its first characters alone. Written lines are of few kinds:
text that begins no block, and the first lines of headings, code, rules, quotes and list items.
-/

namespace TwinEditor
namespace Markdown
namespace Reader

/-! ## Lines that begin no block -/

/-- At the end of a line no block begins. -/
theorem start?_of_rest_eq_nil
    {cursor : Cursor}
    (ended : cursor.rest = [])
    (inParagraph continuesParagraph : Bool) :
    start? inParagraph continuesParagraph cursor = none := by
  have skipped : cursor.skipBlanks = ⟨cursor.column, false, []⟩ := by
    rw [Cursor.skipBlanks, ended]
    rfl
  have unindented : cursor.isIndented = false := by
    rw [Cursor.isIndented, Cursor.indent, skipped, Nat.sub_self]
    rfl
  have noHtml : htmlKind? inParagraph [] = none := by
    cases inParagraph <;> rfl
  rw [start?, skipped, unindented]
  dsimp only
  rw [if_neg Bool.false_ne_true, noHtml]
  rfl

/-- The characters that may begin something else than text where a line starts with them. -/
def blockOpeners : List Char :=
  ['#', '>', '\x60', '~', '<', '*', '_', '-', '+', '=', '[']

/-- A line that can only be text of a paragraph: it begins neither with a special character nor with a
number as those of list items. -/
structure IsProse (line : List Char) : Prop where
  first : ∃ c rest, line = c :: rest ∧ Text.isSpaceOrTab c = false ∧ c ∉ blockOpeners
  unnumbered : line.takeWhile Char.isDigit = [] ∨
    ∀ c ∈ (line.drop ((line.takeWhile Char.isDigit).take 9).length).head?, c ≠ '.' ∧ c ≠ ')'

/-- A line that begins no block and underlines none, whatever stands before it. -/
structure IsQuiet (line : List Char) : Prop where
  isSolid : IsSolid line
  start? : ∀ cursor : Cursor, cursor.Shows line → ∀ inParagraph continuesParagraph,
    start? inParagraph continuesParagraph cursor = none
  underlineDepth? : underlineDepth? line = none

/-- Whether a line holds a character that no thematic break holds. -/
def HoldsMoreThanRule (line : List Char) : Prop :=
  ∃ c ∈ line, c ≠ '*' ∧ c ≠ '-' ∧ c ≠ '_' ∧ Text.isSpaceOrTab c = false

section

variable {c : Char} {rest : List Char}

theorem heading?_eq_none
    (other : c ≠ '#') :
    heading? (c :: rest) = none := by
  have none : List.takeWhile (· == '#') (c :: rest) = [] := List.takeWhile_cons_of_neg (by simpa)
  rw [heading?, none]
  exact if_neg (by simp)

theorem openingFence?_eq_none
    (noTick : c ≠ '\x60')
    (noTilde : c ≠ '~') :
    openingFence? (c :: rest) = none := by
  rw [openingFence?, if_neg (not_or.mpr ⟨noTick, noTilde⟩)]

theorem htmlKind?_eq_none
    (other : c ≠ '<')
    (inParagraph : Bool) :
    htmlKind? inParagraph (c :: rest) = none := by
  have noInterruption : interruptingHtmlKind? (c :: rest) = none := by
    rw [interruptingHtmlKind?]
    rintro _ ⟨⟩
    exact other rfl
  have noTag : isCompleteTag (c :: rest) = false := by
    rw [isCompleteTag]
    rintro _ ⟨⟩
    exact other rfl
  rw [htmlKind?, noInterruption, noTag, Bool.and_false]
  rfl

/-- Raw HTML begins with a left angle bracket. -/
theorem exists_eq_cons_of_htmlKind?
    {inParagraph : Bool}
    {line : List Char}
    {kind : HtmlKind}
    (isHtml : htmlKind? inParagraph line = some kind) :
    ∃ rest, line = '<' :: rest := by
  cases line with
  | nil => cases inParagraph <;> cases isHtml
  | cons c rest =>
      by_cases isAngle : c = '<'
      · exact ⟨rest, isAngle ▸ rfl⟩
      · rw [htmlKind?_eq_none isAngle] at isHtml
        cases isHtml

theorem isRule_eq_false
    (noStar : c ≠ '*')
    (noUnderscore : c ≠ '_')
    (noHyphen : c ≠ '-') :
    isRule (c :: rest) = false := by
  simp [isRule, noStar, noUnderscore, noHyphen]

theorem underlineDepth?_eq_none
    (noEquals : c ≠ '=')
    (noHyphen : c ≠ '-') :
    underlineDepth? (c :: rest) = none := by
  simp [underlineDepth?, noEquals, noHyphen]

/-- A line that begins with a visible character, but not with the sign of a quote, is tried as a
heading, a fence, raw HTML, a rule and a list item in this order. -/
theorem start?_of_visible
    (visible : Text.isSpaceOrTab c = false)
    (noQuote : c ≠ '>')
    {cursor : Cursor}
    (shows : cursor.Shows (c :: rest))
    (inParagraph continuesParagraph : Bool) :
    start? inParagraph continuesParagraph cursor =
      match heading? (c :: rest), openingFence? (c :: rest), htmlKind? inParagraph (c :: rest) with
      | some (depth, text), _, _ => some (.heading depth text)
      | none, some (fence, length, info), _ => some (.fence fence length 0 info)
      | none, none, some kind => some (.html kind (c :: rest))
      | none, none, none =>
          if isRule (c :: rest) then some .rule
          else
            (listMarker? inParagraph (c :: rest)).map fun (kind, length) =>
              let item := itemContent length (cursor.advance length)
              .item kind item.1 item.2 := by
  have solid : IsSolid (c :: rest) := ⟨c, rest, rfl, visible⟩
  rw [start?, Cursor.skipBlanks_of_isSolid solid shows, Cursor.isIndented_of_isSolid solid shows,
    Cursor.indent_of_isSolid solid shows]
  obtain ⟨column, rfl⟩ := shows
  have unindented : List.takeWhile Text.isSpaceOrTab (c :: rest) = [] :=
    List.takeWhile_cons_of_neg (by simp [visible])
  dsimp only
  rw [if_neg Bool.false_ne_true, unindented]
  split
  · next same => exact absurd (List.cons.inj same).1 noQuote
  · cases heading? (c :: rest) with
    | some found => rfl
    | none =>
        cases openingFence? (c :: rest) with
        | some found => rfl
        | none =>
            cases htmlKind? inParagraph (c :: rest) with
            | some found => rfl
            | none =>
                cases listMarker? inParagraph (c :: rest) with
                | some found => simp
                | none => rfl

end

theorem htmlKind?_of_outside
    {line : List Char}
    (none : htmlKind? false line = none)
    (inParagraph : Bool) :
    htmlKind? inParagraph line = .none := by
  cases inParagraph with
  | false => exact none
  | true =>
      rw [htmlKind?, Option.or_eq_none_iff] at none ⊢
      exact ⟨none.1, rfl⟩

/-- Inside a paragraph fewer lines begin an item. -/
theorem listMarker?_of_outside
    {line : List Char}
    (none : listMarker? false line = none)
    (inParagraph : Bool) :
    listMarker? inParagraph line = .none := by
  cases inParagraph with
  | false => exact none
  | true =>
      cases line with
      | nil => rfl
      | cons c rest =>
          rw [listMarker?] at none ⊢
          dsimp only at none ⊢
          by_cases bullet : c = '*' ∨ c = '-' ∨ c = '+'
          · rw [if_pos bullet, ite_eq_right_iff] at none
            rw [if_pos bullet]
            refine if_neg fun admitted => ?_
            rw [Bool.and_eq_true] at admitted none
            cases none ⟨admitted.1, rfl⟩
          · rw [if_neg bullet] at none ⊢
            split
            · next d after cut =>
                rw [cut] at none
                dsimp only at none
                rw [ite_eq_right_iff] at none
                refine if_neg fun admitted => ?_
                simp only [Bool.and_eq_true] at admitted none
                obtain ⟨⟨numbered, ends, -⟩, -⟩ := admitted
                cases none ⟨⟨numbered, ends, rfl⟩, rfl⟩
            · rfl

namespace IsProse

variable {line : List Char}

theorem isSolid
    (prose : IsProse line) :
    IsSolid line := by
  obtain ⟨c, rest, same, visible, -⟩ := prose.first
  exact ⟨c, rest, same, visible⟩

/-- The first character of such a line is none of the special ones. -/
theorem first_ne
    {c : Char}
    {rest : List Char}
    (prose : IsProse (c :: rest))
    {opener : Char}
    (special : opener ∈ blockOpeners) :
    c ≠ opener := by
  obtain ⟨_, _, same, -, closed⟩ := prose.first
  obtain ⟨rfl, -⟩ := List.cons.inj same
  rintro rfl
  exact closed special

theorem underlineDepth?
    (prose : IsProse line) :
    underlineDepth? line = none := by
  obtain ⟨c, rest, rfl, -⟩ := prose.first
  exact underlineDepth?_eq_none (prose.first_ne (by decide)) (prose.first_ne (by decide))

theorem listMarker?
    (prose : IsProse line)
    (inParagraph : Bool) :
    listMarker? inParagraph line = none := by
  obtain ⟨c, rest, rfl, -⟩ := prose.first
  have noBullet : ¬ (c = '*' ∨ c = '-' ∨ c = '+') := by
    rintro (same | same | same)
    all_goals exact prose.first_ne (by decide) same
  rw [Reader.listMarker?, if_neg noBullet]
  dsimp only
  split
  · next d after cut =>
      rcases prose.unnumbered with none | other
      · simp [none]
      · rw [cut] at other
        obtain ⟨noDot, noParenthesis⟩ := other d rfl
        simp [noDot, noParenthesis]
  · rfl

/-- Such a line begins no block, whatever stands before it. -/
theorem start?
    (prose : IsProse line)
    {cursor : Cursor}
    (shows : cursor.Shows line)
    (inParagraph continuesParagraph : Bool) :
    start? inParagraph continuesParagraph cursor = none := by
  have marker := prose.listMarker? inParagraph
  obtain ⟨c, rest, rfl, visible, -⟩ := prose.first
  have other {opener : Char} (special : opener ∈ blockOpeners) := prose.first_ne special
  rw [start?_of_visible visible (other (by decide)) shows, heading?_eq_none (other (by decide)),
    openingFence?_eq_none (other (by decide)) (other (by decide)),
    htmlKind?_eq_none (other (by decide)),
    isRule_eq_false (other (by decide)) (other (by decide)) (other (by decide)), marker]
  rfl

/-- Such a line is text wherever it stands. -/
theorem isQuiet
    (prose : IsProse line) :
    IsQuiet line :=
  ⟨prose.isSolid, fun _ => prose.start?, prose.underlineDepth?⟩

/-- Such a line is no thematic break. -/
theorem holdsMoreThanRule
    (prose : IsProse line) :
    HoldsMoreThanRule line := by
  obtain ⟨c, rest, rfl, visible, -⟩ := prose.first
  exact ⟨c, .head _, prose.first_ne (by decide), prose.first_ne (by decide),
    prose.first_ne (by decide), visible⟩

end IsProse

/-! ## Headings, rules and fences -/

section Runs

variable {c : Char} {rest : List Char}

theorem takeWhile_replicate_append
    (ends : rest.head? ≠ some c)
    (length : Nat) :
    (List.replicate length c ++ rest).takeWhile (· == c) = List.replicate length c := by
  rw [List.takeWhile_append_of_pos (by simp)]
  cases rest with
  | nil => simp
  | cons d after => rw [List.takeWhile_cons_of_neg (by simpa using ends), List.append_nil]

theorem dropWhile_replicate_append
    (ends : rest.head? ≠ some c)
    (length : Nat) :
    (List.replicate length c ++ rest).dropWhile (· == c) = rest := by
  rw [List.dropWhile_append_of_pos (by simp)]
  cases rest with
  | nil => rfl
  | cons d after => rw [List.dropWhile_cons_of_neg (by simpa using ends)]

end Runs

section

variable {cursor : Cursor} {inParagraph continuesParagraph : Bool}

/-- Behind its number signs a heading shows its text, unless that ends in number signs which close the
heading. A number sign at the end does not if a backslash stands before it. -/
theorem heading?_replicate_append
    {depth : Nat}
    (positive : 1 ≤ depth)
    (bounded : depth ≤ 6)
    {text : List Char}
    (first : ∀ c ∈ text.head?, Text.isSpaceOrTab c = false)
    (last : ∀ c ∈ text.getLast?, Text.isAsciiSpace c = false)
    (unclosed : text.getLast? ≠ some '#' ∨ ∃ before, text = before ++ ['\\', '#'])
    (some : text ≠ []) :
    heading? (List.replicate depth '#' ++ ' ' :: text) = .some (depth, text) := by
  have ends : (' ' :: text).head? ≠ .some '#' := by simp
  have shown : Text.trimEnd Text.isAsciiSpace ((' ' :: text).dropWhile Text.isSpaceOrTab) = text := by
    rw [List.dropWhile_cons_of_pos (by decide)]
    exact (congrArg _ (Text.trimStart_eq_self first)).trans (Text.trimEnd_eq_self last)
  rw [heading?, takeWhile_replicate_append ends, dropWhile_replicate_append ends,
    List.length_replicate]
  dsimp only
  rw [if_pos ⟨positive, bounded, .inr rfl⟩, shown]
  rcases unclosed with open_ | ⟨before, rfl⟩
  · have kept : Text.trimEnd (· == '#') text = text :=
      Text.trimEnd_eq_self fun c isLast => by
        simpa using fun isSign : c = '#' => open_ (isSign ▸ isLast)
    rw [kept, if_neg (by simpa using some), if_neg (by simp)]
  · have kept : Text.trimEnd (· == '#') (before ++ ['\\', '#']) = before ++ ['\\'] := by
      rw [show before ++ ['\\', '#'] = (before ++ ['\\']) ++ ['#'] by simp,
        Text.trimEnd_concat_of_pos rfl, Text.trimEnd_concat_of_neg rfl]
    rw [kept, if_neg (by simp), if_neg]
    rintro ⟨-, isSpace⟩
    simp [Text.isSpaceOrTab] at isSpace

theorem start?_heading
    {depth : Nat}
    (positive : 1 ≤ depth)
    {line text : List Char}
    (isHeading : heading? (List.replicate depth '#' ++ line) = some (depth, text))
    (shows : cursor.Shows (List.replicate depth '#' ++ line)) :
    start? inParagraph continuesParagraph cursor = some (.heading depth text) := by
  obtain ⟨more, rfl⟩ := Nat.exists_eq_add_of_le' positive
  rw [List.replicate_succ, List.cons_append] at isHeading shows
  rw [start?_of_visible (by decide) (by decide) shows, isHeading]

theorem start?_rule
    (shows : cursor.Shows ['*', '*', '*']) :
    start? inParagraph continuesParagraph cursor = some .rule := by
  rw [start?_of_visible (by decide) (by decide) shows, heading?_eq_none (by decide),
    openingFence?_eq_none (by decide) (by decide), htmlKind?_eq_none (by decide)]
  rfl

theorem start?_fence
    {length : Nat}
    (long : 3 ≤ length)
    {info : List Char}
    (noTick : '\x60' ∉ info)
    (shows : cursor.Shows (List.replicate length '\x60' ++ info)) :
    start? inParagraph continuesParagraph cursor = some (.fence '\x60' length 0 info) := by
  have ends : info.head? ≠ some '\x60' := fun isTick => noTick (List.mem_of_head? isTick)
  have isFence : openingFence? (List.replicate length '\x60' ++ info) =
      some ('\x60', length, info) := by
    obtain ⟨more, rfl⟩ := Nat.exists_eq_add_of_le' (Nat.le_trans (by decide : 1 ≤ 3) long)
    rw [List.replicate_succ, List.cons_append, openingFence?, if_pos (.inl rfl), ← List.cons_append,
      ← List.replicate_succ, takeWhile_replicate_append ends, dropWhile_replicate_append ends,
      List.length_replicate]
    simp [long, noTick]
  obtain ⟨more, rfl⟩ := Nat.exists_eq_add_of_le' (Nat.le_trans (by decide : 1 ≤ 3) long)
  rw [List.replicate_succ, List.cons_append] at isFence shows
  rw [start?_of_visible (by decide) (by decide) shows, heading?_eq_none (by decide), isFence]

end

/-! ## Quotes -/

/-- A line of a quote that shows a line. -/
def quoteLine (line : List Char) : List Char :=
  if line.isEmpty then ['>'] else '>' :: ' ' :: line

section Quotes

variable {cursor : Cursor} {line : List Char}

/-- Behind the sign of a quote and one space stands what the quote shows. -/
theorem shows_skipOneBlank
    (shows : cursor.Shows (quoteLine line)) :
    (skipOneBlank (cursor.advance 1)).Shows line := by
  obtain ⟨column, rfl⟩ := shows
  cases line with
  | nil => exact ⟨column + 1, rfl⟩
  | cons c rest => exact ⟨column + 1 + 1, rfl⟩

theorem isSolid_quoteLine (line : List Char) : IsSolid (quoteLine line) := by
  cases line with
  | nil => exact ⟨'>', [], rfl, by decide⟩
  | cons c rest => exact ⟨'>', ' ' :: c :: rest, rfl, by decide⟩

theorem head?_quoteLine (line : List Char) : (quoteLine line).head? = some '>' := by
  cases line <;> rfl

theorem start?_quoteLine
    (shows : cursor.Shows (quoteLine line))
    (inParagraph continuesParagraph : Bool) :
    start? inParagraph continuesParagraph cursor =
      some (.quote (skipOneBlank (cursor.advance 1))) := by
  have solid := isSolid_quoteLine line
  rw [start?, Cursor.skipBlanks_of_isSolid solid shows, Cursor.isIndented_of_isSolid solid shows]
  obtain ⟨column, rfl⟩ := shows
  cases line <;> rfl

theorem quoteContent?_quoteLine
    (shows : cursor.Shows (quoteLine line)) :
    quoteContent? cursor = some (skipOneBlank (cursor.advance 1)) := by
  have solid := isSolid_quoteLine line
  rw [quoteContent?, Cursor.skipBlanks_of_isSolid solid shows,
    Cursor.isIndented_of_isSolid solid shows]
  obtain ⟨column, rfl⟩ := shows
  exact if_pos ⟨by simp, head?_quoteLine line⟩

end Quotes

/-! ## List items -/

/-- The kind of a written list. -/
def listKind (ordered : Bool) (marker : Char) : ListKind :=
  if ordered then .ordered marker else .bullet marker

/-- Whether a character is the marker of a written list. -/
def IsMarker (ordered : Bool) (marker : Char) : Prop :=
  if ordered then marker = '.' ∨ marker = ')' else marker = '-' ∨ marker = '*'

theorem isRule_of_holdsMoreThanRule
    {line : List Char}
    (holds : HoldsMoreThanRule line) :
    isRule line = false := by
  obtain ⟨d, member, noStar, noHyphen, noUnderscore, visible⟩ := holds
  cases line with
  | nil => rfl
  | cons c rest =>
      rw [isRule]
      by_cases mark : (c == '*' || c == '_' || c == '-') = true
      · have other : ¬ (d = c) := by
          rintro rfl
          simp [noStar, noHyphen, noUnderscore] at mark
        have broken : (c :: rest).all (fun d => d == c || Text.isSpaceOrTab d) = false := by
          rw [List.all_eq_false]
          exact ⟨d, member, by simp [other, visible]⟩
        rw [broken, Bool.and_false, Bool.false_and]
      · rw [Bool.not_eq_true] at mark
        rw [mark, Bool.false_and, Bool.false_and]

section Items

variable {ordered : Bool} {marker : Char} {number : Nat} {line : List Char}

/-- A marker does not begin like anything that is tried before list items, except that the bullets may
begin a rule. -/
theorem exists_itemMarker_eq_cons
    (isMarker : IsMarker ordered marker)
    (number : Nat) :
    ∃ c rest, itemMarker ordered marker number = c :: rest ∧ Text.isSpaceOrTab c = false ∧
      c ∉ ['>', '#', '\x60', '~', '<'] ∧ (ordered = true → c ∉ ['*', '_', '-']) := by
  cases ordered with
  | false =>
      refine ⟨marker, [], rfl, ?_⟩
      rcases isMarker with rfl | rfl
      all_goals decide
  | true =>
      obtain ⟨c, rest, digits⟩ := List.exists_cons_of_ne_nil (@Nat.toDigits_ne_nil number 10)
      have isDigit : c.isDigit = true :=
        Nat.isDigit_of_mem_toDigits (by decide) (by decide) (digits ▸ List.mem_cons_self)
      have other {others : List Char} (none : others.all (!·.isDigit) = true) : c ∉ others := by
        intro member
        have := List.all_eq_true.mp none c member
        simp [isDigit] at this
      have visible : c ∉ [' ', '\t'] := other rfl
      exact ⟨c, rest ++ [marker], by rw [itemMarker, if_pos rfl, digits]; rfl,
        by simpa [Text.isSpaceOrTab] using visible, other rfl, fun _ => other rfl⟩

/-- A marker is made of digits and one of four characters. -/
theorem isDigit_or_of_mem_itemMarker
    (isMarker : IsMarker ordered marker)
    {c : Char}
    (member : c ∈ itemMarker ordered marker number) :
    c.isDigit = true ∨ c ∈ ['.', ')', '-', '*'] := by
  cases ordered with
  | false =>
      obtain rfl := List.mem_singleton.mp member
      rcases isMarker with rfl | rfl
      all_goals exact .inr (by decide)
  | true =>
      rcases List.mem_append.mp member with digit | last
      · exact .inl (Nat.isDigit_of_mem_toDigits (by decide) (by decide) digit)
      · obtain rfl := List.mem_singleton.mp last
        rcases isMarker with rfl | rfl
        all_goals exact .inr (by decide)

/-- Digits are read as a number up to the first character that is none. -/
theorem takeWhile_isDigit_append
    {digits : List Char}
    (areDigits : ∀ d ∈ digits, d.isDigit = true)
    {c : Char}
    (notDigit : c.isDigit = false)
    (rest : List Char) :
    (digits ++ c :: rest).takeWhile Char.isDigit = digits := by
  rw [List.takeWhile_append_of_pos areDigits, List.takeWhile_cons_of_neg (by simp [notDigit]),
    List.append_nil]

theorem dropWhile_isSpaceOrTab_space_cons
    (solid : IsSolid line) :
    (' ' :: line).dropWhile Text.isSpaceOrTab = line := by
  obtain ⟨c, rest, rfl, visible⟩ := solid
  rw [List.dropWhile_cons_of_pos (by decide), List.dropWhile_cons_of_neg (by simp [visible])]

theorem listMarker?_bullet
    (bullet : marker = '*' ∨ marker = '-' ∨ marker = '+')
    (solid : IsSolid line)
    (inParagraph : Bool) :
    listMarker? inParagraph (marker :: ' ' :: line) = some (.bullet marker, 1) := by
  have text := dropWhile_isSpaceOrTab_space_cons solid
  have some : line.isEmpty = false := by
    simpa using solid.ne_nil
  have spaced : Text.isAsciiSpace ' ' = true := rfl
  rw [listMarker?, if_pos bullet]
  simp [text, spaced, some]

/-- Digits with a delimiter and text behind them are the marker of an item, unless there are more than
nine of them. -/
theorem listMarker?_digits
    {digits : List Char}
    (areDigits : ∀ d ∈ digits, d.isDigit = true)
    (nonempty : digits ≠ [])
    (short : digits.length ≤ 9)
    (delimiter : marker = '.' ∨ marker = ')')
    (solid : IsSolid line)
    {inParagraph : Bool}
    (one : inParagraph = true → numberOfDigits 10 digits = 1) :
    listMarker? inParagraph (digits ++ marker :: ' ' :: line) =
      some (.ordered marker, digits.length + 1) := by
  have text := dropWhile_isSpaceOrTab_space_cons solid
  have some : line.isEmpty = false := by
    simpa using solid.ne_nil
  have spaced : Text.isAsciiSpace ' ' = true := rfl
  have notDigit : marker.isDigit = false := by
    rcases delimiter with rfl | rfl
    all_goals rfl
  have run : ((digits ++ marker :: ' ' :: line).takeWhile Char.isDigit).take 9 = digits := by
    rw [takeWhile_isDigit_append areDigits notDigit, List.take_of_length_le short]
  have behind : (digits ++ marker :: ' ' :: line).drop digits.length = marker :: ' ' :: line :=
    List.drop_left
  have filled : digits.isEmpty = false := by
    simpa using nonempty
  obtain ⟨d, others, rfl⟩ := List.exists_cons_of_ne_nil nonempty
  have noBullet : ¬ (d = '*' ∨ d = '-' ∨ d = '+') := by
    rintro (rfl | rfl | rfl)
    all_goals exact absurd (areDigits _ List.mem_cons_self) (by decide)
  rw [List.cons_append] at run behind ⊢
  rw [listMarker?, if_neg noBullet]
  simp only [run, behind]
  cases inParagraph with
  | false => simp [filled, delimiter, text, spaced, some]
  | true => simp [filled, delimiter, text, spaced, some, one]

/-- A written marker with text behind it is read as the marker of an item. Numbers of more than nine
digits are not, and in a paragraph only a list that begins with one is begun. -/
theorem listMarker?_itemMarker
    (isMarker : IsMarker ordered marker)
    (small : ordered = true → number < 1000000000)
    (solid : IsSolid line)
    {inParagraph : Bool}
    (first : inParagraph = true → number = 1) :
    listMarker? inParagraph (itemMarker ordered marker number ++ ' ' :: line) =
      some (listKind ordered marker, (itemMarker ordered marker number).length) := by
  cases ordered with
  | false =>
      have bullet : marker = '*' ∨ marker = '-' ∨ marker = '+' := by
        rcases isMarker with rfl | rfl
        · exact .inr (.inl rfl)
        · exact .inl rfl
      exact listMarker?_bullet bullet solid inParagraph
  | true =>
      have areDigits : ∀ d ∈ Nat.toDigits 10 number, d.isDigit = true := fun d =>
        Nat.isDigit_of_mem_toDigits (by decide) (by decide)
      have short : (Nat.toDigits 10 number).length ≤ 9 :=
        (Nat.length_toDigits_le_iff (by decide) (by decide)).mpr (show number < 10 ^ 9 from small rfl)
      have one : inParagraph = true → numberOfDigits 10 (Nat.toDigits 10 number) = 1 := by
        intro holds
        rw [first holds]
        rfl
      have isItem := listMarker?_digits areDigits Nat.toDigits_ne_nil short isMarker solid one
      rw [itemMarker, if_pos rfl, List.length_append, List.length_singleton, List.append_assoc]
      exact isItem

theorem itemContent_space
    (solid : IsSolid line)
    (length column : Nat) :
    itemContent length ⟨column, false, ' ' :: line⟩ = (length + 1, ⟨column + 1, false, line⟩) := by
  have skipped : (⟨column, false, ' ' :: line⟩ : Cursor).skipBlanks = ⟨column + 1, false, line⟩ := by
    rw [Cursor.skipBlanks, Cursor.skipBlanksFrom, Cursor.skipBlanksFrom_of_isSolid solid]
  have indent : (⟨column, false, ' ' :: line⟩ : Cursor).indent = 1 := by
    rw [Cursor.indent, skipped]
    exact Nat.add_sub_cancel_left column 1
  have visible : (⟨column, false, ' ' :: line⟩ : Cursor).isBlank = false := by
    rw [Cursor.isBlank, skipped]
    simpa using solid.ne_nil
  have dropped : (⟨column, false, ' ' :: line⟩ : Cursor).dropColumns 1 = ⟨column + 1, false, line⟩ :=
    Cursor.dropColumnsFrom_replicate 1 column line
  rw [itemContent, indent, visible, if_pos (by simp)]
  exact congrArg (Prod.mk (length + 1)) dropped

theorem underlineDepth?_itemMarker
    (isMarker : IsMarker ordered marker)
    (number : Nat)
    (solid : IsSolid line) :
    underlineDepth? (itemMarker ordered marker number ++ ' ' :: line) = none := by
  have shown : (' ' :: line).all Text.isSpaceOrTab = false := by
    obtain ⟨c, rest, rfl, visible⟩ := solid
    simp [visible]
  cases ordered with
  | false =>
      rcases isMarker with rfl | rfl
      · rw [itemMarker, if_neg Bool.false_ne_true, List.singleton_append, underlineDepth?,
          List.dropWhile_cons_of_pos (by decide), List.dropWhile_cons_of_neg (by decide), shown,
          if_neg (by simp)]
      · exact underlineDepth?_eq_none (by decide) (by decide)
  | true =>
      obtain ⟨c, rest, digits⟩ := List.exists_cons_of_ne_nil (@Nat.toDigits_ne_nil number 10)
      have isDigit : c.isDigit = true :=
        Nat.isDigit_of_mem_toDigits (by decide) (by decide) (digits ▸ List.mem_cons_self)
      rw [itemMarker, if_pos rfl, digits]
      refine underlineDepth?_eq_none ?_ ?_
      all_goals rintro rfl; cases isDigit

/-- The first line of a numbered item is no rule, and that of another is none if its content holds more
than one. -/
theorem holdsMoreThanRule_itemMarker
    (isMarker : IsMarker ordered marker)
    (number : Nat)
    (holds : ordered = true ∨ HoldsMoreThanRule line) :
    HoldsMoreThanRule (itemMarker ordered marker number ++ ' ' :: line) := by
  rcases holds with isOrdered | ⟨c, member, others⟩
  · obtain ⟨c, rest, cut, visible, -, numbered⟩ := exists_itemMarker_eq_cons isMarker number
    have numeral := numbered isOrdered
    simp only [List.mem_cons, not_or] at numeral
    rw [cut]
    exact ⟨c, .head _, numeral.1, numeral.2.2.1, numeral.2.1, visible⟩
  · exact ⟨c, by simp [member], others⟩

/-- The first line of a written item begins an item, behind whose marker and one space stands what the
item shows. In a paragraph only the first item of a list does. -/
theorem start?_item
    (isMarker : IsMarker ordered marker)
    (small : ordered = true → number < 1000000000)
    (solid : IsSolid line)
    (holds : ordered = true ∨ HoldsMoreThanRule line)
    {cursor : Cursor}
    (shows : cursor.Shows (itemMarker ordered marker number ++ ' ' :: line)) :
    ∃ content : Cursor, content.Shows line ∧
      ∀ inParagraph continuesParagraph, (inParagraph = true → number = 1) →
        start? inParagraph continuesParagraph cursor =
          some (.item (listKind ordered marker) ((itemMarker ordered marker number).length + 1)
            content) := by
  have noTab : '\t' ∉ itemMarker ordered marker number := fun member =>
    absurd (isDigit_or_of_mem_itemMarker isMarker member) (by decide)
  obtain ⟨column, rfl⟩ := shows
  refine ⟨⟨column + (itemMarker ordered marker number).length + 1, false, line⟩, ⟨_, rfl⟩,
    fun inParagraph continuesParagraph first => ?_⟩
  have isItem := listMarker?_itemMarker isMarker small solid first
  have advanced := Cursor.advance_append noTab column (' ' :: line)
  obtain ⟨c, rest, cut, visible, closed, -⟩ := exists_itemMarker_eq_cons isMarker number
  have other {opener : Char} (special : opener ∈ ['>', '#', '\x60', '~', '<']) : c ≠ opener :=
    fun same => closed (same ▸ special)
  have noRule := isRule_of_holdsMoreThanRule (holdsMoreThanRule_itemMarker isMarker number holds)
  generalize itemMarker ordered marker number = written at *
  subst cut
  rw [List.cons_append] at *
  rw [start?_of_visible visible (other (by decide)) ⟨column, rfl⟩,
    heading?_eq_none (other (by decide)), openingFence?_eq_none (other (by decide)) (other (by decide)),
    htmlKind?_eq_none (other (by decide)), noRule, isItem]
  simp only [Option.map_some, advanced, itemContent_space solid]
  rfl

end Items
end Reader
end Markdown
end TwinEditor
