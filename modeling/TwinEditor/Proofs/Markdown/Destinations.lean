import TwinEditor.Proofs.Markdown.PlainNode

/-!
# Reading destinations

A destination is written as it is, or in angle brackets with those inside it escaped. It reads back as
itself unless it holds a backslash that would escape something, or what looks like a character reference,
which reading replaces.
-/

namespace TwinEditor
namespace Markdown
namespace Reader

/-- Whether a destination is written in angle brackets. -/
def needsBrackets (url : List Char) : Bool :=
  url.any fun c => Text.isBlank c || c == '(' || c == ')' || c == '<' || c == '>'

/-- A destination with the angle brackets in it escaped. -/
def escapeBrackets (url : List Char) : List Char :=
  Text.replaceChar '>' ['\\', '>'] (Text.replaceChar '<' ['\\', '<'] url)

/-- What is written for a destination, without the angle brackets around it. -/
def destinationText (url : List Char) : List Char :=
  if needsBrackets url then escapeBrackets url else url

/-- Whether a destination reads back as itself. -/
def isPlainDestination (url : List Char) : Bool :=
  !url.contains '\\' && !url.contains '\n' &&
    url.head?.all (!Text.isAsciiSpace ·) && url.getLast?.all (!Text.isAsciiSpace ·) &&
    (needsBrackets url || url.all (!endsDestination ·)) &&
    decodeReferences (destinationText url) == destinationText url

/-- Whether a backslash in a text takes something along that stands behind it: ASCII punctuation, or what
is written behind the text. -/
def holdsEscape : List Char → Bool
  | [] => false
  | c :: rest => (c == '\\' && rest.head?.all Text.isAsciiPunctuation) || holdsEscape rest

theorem holdsEscape_eq_false
    {text : List Char}
    (noBackslash : '\\' ∉ text) :
    holdsEscape text = false := by
  induction text with
  | nil => rfl
  | cons c rest inductionHypothesis =>
      rw [List.mem_cons, not_or] at noBackslash
      rw [holdsEscape, inductionHypothesis noBackslash.2, beq_false_of_ne (Ne.symm noBackslash.1)]
      rfl

/-- A backslash that escapes nothing stands before a character that needs no escape either. -/
theorem exists_of_holdsEscape
    {rest : List Char}
    (noEscape : holdsEscape ('\\' :: rest) = false) :
    holdsEscape rest = false ∧
      ∃ c more, rest = c :: more ∧ Text.isAsciiPunctuation c = false ∧ ¬ (c = '<' ∨ c = '>') := by
  rw [holdsEscape, Bool.or_eq_false_iff, beq_self_eq_true, Bool.true_and] at noEscape
  cases rest with
  | nil => cases noEscape.1
  | cons c more =>
      have plain : Text.isAsciiPunctuation c = false := noEscape.1
      refine ⟨noEscape.2, c, more, rfl, plain, ?_⟩
      rintro (rfl | rfl)
      all_goals cases plain

theorem holdsEscape_of_cons
    {c : Char}
    {rest : List Char}
    (noEscape : holdsEscape (c :: rest) = false) :
    holdsEscape rest = false :=
  (Bool.or_eq_false_iff.mp noEscape).2

theorem escapeBrackets_cons
    (c : Char)
    (rest : List Char) :
    escapeBrackets (c :: rest) =
      (if c = '<' ∨ c = '>' then ['\\', c] else [c]) ++ escapeBrackets rest := by
  rw [escapeBrackets, Text.replaceChar, Text.replaceChar, List.flatMap_cons, List.flatMap_append]
  by_cases opens : c = '<'
  · subst opens
    rfl
  · by_cases closes : c = '>'
    · subst closes
      rfl
    · rw [if_neg opens, if_neg (not_or.mpr ⟨opens, closes⟩), List.flatMap_singleton, if_neg closes]
      rfl

theorem escapeBrackets_of_isBracket
    {c : Char}
    (isBracket : c = '<' ∨ c = '>')
    (rest : List Char) :
    escapeBrackets (c :: rest) = '\\' :: c :: escapeBrackets rest := by
  rw [escapeBrackets_cons, if_pos isBracket]
  rfl

theorem escapeBrackets_of_noBracket
    {c : Char}
    (noBracket : ¬ (c = '<' ∨ c = '>'))
    (rest : List Char) :
    escapeBrackets (c :: rest) = c :: escapeBrackets rest := by
  rw [escapeBrackets_cons, if_neg noBracket, List.singleton_append]

theorem isAsciiPunctuation_of_isBracket
    {c : Char}
    (isBracket : c = '<' ∨ c = '>') :
    Text.isAsciiPunctuation c = true := by
  rcases isBracket with rfl | rfl
  all_goals rfl

section

variable {url tail : List Char}

/-- A backslash before a character that ends nothing is passed over. -/
theorem bracketedDestination?_backslash
    {c : Char}
    (plain : Text.isAsciiPunctuation c = false)
    (noNewline : c ≠ '\n')
    (rest : List Char) :
    bracketedDestination? ('\\' :: c :: rest) =
      (bracketedDestination? (c :: rest)).map fun (inner, after) => ('\\' :: inner, after) := by
  have other {d : Char} (punctuation : Text.isAsciiPunctuation d = true) : c ≠ d := by
    rintro rfl
    rw [plain] at punctuation
    cases punctuation
  have single : bracketedDestination? (c :: rest) =
      (bracketedDestination? rest).map fun (inner, after) => (c :: inner, after) := by
    rw [bracketedDestination?, if_neg (not_or.mpr ⟨noNewline, other rfl⟩)]
    · exact other rfl
    · exact fun _ _ same _ => other rfl same
  rw [bracketedDestination?, single, Option.map_map]
  rfl

/-- A destination in angle brackets is read up to the right one that is not escaped. -/
theorem bracketedDestination?_escapeBrackets
    (noEscape : holdsEscape url = false)
    (single : '\n' ∉ url) :
    bracketedDestination? (escapeBrackets url ++ '>' :: tail) = some (escapeBrackets url, tail) := by
  induction url with
  | nil => rfl
  | cons c rest inductionHypothesis =>
      rw [List.mem_cons, not_or] at single
      have reads := inductionHypothesis (holdsEscape_of_cons noEscape) single.2
      by_cases isBracket : c = '<' ∨ c = '>'
      · rw [escapeBrackets_of_isBracket isBracket, List.cons_append, List.cons_append,
          bracketedDestination?, reads]
        rfl
      · rw [escapeBrackets_of_noBracket isBracket, List.cons_append]
        by_cases isBackslash : c = '\\'
        · subst isBackslash
          obtain ⟨-, d, more, rfl, ordinary, noBracket⟩ := exists_of_holdsEscape noEscape
          rw [List.mem_cons, not_or] at single
          rw [escapeBrackets_of_noBracket noBracket, List.cons_append] at reads ⊢
          rw [bracketedDestination?_backslash ordinary (Ne.symm single.2.1), reads]
          rfl
        · rw [not_or] at isBracket
          rw [bracketedDestination?, if_neg (not_or.mpr ⟨Ne.symm single.1, isBracket.1⟩), reads]
          · rfl
          · exact isBracket.2
          · exact fun _ _ same _ => isBackslash same

/-- The escapes of angle brackets are removed again. -/
theorem removeEscapes_escapeBrackets
    (noEscape : holdsEscape url = false) :
    removeEscapes (escapeBrackets url) = url := by
  induction url with
  | nil => rfl
  | cons c rest inductionHypothesis =>
      have removed := inductionHypothesis (holdsEscape_of_cons noEscape)
      by_cases isBracket : c = '<' ∨ c = '>'
      · rw [escapeBrackets_of_isBracket isBracket, removeEscapes,
          if_pos (isAsciiPunctuation_of_isBracket isBracket), removed]
      · rw [escapeBrackets_of_noBracket isBracket]
        by_cases isBackslash : c = '\\'
        · subst isBackslash
          obtain ⟨-, d, more, rfl, ordinary, noBracket⟩ := exists_of_holdsEscape noEscape
          rw [escapeBrackets_of_noBracket noBracket] at removed ⊢
          rw [removeEscapes, ordinary, if_neg Bool.false_ne_true, removed]
        · rw [removeEscapes, removed]
          exact fun _ _ same _ => isBackslash same

/-- Without angle brackets in it nothing of a destination is escaped. -/
theorem escapeBrackets_eq_self
    (noBracket : ∀ c ∈ url, ¬ (c = '<' ∨ c = '>')) :
    escapeBrackets url = url := by
  induction url with
  | nil => rfl
  | cons c rest inductionHypothesis =>
      obtain ⟨first, others⟩ := List.forall_mem_cons.mp noBracket
      rw [escapeBrackets_of_noBracket first, inductionHypothesis others]

/-- A destination without white space, control characters and parentheses is read up to the right
parenthesis behind it. -/
theorem bareDestination?_append
    (plain : ∀ c ∈ url, endsDestination c = false ∧ c ≠ '(' ∧ c ≠ ')')
    (noEscape : holdsEscape url = false)
    (tail : List Char) :
    bareDestination? 0 (url ++ ')' :: tail) = some (url, ')' :: tail) := by
  induction url with
  | nil => rfl
  | cons c rest inductionHypothesis =>
      obtain ⟨⟨inside, noLeft, noRight⟩, others⟩ := List.forall_mem_cons.mp plain
      have reads := inductionHypothesis others (holdsEscape_of_cons noEscape)
      by_cases isBackslash : c = '\\'
      · subst isBackslash
        obtain ⟨-, d, more, rfl, ordinary, -⟩ := exists_of_holdsEscape noEscape
        rw [List.cons_append] at reads
        rw [List.cons_append, List.cons_append, bareDestination?, ordinary, if_neg Bool.false_ne_true,
          reads]
        rfl
      · rw [List.cons_append, bareDestination?, inside, if_neg Bool.false_ne_true, reads]
        · rfl
        · exact fun _ _ same _ => isBackslash same
        · exact noLeft
        · exact noRight

/-- A destination with a right parenthesis behind it is a target, which has no title. -/
theorem parenthesizedTarget?_of_destination?
    {written destination : List Char}
    (first : ∀ c ∈ (written ++ [')']).head?, Text.isAsciiSpace c = false)
    (reads : destination? (written ++ ')' :: tail) = some (destination, ')' :: tail)) :
    parenthesizedTarget? ('(' :: (written ++ ')' :: tail)) =
      some (cleanDestination destination, tail) := by
  have unspaced : (written ++ ')' :: tail).dropWhile Text.isAsciiSpace = written ++ ')' :: tail := by
    refine Text.trimStart_eq_self fun c isFirst => first c ?_
    cases written with
    | nil => exact isFirst
    | cons d rest => exact isFirst
  have behind : (')' :: tail).dropWhile Text.isAsciiSpace = ')' :: tail :=
    List.dropWhile_cons_of_neg (by decide)
  rw [parenthesizedTarget?, unspaced, reads]
  dsimp only [Option.bind_eq_bind, Option.bind_some]
  rw [behind, if_pos rfl, behind]
  rfl

theorem head?_escapeBrackets
    {c : Char}
    (isFirst : c ∈ (escapeBrackets url).head?) :
    c = '\\' ∨ c ∈ url.head? := by
  cases url with
  | nil => cases isFirst
  | cons d rest =>
      rw [escapeBrackets_cons] at isFirst
      split at isFirst
      · exact .inl (Option.some.inj isFirst).symm
      · exact .inr isFirst

theorem getLast?_escapeBrackets : (escapeBrackets url).getLast? = url.getLast? := by
  induction url with
  | nil => rfl
  | cons c rest inductionHypothesis =>
      rw [escapeBrackets_cons, List.getLast?_append, inductionHypothesis, List.getLast?_cons]
      cases rest.getLast? with
      | some d => rfl
      | none => split <;> rfl

/-- A destination in angle brackets is a target. -/
theorem parenthesizedTarget?_bracketed
    (noEscape : holdsEscape url = false)
    (single : '\n' ∉ url)
    (first : ∀ c ∈ url.head?, Text.isAsciiSpace c = false)
    (last : ∀ c ∈ url.getLast?, Text.isAsciiSpace c = false)
    (noReference : decodeReferences (escapeBrackets url) = escapeBrackets url)
    (tail : List Char) :
    parenthesizedTarget? ('(' :: ('<' :: (escapeBrackets url ++ ['>']) ++ ')' :: tail)) =
      some (url, tail) := by
  have trimmed : Text.trim Text.isAsciiSpace (escapeBrackets url) = escapeBrackets url := by
    refine Text.trim_eq_self (fun c isFirst => ?_) fun c isLast => ?_
    · rcases head?_escapeBrackets isFirst with rfl | isFirst
      · rfl
      · exact first c isFirst
    · exact last c (getLast?_escapeBrackets ▸ isLast)
  have reads : destination? ('<' :: (escapeBrackets url ++ ['>']) ++ ')' :: tail) =
      some (escapeBrackets url, ')' :: tail) := by
    have inBrackets := @bracketedDestination?_escapeBrackets url (')' :: tail) noEscape single
    rw [List.cons_append, List.append_assoc]
    exact inBrackets
  have visible : ∀ c ∈ ('<' :: (escapeBrackets url ++ ['>']) ++ [')']).head?,
      Text.isAsciiSpace c = false := by
    intro c isFirst
    obtain rfl := Option.some.inj isFirst
    decide
  rw [parenthesizedTarget?_of_destination? visible reads, cleanDestination, trimmed, noReference,
    removeEscapes_escapeBrackets noEscape]

/-- A destination in which nothing needs angle brackets is a target as it is. -/
theorem parenthesizedTarget?_bare
    (plain : ∀ c ∈ url, endsDestination c = false ∧ c ≠ '(' ∧ c ≠ ')')
    (noBracket : ∀ c ∈ url, ¬ (c = '<' ∨ c = '>'))
    (noEscape : holdsEscape url = false)
    (noReference : decodeReferences url = url)
    (tail : List Char) :
    parenthesizedTarget? ('(' :: (url ++ ')' :: tail)) = some (url, tail) := by
  have visible : ∀ c ∈ url, Text.isAsciiSpace c = false := by
    intro c member
    have inside := (plain c member).1
    rw [endsDestination, Bool.or_eq_false_iff, Bool.or_eq_false_iff] at inside
    exact inside.1.1
  have trimmed : Text.trim Text.isAsciiSpace url = url :=
    Text.trim_eq_self (fun c isFirst => visible c (List.mem_of_head? isFirst))
      fun c isLast => visible c (List.mem_of_getLast? isLast)
  have reads : destination? (url ++ ')' :: tail) = some (url, ')' :: tail) := by
    have bare := bareDestination?_append plain noEscape tail
    cases url with
    | nil => rfl
    | cons c rest =>
        rw [List.cons_append] at bare ⊢
        rw [destination?, (plain c (.head rest)).1, if_neg Bool.false_ne_true, bare]
        exact fun same => noBracket c (.head rest) (.inl same)
  have first : ∀ c ∈ (url ++ [')']).head?, Text.isAsciiSpace c = false := by
    intro c isFirst
    rcases List.mem_append.mp (List.mem_of_head? isFirst) with member | isParenthesis
    · exact visible c member
    · rw [List.mem_singleton.mp isParenthesis]
      rfl
  have removed := removeEscapes_escapeBrackets noEscape
  rw [escapeBrackets_eq_self noBracket] at removed
  rw [parenthesizedTarget?_of_destination? first reads, cleanDestination, trimmed, noReference, removed]

/-- What need not stand in angle brackets holds none, and no parentheses and white space. -/
theorem of_needsBrackets_eq_false
    (bare : needsBrackets url = false)
    {c : Char}
    (member : c ∈ url) :
    Text.isBlank c = false ∧ c ≠ '(' ∧ c ≠ ')' ∧ ¬ (c = '<' ∨ c = '>') := by
  rw [needsBrackets, List.any_eq_false] at bare
  simpa [and_assoc] using bare c member

/-- A destination that holds no escape and no reference is the target of the link or image it is written
for, unless white space stands at its ends. -/
theorem parenthesizedTarget?_of_holdsEscape
    (noEscape : holdsEscape url = false)
    (single : '\n' ∉ url)
    (first : ∀ c ∈ url.head?, Text.isAsciiSpace c = false)
    (last : ∀ c ∈ url.getLast?, Text.isAsciiSpace c = false)
    (inside : needsBrackets url = false → ∀ c ∈ url, endsDestination c = false)
    (noReference : decodeReferences (destinationText url) = destinationText url)
    (tail : List Char) :
    parenthesizedTarget? ('(' :: (linkDestination url ++ ')' :: tail)) = some (url, tail) := by
  by_cases brackets : needsBrackets url = true
  · have written : linkDestination url = '<' :: (escapeBrackets url ++ ['>']) := if_pos brackets
    rw [destinationText, if_pos brackets] at noReference
    rw [written]
    exact parenthesizedTarget?_bracketed noEscape single first last noReference tail
  · have written : linkDestination url = url := if_neg brackets
    rw [destinationText, if_neg brackets] at noReference
    have bare := Bool.not_eq_true _ ▸ brackets
    have plain {c : Char} (member : c ∈ url) := of_needsBrackets_eq_false bare member
    rw [written]
    exact parenthesizedTarget?_bare
      (fun c member => ⟨inside bare c member, (plain member).2.1, (plain member).2.2.1⟩)
      (fun c member => (plain member).2.2.2) noEscape noReference tail

/-- A destination that reads as itself is the target of the link or image it is written for. -/
theorem parenthesizedTarget?_linkDestination
    (plain : isPlainDestination url = true)
    (tail : List Char) :
    parenthesizedTarget? ('(' :: (linkDestination url ++ ')' :: tail)) = some (url, tail) := by
  simp only [isPlainDestination, Bool.and_eq_true, Bool.or_eq_true, Bool.not_eq_true',
    List.contains_eq_mem, decide_eq_false_iff_not, Option.all_eq_true, List.all_eq_true,
    beq_iff_eq] at plain
  obtain ⟨⟨⟨⟨⟨noBackslash, single⟩, first⟩, last⟩, inside⟩, noReference⟩ := plain
  exact parenthesizedTarget?_of_holdsEscape (holdsEscape_eq_false noBackslash) single first last
    (fun bare => inside.resolve_left (by simp [bare])) noReference tail

end

end Reader
end Markdown
end TwinEditor
