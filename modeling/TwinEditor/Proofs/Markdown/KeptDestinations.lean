import TwinEditor.Proofs.Markdown.Destinations

/-!
# Destinations that read back

A destination is the target of the link it is written for exactly if no space stands at its ends, no
reference is in it, and no backslash escapes anything. Otherwise reading would have to replace something,
and every replacement leaves fewer characters that are no backslashes.
-/

namespace TwinEditor
namespace Markdown
namespace Reader

/-! ## References in a destination -/

/-- Whether there is a character reference in a text. -/
def holdsReference : List Char → Bool
  | [] => false
  | c :: rest => (c == '&' && (characterReference? rest).isSome) || holdsReference rest

section References

variable {c : Char} {rest : List Char}

theorem decodeReferencesFrom_eq
    (skip : Nat)
    (text : List Char) :
    decodeReferencesFrom skip text = decodeReferences (text.drop skip) := by
  induction text generalizing skip with
  | nil => rw [List.drop_nil, decodeReferences, decodeReferencesFrom, decodeReferencesFrom]
  | cons c rest inductionHypothesis =>
      cases skip with
      | zero => rfl
      | succ skip => rw [decodeReferencesFrom, inductionHypothesis, List.drop_succ_cons]

theorem decodeReferences_cons
    (plain : (c == '&' && (characterReference? rest).isSome) = false) :
    decodeReferences (c :: rest) = c :: decodeReferences rest := by
  rw [decodeReferences, decodeReferencesFrom, decodeReferences]
  split
  · next isAmpersand =>
      rw [isAmpersand, beq_self_eq_true, Bool.true_and, Option.isSome_eq_false_iff,
        Option.isNone_iff_eq_none] at plain
      rw [plain]
  · rfl

theorem IsReference.decodeReferences_eq
    {body chars : List Char}
    (isReference : IsReference body chars)
    (rest : List Char) :
    decodeReferences ('&' :: (body ++ ';' :: rest)) = chars ++ decodeReferences rest := by
  rw [decodeReferences, decodeReferencesFrom, if_pos rfl, isReference.reads]
  dsimp only
  rw [decodeReferencesFrom_eq, List.append_cons, List.drop_left' (by simp)]

theorem decodeReferences_of_holdsReference
    {text : List Char}
    (none : holdsReference text = false) :
    decodeReferences text = text := by
  induction text with
  | nil => rfl
  | cons c rest inductionHypothesis =>
      rw [holdsReference, Bool.or_eq_false_iff] at none
      rw [decodeReferences_cons none.1, inductionHypothesis none.2]

/-- A reference holds nothing that writing escapes. -/
theorem IsReference.notMem
    {body chars : List Char}
    (isReference : IsReference body chars)
    {d : Char}
    (other : d ≠ '#' ∧ d.isAlphanum = false) :
    d ∉ body := by
  intro member
  rcases isReference.plain d member with isSign | isName
  · exact other.1 isSign
  · rw [other.2] at isName
    cases isName

end References

/-! ## Angle brackets in a destination -/

section Brackets

theorem escapeBrackets_append (first second : List Char) :
    escapeBrackets (first ++ second) = escapeBrackets first ++ escapeBrackets second := by
  simp only [escapeBrackets, Text.replaceChar, List.flatMap_append]

/-- What stands before the first escape is written as it is. -/
theorem exists_of_escapeBrackets_eq
    {text plain tail : List Char}
    (noBackslash : '\\' ∉ plain)
    (same : escapeBrackets text = plain ++ tail) :
    ∃ rest, text = plain ++ rest := by
  induction plain generalizing text with
  | nil => exact ⟨text, rfl⟩
  | cons d plain inductionHypothesis =>
      rw [List.mem_cons, not_or] at noBackslash
      cases text with
      | nil => cases same
      | cons c text =>
          by_cases isBracket : c = '<' ∨ c = '>'
          · rw [escapeBrackets_of_isBracket isBracket] at same
            exact absurd (List.cons.inj same).1 noBackslash.1
          · rw [escapeBrackets_of_noBracket isBracket] at same
            obtain ⟨rfl, others⟩ := List.cons.inj same
            obtain ⟨rest, rfl⟩ := inductionHypothesis noBackslash.2 others
            exact ⟨rest, rfl⟩

/-- No reference is made or broken by the escapes behind it. -/
theorem characterReference?_escapeBrackets (text : List Char) :
    characterReference? (escapeBrackets text) = characterReference? text := by
  cases found : characterReference? text with
  | some reference =>
      obtain ⟨chars, length⟩ := reference
      obtain ⟨body, rest, rfl, rfl, isReference⟩ := exists_of_characterReference? found
      have plain : escapeBrackets body = body := escapeBrackets_eq_self fun c member isBracket => by
        rcases isBracket with rfl | rfl
        all_goals exact isReference.notMem (by decide) member
      rw [escapeBrackets_append, plain, escapeBrackets_of_noBracket (by decide)]
      exact isReference.reads _
  | none =>
      refine Option.eq_none_iff_forall_ne_some.mpr fun ⟨chars, length⟩ escaped => ?_
      obtain ⟨body, rest, same, rfl, isReference⟩ := exists_of_characterReference? escaped
      rw [List.append_cons] at same
      have noBackslash : '\\' ∉ body ++ [';'] := by simp [isReference.notMem]
      obtain ⟨rest, rfl⟩ := exists_of_escapeBrackets_eq noBackslash same
      rw [List.append_assoc, List.singleton_append, isReference.reads] at found
      cases found

theorem holdsReference_cons
    {c : Char}
    (noAmpersand : c ≠ '&')
    (rest : List Char) :
    holdsReference (c :: rest) = holdsReference rest := by
  rw [holdsReference, beq_false_of_ne noAmpersand, Bool.false_and, Bool.false_or]

theorem holdsReference_escapeBrackets (url : List Char) :
    holdsReference (escapeBrackets url) = holdsReference url := by
  induction url with
  | nil => rfl
  | cons c rest inductionHypothesis =>
      by_cases isBracket : c = '<' ∨ c = '>'
      · have noAmpersand : c ≠ '&' := by
          rintro rfl
          exact absurd isBracket (by decide)
        rw [escapeBrackets_of_isBracket isBracket, holdsReference_cons (by decide),
          holdsReference_cons noAmpersand, holdsReference_cons noAmpersand, inductionHypothesis]
      · rw [escapeBrackets_of_noBracket isBracket, holdsReference, holdsReference, inductionHypothesis,
          characterReference?_escapeBrackets]

end Brackets

/-! ## What reading leaves of a destination -/

/-- The number of characters of a text that are no backslashes. Writing a destination adds backslashes
only. -/
def weight (text : List Char) : Nat :=
  text.countP (· != '\\')

theorem weight_append (first second : List Char) :
    weight (first ++ second) = weight first + weight second :=
  List.countP_append

theorem weight_cons
    (c : Char)
    (rest : List Char) :
    weight (c :: rest) = weight [c] + weight rest :=
  weight_append [c] rest

theorem weight_singleton
    {c : Char}
    (visible : c ≠ '\\') :
    weight [c] = 1 :=
  List.countP_cons_of_pos (by simpa using visible)

theorem weight_backslash_cons (rest : List Char) : weight ('\\' :: rest) = weight rest :=
  List.countP_cons_of_neg (by decide)

theorem weight_eq_length
    {text : List Char}
    (noBackslash : '\\' ∉ text) :
    weight text = text.length :=
  List.countP_eq_length.mpr fun c member => by
    simpa using fun same : c = '\\' => noBackslash (same ▸ member)

theorem weight_escapeBrackets (url : List Char) : weight (escapeBrackets url) = weight url := by
  induction url with
  | nil => rfl
  | cons c rest inductionHypothesis =>
      rw [escapeBrackets_cons, weight_append, inductionHypothesis, weight_cons]
      split
      · rw [weight_backslash_cons]
      · rfl

theorem weight_removeEscapes (text : List Char) : weight (removeEscapes text) = weight text := by
  fun_induction removeEscapes text with
  | case1 c rest punctuation inductionHypothesis =>
      rw [weight_backslash_cons, weight_cons, weight_cons c rest, inductionHypothesis]
  | case2 c rest ordinary inductionHypothesis =>
      rw [weight_backslash_cons, weight_backslash_cons, inductionHypothesis]
  | case3 c rest noEscape inductionHypothesis =>
      rw [weight_cons, weight_cons c rest, inductionHypothesis]
  | case4 => rfl

/-- A reference is longer than what it stands for. -/
theorem weight_decodeReferences (text : List Char) :
    weight (decodeReferences text) ≤ weight text ∧
      (holdsReference text = true → weight (decodeReferences text) < weight text) := by
  -- On the length, since a reference is passed over as a whole.
  induction size : text.length using Nat.strongRecOn generalizing text with
  | ind size inductionHypothesis =>
      subst size
      cases text with
      | nil => exact ⟨Nat.le_refl _, nofun⟩
      | cons c rest =>
          cases plain : c == '&' && (characterReference? rest).isSome with
          | false =>
              have behind := inductionHypothesis rest.length (Nat.lt_succ_self _) rest rfl
              rw [decodeReferences_cons plain, holdsReference, plain, Bool.false_or, weight_cons,
                weight_cons c rest]
              exact ⟨Nat.add_le_add_left behind.1 _, fun holds => Nat.add_lt_add_left (behind.2 holds) _⟩
          | true =>
              rw [Bool.and_eq_true, beq_iff_eq, Option.isSome_iff_exists] at plain
              obtain ⟨rfl, ⟨chars, length⟩, found⟩ := plain
              obtain ⟨body, rest, rfl, rfl, isReference⟩ := exists_of_characterReference? found
              have behind := inductionHypothesis rest.length
                (by simp only [List.length_cons, List.length_append]; omega) rest rfl
              have few : weight chars ≤ chars.length := List.countP_le_length
              have whole : weight body = body.length :=
                weight_eq_length (isReference.notMem (by decide))
              have shorter := isReference.shorter
              rw [isReference.decodeReferences_eq, weight_append, weight_cons, weight_append, weight_cons ';',
                weight_singleton (by decide), weight_singleton (by decide)]
              omega

theorem isAsciiSpace_eq_false_of_weight
    {text : List Char}
    (light : weight (text.takeWhile Text.isAsciiSpace) = 0) :
    ∀ c ∈ text.head?, Text.isAsciiSpace c = false := by
  have spaces : '\\' ∉ text.takeWhile Text.isAsciiSpace := fun member => by
    cases List.all_eq_true.mp List.all_takeWhile _ member
  rw [weight_eq_length spaces, List.length_eq_zero_iff] at light
  intro c isFirst
  obtain ⟨rest, rfl⟩ := List.head?_eq_some_iff.mp isFirst
  refine Bool.eq_false_iff.mpr fun isSpace => ?_
  rw [List.takeWhile_cons_of_pos isSpace] at light
  cases light

/-- Trimming leaves fewer characters, unless no white space stands at the ends of a text. -/
theorem weight_trim (text : List Char) :
    weight (Text.trim Text.isAsciiSpace text) ≤ weight text ∧
      (weight text ≤ weight (Text.trim Text.isAsciiSpace text) →
        (∀ c ∈ text.head?, Text.isAsciiSpace c = false) ∧
          ∀ c ∈ text.getLast?, Text.isAsciiSpace c = false) := by
  have started : weight text =
      weight (text.takeWhile Text.isAsciiSpace) + weight (Text.trimStart Text.isAsciiSpace text) := by
    rw [Text.trimStart, ← weight_append, List.takeWhile_append_dropWhile]
  have ended (text : List Char) : weight text = weight (Text.trimEnd Text.isAsciiSpace text) +
      weight (text.reverse.takeWhile Text.isAsciiSpace) := by
    have reversed := List.countP_reverse (p := (· != '\\'))
      (l := text.reverse.takeWhile Text.isAsciiSpace)
    rw [weight, weight, weight, ← reversed, ← List.countP_append, Text.trimEnd_append_takeWhile]
  have whole := ended (Text.trimStart Text.isAsciiSpace text)
  rw [Text.trim]
  refine ⟨by omega, fun heavy => ?_⟩
  have first := isAsciiSpace_eq_false_of_weight
    (show weight (text.takeWhile Text.isAsciiSpace) = 0 by omega)
  rw [Text.trimStart_eq_self first] at whole heavy
  have last := isAsciiSpace_eq_false_of_weight
    (show weight (text.reverse.takeWhile Text.isAsciiSpace) = 0 by omega)
  rw [List.head?_reverse] at last
  exact ⟨first, last⟩

/-- Where reading leaves as many characters as a destination has, nothing was replaced or trimmed. -/
theorem of_cleanDestination_eq
    {written url : List Char}
    (light : weight written ≤ weight url)
    (clean : cleanDestination written = url) :
    (∀ c ∈ written.head?, Text.isAsciiSpace c = false) ∧
      (∀ c ∈ written.getLast?, Text.isAsciiSpace c = false) ∧
      holdsReference written = false ∧ removeEscapes written = url := by
  obtain ⟨trimmedLight, ends⟩ := weight_trim written
  obtain ⟨decodedLight, noReference⟩ := weight_decodeReferences (Text.trim Text.isAsciiSpace written)
  have heavy : weight url = weight (decodeReferences (Text.trim Text.isAsciiSpace written)) := by
    rw [← clean, cleanDestination, weight_removeEscapes]
  obtain ⟨first, last⟩ := ends (by omega)
  rw [Text.trim_eq_self first last] at noReference heavy
  have none : holdsReference written = false := by
    rw [← Bool.not_eq_true]
    exact fun holds => absurd (noReference holds) (by omega)
  refine ⟨first, last, none, ?_⟩
  rw [← clean, cleanDestination, Text.trim_eq_self first last, decodeReferences_of_holdsReference none]

/-! ## Where destinations end -/

section Ends

variable {url text inner after : List Char}

/-- A destination in angle brackets ends before a right one. -/
theorem eq_append_of_bracketedDestination?
    (found : bracketedDestination? text = some (inner, after)) :
    text = inner ++ '>' :: after := by
  fun_induction bracketedDestination? text generalizing inner with
  | case1 rest =>
      cases found
      rfl
  | case2 c rest inductionHypothesis =>
      obtain ⟨_, isFound, same⟩ := Option.map_eq_some_iff.mp found
      cases same
      rw [inductionHypothesis isFound]
      rfl
  | case3 c rest noEnd noEscape stops => cases found
  | case4 c rest noEnd noEscape goesOn inductionHypothesis =>
      obtain ⟨_, isFound, same⟩ := Option.map_eq_some_iff.mp found
      cases same
      rw [inductionHypothesis isFound]
      rfl
  | case5 => cases found

/-- A destination without angle brackets ends before a right parenthesis or white space. -/
theorem eq_append_of_bareDestination?
    {nesting : Nat}
    (found : bareDestination? nesting text = some (inner, after)) :
    text = inner ++ after ∧ ∃ c rest, after = c :: rest ∧ (c = ')' ∨ endsDestination c = true) := by
  fun_induction bareDestination? nesting text generalizing inner with
  | case1 nesting c rest punctuation inductionHypothesis
  | case2 nesting c rest ordinary inductionHypothesis
  | case3 nesting rest shallow inductionHypothesis
  | case6 rest outer inductionHypothesis
  | case9 nesting c rest noEscape noLeft noRight goesOn inductionHypothesis =>
      obtain ⟨_, isFound, same⟩ := Option.map_eq_some_iff.mp found
      cases same
      obtain ⟨whole, ends⟩ := inductionHypothesis isFound
      refine ⟨?_, ends⟩
      rw [whole]
      rfl
  | case5 rest =>
      cases found
      exact ⟨rfl, _, rest, rfl, .inl rfl⟩
  | case7 c rest noEscape noLeft noRight ends =>
      cases found
      exact ⟨rfl, c, rest, rfl, .inr ends⟩
  | case4 | case8 | case10 => cases found

/-- What comes back of a destination in angle brackets is all that is written in them. -/
theorem eq_of_bracketedDestination?
    (found : bracketedDestination? (escapeBrackets url ++ ['>', ')']) = some (inner, after))
    (clean : cleanDestination inner = url) :
    inner = escapeBrackets url ∧ after = [')'] := by
  have cut := eq_append_of_bracketedDestination? found
  rcases List.append_eq_append_iff.mp cut with ⟨more, rfl, behind⟩ | ⟨more, whole, behind⟩
  · cases more with
    | nil => exact ⟨List.append_nil _, (List.cons.inj behind).2.symm⟩
    | cons d more =>
        have ends := (List.cons.inj behind).2
        cases more with
        | nil => cases ends
        | cons e more => cases (List.append_eq_nil_iff.mp (List.cons.inj ends).2.symm).2
  · cases more with
    | nil =>
        rw [List.append_nil] at whole
        exact ⟨whole.symm, (List.cons.inj behind).2⟩
    | cons d more =>
        -- The destination would lose the right bracket.
        obtain ⟨rfl, -⟩ := List.cons.inj behind
        have written := congrArg weight whole
        rw [weight_escapeBrackets, weight_append, weight_cons, weight_singleton (by decide)] at written
        obtain ⟨-, -, -, removed⟩ := of_cleanDestination_eq (by omega) clean
        have back := congrArg weight removed
        rw [weight_removeEscapes] at back
        omega

/-- A destination that holds neither is read up to the parenthesis behind it. -/
theorem eq_of_bareDestination?
    {nesting : Nat}
    (inside : ∀ c ∈ url, endsDestination c = false ∧ c ≠ ')')
    (found : bareDestination? nesting (url ++ [')']) = some (inner, after)) :
    inner = url ∧ after = [')'] := by
  obtain ⟨cut, d, rest, rfl, isEnd⟩ := eq_append_of_bareDestination? found
  rcases List.append_eq_append_iff.mp cut with ⟨more, rfl, behind⟩ | ⟨more, whole, behind⟩
  · cases more with
    | nil => exact ⟨List.append_nil _, behind.symm⟩
    | cons e more => cases (List.append_eq_nil_iff.mp (List.cons.inj behind).2.symm).2
  · cases more with
    | nil =>
        rw [List.append_nil] at whole
        exact ⟨whole.symm, behind⟩
    | cons e more =>
        obtain ⟨rfl, -⟩ := List.cons.inj behind
        obtain ⟨visible, noRight⟩ := inside d (by simp [whole])
        rcases isEnd with isRight | ends
        · exact absurd isRight noRight
        · rw [visible] at ends
          cases ends

end Ends

/-! ## Escapes in a destination -/

/-- A character adds at most itself to what is left of a text, and takes nothing from it. -/
theorem length_removeEscapes_cons
    (c : Char)
    (rest : List Char) :
    (removeEscapes rest).length ≤ (removeEscapes (c :: rest)).length ∧
      (removeEscapes (c :: rest)).length ≤ (removeEscapes rest).length + 1 := by
  induction rest generalizing c with
  | nil =>
      rw [removeEscapes]
      · exact ⟨Nat.zero_le _, Nat.le_refl _⟩
      · exact fun _ _ _ same => by cases same
  | cons d rest inductionHypothesis =>
      by_cases isBackslash : c = '\\'
      · subst isBackslash
        rw [removeEscapes]
        have behind := inductionHypothesis d
        split
        · rw [List.length_cons]
          omega
        · exact ⟨Nat.le_succ _, Nat.le_refl _⟩
      · have kept : removeEscapes (c :: d :: rest) = c :: removeEscapes (d :: rest) := by
          rw [removeEscapes]
          exact fun _ _ same _ => isBackslash same
        rw [kept]
        exact ⟨Nat.le_succ _, Nat.le_refl _⟩

theorem length_removeEscapes_escapeBrackets (url : List Char) :
    (removeEscapes (escapeBrackets url)).length ≤ url.length := by
  induction url with
  | nil => exact Nat.le_refl 0
  | cons c rest inductionHypothesis =>
      by_cases isBracket : c = '<' ∨ c = '>'
      · rw [escapeBrackets_of_isBracket isBracket, removeEscapes,
          if_pos (isAsciiPunctuation_of_isBracket isBracket)]
        exact Nat.succ_le_succ inductionHypothesis
      · rw [escapeBrackets_of_noBracket isBracket]
        exact Nat.le_trans (length_removeEscapes_cons c _).2 (Nat.succ_le_succ inductionHypothesis)

/-- A backslash before punctuation would go. -/
theorem isAsciiPunctuation_eq_false
    {c : Char}
    {rest : List Char}
    (noBracket : ¬ (c = '<' ∨ c = '>'))
    (removed : removeEscapes (escapeBrackets ('\\' :: c :: rest)) = '\\' :: c :: rest) :
    Text.isAsciiPunctuation c = false := by
  refine Bool.eq_false_iff.mpr fun punctuation => ?_
  have few := length_removeEscapes_escapeBrackets rest
  rw [escapeBrackets_of_noBracket (by decide), escapeBrackets_of_noBracket noBracket, removeEscapes,
    if_pos punctuation] at removed
  have length := congrArg List.length removed
  simp only [List.length_cons] at length
  omega

section Escapes

variable {url tail : List Char}

theorem holdsEscape_cons
    {c : Char}
    (noBackslash : c ≠ '\\')
    (rest : List Char) :
    holdsEscape (c :: rest) = holdsEscape rest := by
  rw [holdsEscape, beq_false_of_ne noBackslash, Bool.false_and, Bool.false_or]

theorem holdsEscape_backslash
    {c : Char}
    (ordinary : Text.isAsciiPunctuation c = false)
    (rest : List Char) :
    holdsEscape ('\\' :: c :: rest) = holdsEscape (c :: rest) := by
  rw [holdsEscape, List.head?_cons, Option.all_some, ordinary, Bool.and_false, Bool.false_or]

theorem eq_some_of_map
    {read : Option (List Char × List Char)}
    (before : List Char)
    {inner after : List Char}
    (found : read.map (fun (inner, after) => (before ++ inner, after)) = some (before ++ inner, after)) :
    read = some (inner, after) := by
  obtain ⟨⟨_, _⟩, isRead, same⟩ := Option.map_eq_some_iff.mp found
  obtain ⟨sameInner, rfl⟩ := Prod.mk.inj same
  rw [isRead, List.append_cancel_left sameInner]

/-- Whether a destination in angle brackets is read to its end and stays as it is. -/
def ComesBackBracketed (url tail : List Char) : Prop :=
  bracketedDestination? (escapeBrackets url ++ '>' :: tail) = some (escapeBrackets url, tail) ∧
    removeEscapes (escapeBrackets url) = url

/-- A backslash before an angle bracket would take the one that escapes the bracket, which would then end
the destination. -/
theorem ComesBackBracketed.exists_of_backslash
    (back : ComesBackBracketed ('\\' :: url) tail)
    (single : '\n' ∉ url) :
    ∃ c rest, url = c :: rest ∧ Text.isAsciiPunctuation c = false ∧ ComesBackBracketed url tail := by
  obtain ⟨found, removed⟩ := back
  have start : escapeBrackets ('\\' :: url) = '\\' :: escapeBrackets url :=
    escapeBrackets_of_noBracket (by decide) url
  rw [start] at found
  cases url with
  | nil =>
      obtain ⟨_, -, same⟩ := Option.map_eq_some_iff.mp found
      cases same
  | cons c rest =>
      by_cases isBracket : c = '<' ∨ c = '>'
      · rw [escapeBrackets_of_isBracket isBracket] at found
        obtain ⟨_, isFound, same⟩ := Option.map_eq_some_iff.mp found
        rcases isBracket with rfl | rfl
        · cases isFound
        · cases isFound
          cases same
      · have ordinary := isAsciiPunctuation_eq_false isBracket removed
        have behind := escapeBrackets_of_noBracket isBracket rest
        rw [List.mem_cons, not_or] at single
        rw [behind, List.cons_append, List.cons_append,
          bracketedDestination?_backslash ordinary (Ne.symm single.1), ← List.cons_append,
          ← behind] at found
        rw [start, behind, removeEscapes, ordinary, if_neg Bool.false_ne_true, ← behind] at removed
        exact ⟨c, rest, rfl, ordinary, eq_some_of_map ['\\'] found, (List.cons.inj removed).2⟩

theorem ComesBackBracketed.of_cons
    {c : Char}
    (back : ComesBackBracketed (c :: url) tail)
    (noBackslash : c ≠ '\\')
    (noNewline : c ≠ '\n') :
    ComesBackBracketed url tail := by
  obtain ⟨found, removed⟩ := back
  by_cases isBracket : c = '<' ∨ c = '>'
  · rw [escapeBrackets_of_isBracket isBracket] at found removed
    rw [removeEscapes, if_pos (isAsciiPunctuation_of_isBracket isBracket)] at removed
    exact ⟨eq_some_of_map ['\\', c] found, (List.cons.inj removed).2⟩
  · rw [escapeBrackets_of_noBracket isBracket] at found removed
    rw [not_or] at isBracket
    rw [List.cons_append, bracketedDestination?,
      if_neg (not_or.mpr ⟨noNewline, isBracket.1⟩)] at found
    · rw [removeEscapes] at removed
      · exact ⟨eq_some_of_map [c] found, (List.cons.inj removed).2⟩
      · exact fun _ _ same _ => noBackslash same
    · exact isBracket.2
    · exact fun _ _ same _ => noBackslash same

/-- No backslash of a destination in angle brackets that comes back escapes anything. -/
theorem ComesBackBracketed.holdsEscape
    (back : ComesBackBracketed url tail)
    (single : '\n' ∉ url) :
    holdsEscape url = false := by
  induction url with
  | nil => rfl
  | cons c rest inductionHypothesis =>
      rw [List.mem_cons, not_or] at single
      by_cases isBackslash : c = '\\'
      · subst isBackslash
        obtain ⟨d, more, rfl, ordinary, behind⟩ := back.exists_of_backslash single.2
        rw [holdsEscape_backslash ordinary, inductionHypothesis behind single.2]
      · have behind := back.of_cons isBackslash (Ne.symm single.1)
        rw [holdsEscape_cons isBackslash, inductionHypothesis behind single.2]

/-- No backslash of a destination without angle brackets escapes anything, if it is read to its end and
stays as it is. -/
theorem holdsEscape_of_bareDestination?
    (bare : ∀ c ∈ url, endsDestination c = false ∧ c ≠ '(' ∧ c ≠ ')' ∧ ¬ (c = '<' ∨ c = '>'))
    (found : bareDestination? 0 (url ++ ')' :: tail) = some (url, ')' :: tail))
    (removed : removeEscapes url = url) :
    holdsEscape url = false := by
  induction url with
  | nil => rfl
  | cons c rest inductionHypothesis =>
      obtain ⟨⟨inside, noLeft, noRight, -⟩, others⟩ := List.forall_mem_cons.mp bare
      have behind := inductionHypothesis others
      by_cases isBackslash : c = '\\'
      · subst isBackslash
        cases rest with
        | nil =>
            obtain ⟨_, -, same⟩ := Option.map_eq_some_iff.mp found
            cases same
        | cons d more =>
            have noBracket := (bare d (.tail _ (.head more))).2.2.2
            have kept := escapeBrackets_eq_self fun c member => (bare c member).2.2.2
            have ordinary := isAsciiPunctuation_eq_false noBracket (by rw [kept]; exact removed)
            rw [List.cons_append, List.cons_append, bareDestination?, ordinary,
              if_neg Bool.false_ne_true] at found
            rw [removeEscapes, ordinary, if_neg Bool.false_ne_true] at removed
            rw [holdsEscape_backslash ordinary,
              behind (eq_some_of_map ['\\'] found) (List.cons.inj removed).2]
      · rw [holdsEscape_cons isBackslash]
        rw [List.cons_append, bareDestination?, inside, if_neg Bool.false_ne_true] at found
        · rw [removeEscapes] at removed
          · exact behind (eq_some_of_map [c] found) (List.cons.inj removed).2
          · exact fun _ _ same _ => isBackslash same
        · exact fun _ _ same _ => isBackslash same
        · exact noLeft
        · exact noRight

end Escapes

/-! ## Destinations as they are read -/

/-- The control characters of ASCII. -/
def isControl (c : Char) : Bool :=
  c.toNat < 0x20 || c.toNat == 0x7F

/-- Whether a destination without control characters reads back as itself. -/
def isKeptDestination (url : List Char) : Bool :=
  url.head? != some ' ' && url.getLast? != some ' ' && !holdsReference url && !holdsEscape url

theorem isAsciiSpace_eq_beq
    {c : Char}
    (visible : isControl c = false) :
    Text.isAsciiSpace c = (c == ' ') := by
  rw [isControl, Bool.or_eq_false_iff, decide_eq_false_iff_not] at visible
  have notLow : ¬ (9 ≤ c.toNat ∧ c.toNat ≤ 13) := fun low => visible.1 (by omega)
  have isSpace : (c == ' ') = (c.toNat == 0x20) := by
    rw [Bool.eq_iff_iff, beq_iff_eq, beq_iff_eq, ← Char.toNat_inj]
    rfl
  rw [Text.isAsciiSpace, isSpace, ← Bool.decide_and, decide_eq_false notLow, Bool.false_or]

theorem endsDestination_eq_false
    {c : Char}
    (visible : isControl c = false)
    (solid : Text.isBlank c = false) :
    endsDestination c = false := by
  rw [endsDestination, Text.isAsciiSpace_eq_false solid, Bool.false_or]
  exact visible

/-- What is read for a target begins with its destination. -/
theorem exists_of_parenthesizedTarget?
    {text url rest : List Char}
    (found : parenthesizedTarget? ('(' :: text) = some (url, rest)) :
    ∃ written after, destination? (text.dropWhile Text.isAsciiSpace) = some (written, after) ∧
      cleanDestination written = url := by
  obtain ⟨⟨written, after⟩, isDestination, found⟩ := Option.bind_eq_some_iff.mp found
  refine ⟨written, after, isDestination, ?_⟩
  dsimp only at found
  split at found
  · exact (Prod.mk.inj (Option.some.inj found)).1
  · cases found

theorem isAsciiSpace_of_head?_escapeBrackets
    {url : List Char}
    (first : ∀ c ∈ (escapeBrackets url).head?, Text.isAsciiSpace c = false) :
    ∀ c ∈ url.head?, Text.isAsciiSpace c = false := by
  cases url with
  | nil => exact nofun
  | cons c rest =>
      rintro _ ⟨⟩
      by_cases isBracket : c = '<' ∨ c = '>'
      · rcases isBracket with rfl | rfl <;> rfl
      · rw [escapeBrackets_of_noBracket isBracket] at first
        exact first c rfl

section Kept

variable {url : List Char} (noControl : ∀ c ∈ url, isControl c = false)
include noControl

theorem isKeptDestination_iff :
    isKeptDestination url = true ↔ (∀ c ∈ url.head?, Text.isAsciiSpace c = false) ∧
      (∀ c ∈ url.getLast?, Text.isAsciiSpace c = false) ∧ holdsReference url = false ∧
        holdsEscape url = false := by
  have unspaced {edge : Option Char} (inside : ∀ c ∈ edge, c ∈ url) :
      edge != some ' ' ↔ ∀ c ∈ edge, Text.isAsciiSpace c = false := by
    cases edge with
    | none => simp
    | some c => simp [isAsciiSpace_eq_beq (noControl c (inside c rfl))]
  rw [isKeptDestination, Bool.and_eq_true, Bool.and_eq_true, Bool.and_eq_true, Bool.not_eq_true',
    Bool.not_eq_true', unspaced fun c => List.mem_of_head?, unspaced fun c => List.mem_of_getLast?,
    and_assoc, and_assoc]

/-- A kept destination is the target of the link that it is written for. -/
theorem parenthesizedTarget?_of_isKeptDestination
    (kept : isKeptDestination url = true)
    (tail : List Char) :
    parenthesizedTarget? ('(' :: (linkDestination url ++ ')' :: tail)) = some (url, tail) := by
  obtain ⟨first, last, noReference, noEscape⟩ := (isKeptDestination_iff noControl).mp kept
  have single : '\n' ∉ url := fun member => by cases noControl _ member
  refine parenthesizedTarget?_of_holdsEscape noEscape single first last (fun bare c member => ?_) ?_ tail
  · exact endsDestination_eq_false (noControl c member) (of_needsBrackets_eq_false bare member).1
  · refine decodeReferences_of_holdsReference ?_
    rw [destinationText]
    split
    · rwa [holdsReference_escapeBrackets]
    · exact noReference

theorem isKeptDestination_of_bracketedDestination?
    {written after : List Char}
    (found : bracketedDestination? (escapeBrackets url ++ ['>', ')']) = some (written, after))
    (clean : cleanDestination written = url) :
    isKeptDestination url = true := by
  obtain ⟨rfl, rfl⟩ := eq_of_bracketedDestination? found clean
  obtain ⟨first, last, noReference, removed⟩ :=
    of_cleanDestination_eq (Nat.le_of_eq (weight_escapeBrackets url)) clean
  rw [holdsReference_escapeBrackets] at noReference
  rw [getLast?_escapeBrackets] at last
  have single : '\n' ∉ url := fun member => by cases noControl _ member
  exact (isKeptDestination_iff noControl).mpr ⟨isAsciiSpace_of_head?_escapeBrackets first, last,
    noReference, ComesBackBracketed.holdsEscape ⟨found, removed⟩ single⟩

theorem isKeptDestination_of_bareDestination?
    {written after : List Char}
    (inside : ∀ c ∈ url, endsDestination c = false ∧ c ≠ '(' ∧ c ≠ ')' ∧ ¬ (c = '<' ∨ c = '>'))
    (found : bareDestination? 0 (url ++ [')']) = some (written, after))
    (clean : cleanDestination written = url) :
    isKeptDestination url = true := by
  have ends (c : Char) (member : c ∈ url) := And.intro (inside c member).1 (inside c member).2.2.1
  obtain ⟨rfl, rfl⟩ := eq_of_bareDestination? ends found
  obtain ⟨first, last, noReference, removed⟩ := of_cleanDestination_eq (Nat.le_refl _) clean
  exact (isKeptDestination_iff noControl).mpr
    ⟨first, last, noReference, holdsEscape_of_bareDestination? inside found removed⟩

/-- Only a kept destination is the target of the link that it is written for. -/
theorem isKeptDestination_of_parenthesizedTarget?
    {rest : List Char}
    (found : parenthesizedTarget? ('(' :: (linkDestination url ++ [')'])) = some (url, rest)) :
    isKeptDestination url = true := by
  obtain ⟨written, after, isDestination, clean⟩ := exists_of_parenthesizedTarget? found
  by_cases brackets : needsBrackets url = true
  · have text : linkDestination url = '<' :: (escapeBrackets url ++ ['>']) := if_pos brackets
    rw [text, List.cons_append, List.append_assoc, List.dropWhile_cons_of_neg (by decide),
      destination?] at isDestination
    exact isKeptDestination_of_bracketedDestination? noControl isDestination clean
  · have text : linkDestination url = url := if_neg brackets
    have plain {c : Char} := @of_needsBrackets_eq_false url (Bool.not_eq_true _ ▸ brackets) c
    rw [text] at isDestination
    cases url with
    | nil => rfl
    | cons c others =>
        have visible := endsDestination_eq_false (noControl c (.head others)) (plain (.head others)).1
        have solid := Text.isAsciiSpace_eq_false (plain (.head others)).1
        rw [List.cons_append, List.dropWhile_cons_of_neg (by simp [solid]), destination?, visible,
          if_neg Bool.false_ne_true, ← List.cons_append] at isDestination
        · refine isKeptDestination_of_bareDestination? noControl (fun d member => ?_) isDestination clean
          exact ⟨endsDestination_eq_false (noControl d member) (plain member).1, (plain member).2⟩
        · exact fun same => (plain (.head others)).2.2.2 (.inl same)

end Kept

end Reader
end Markdown
end TwinEditor
