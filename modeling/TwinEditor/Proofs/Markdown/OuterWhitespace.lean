import Mathlib.Data.List.Induction
import Mathlib.Data.List.TakeWhile
import TwinEditor.Markdown.InlinePrinter

/-!
# White space at the edges

Content between delimiter runs is split into white space, a body and white space, where hard breaks at
the end count as white space. The pieces are all of the content, and the body neither begins nor ends
with white space. A backslash before a line feed is a hard break if an odd number of them stands there;
it goes with the line feed, so that neither a hard break nor an escape is cut in two.
-/

namespace TwinEditor

namespace Text

/-! ## Backslashes -/

/-- The number of backslashes at the end of a text. -/
def backslashesAtEnd (text : List Char) : Nat :=
  (text.reverse.takeWhile (· = '\\')).length

/-- What comes behind a text is not escaped: an even number of backslashes stands at its end. -/
def EndsUnescaped (text : List Char) : Prop :=
  backslashesAtEnd text % 2 = 0

theorem backslashesAtEnd_concat
    (text : List Char)
    (c : Char) :
    backslashesAtEnd (text ++ [c]) = if c = '\\' then backslashesAtEnd text + 1 else 0 := by
  rw [backslashesAtEnd, List.reverse_append, List.reverse_singleton, List.singleton_append,
    List.takeWhile_cons]
  by_cases backslash : c = '\\' <;> simp [backslash, backslashesAtEnd]

theorem endsUnescaped_nil : EndsUnescaped [] :=
  rfl

theorem endsUnescaped_concat_of_ne
    {c : Char}
    (visible : c ≠ '\\')
    (text : List Char) :
    EndsUnescaped (text ++ [c]) := by
  rw [EndsUnescaped, backslashesAtEnd_concat, if_neg visible]

theorem endsUnescaped_concat_backslash (text : List Char) :
    EndsUnescaped (text ++ ['\\']) ↔ ¬ EndsUnescaped text := by
  rw [EndsUnescaped, EndsUnescaped, backslashesAtEnd_concat, if_pos rfl]
  omega

/-- A text that escapes what comes behind ends in a backslash that is not escaped itself. -/
theorem exists_of_not_endsUnescaped
    {text : List Char}
    (escapes : ¬ EndsUnescaped text) :
    ∃ shorter, text = shorter ++ ['\\'] ∧ EndsUnescaped shorter := by
  rcases List.eq_nil_or_concat text with rfl | ⟨shorter, c, rfl⟩
  · exact absurd endsUnescaped_nil escapes
  · rw [List.concat_eq_append] at escapes ⊢
    by_cases backslash : c = '\\'
    · subst backslash
      exact ⟨shorter, rfl, not_not.mp fun other =>
        escapes ((endsUnescaped_concat_backslash shorter).mpr other)⟩
    · exact absurd (endsUnescaped_concat_of_ne backslash shorter) escapes

/-- A text escapes no more than its last character can. -/
theorem endsUnescaped_of_getLast?_ne
    {text : List Char}
    (last : ∀ c ∈ text.getLast?, c ≠ '\\') :
    EndsUnescaped text := by
  rcases List.eq_nil_or_concat text with rfl | ⟨start, c, rfl⟩
  · exact endsUnescaped_nil
  · rw [List.concat_eq_append] at last ⊢
    exact endsUnescaped_concat_of_ne (last c (by simp)) start

/-- Whether a text escapes what comes behind depends on what comes before it only by whether that
escapes its beginning. -/
theorem endsUnescaped_append_congr
    {before other : List Char}
    (same : EndsUnescaped before ↔ EndsUnescaped other)
    (text : List Char) :
    EndsUnescaped (before ++ text) ↔ EndsUnescaped (other ++ text) := by
  induction text using List.reverseRecOn with
  | nil => rwa [List.append_nil, List.append_nil]
  | append_singleton text c inductionHypothesis =>
      rw [← List.append_assoc, ← List.append_assoc]
      by_cases backslash : c = '\\'
      · rw [backslash, endsUnescaped_concat_backslash, endsUnescaped_concat_backslash,
          inductionHypothesis]
      · exact iff_of_true (endsUnescaped_concat_of_ne backslash _)
          (endsUnescaped_concat_of_ne backslash _)

theorem endsUnescaped_append_iff
    {before : List Char}
    (unescaped : EndsUnescaped before)
    (text : List Char) :
    EndsUnescaped (before ++ text) ↔ EndsUnescaped text :=
  endsUnescaped_append_congr (iff_of_true unescaped endsUnescaped_nil) text

theorem endsUnescaped_of_blank
    {text : List Char}
    (blank : ∀ c ∈ text, isBlank c = true) :
    EndsUnescaped text := by
  apply endsUnescaped_of_getLast?_ne
  rintro c last rfl
  exact absurd (blank _ (List.mem_of_getLast? last)) (by decide)

/-! ## Trimming -/

/-- What is trimmed off the end of a text. -/
theorem exists_trimmed
    (p : Char → Bool)
    (text : List Char) :
    ∃ trimmed, text = trimEnd p text ++ trimmed ∧ ∀ c ∈ trimmed, p c = true := by
  refine ⟨(text.reverse.takeWhile p).reverse, (trimEnd_append_takeWhile p text).symm, ?_⟩
  intro c member
  exact List.mem_takeWhile_imp (List.mem_reverse.mp member)

theorem drop_length_trimEnd
    {p : Char → Bool}
    {text trimmed : List Char}
    (taken : text = trimEnd p text ++ trimmed) :
    text.drop (trimEnd p text).length = trimmed := by
  have dropped := congrArg (List.drop (trimEnd p text).length) taken
  rwa [List.drop_left] at dropped

theorem head?_dropWhile
    {p : Char → Bool}
    {text : List Char} :
    ∀ c ∈ (text.dropWhile p).head?, p c = false := by
  intro c first
  have stops := List.head?_dropWhile_not p text
  rwa [first] at stops

theorem getLast?_trimEnd
    {p : Char → Bool}
    {text : List Char} :
    ∀ c ∈ (trimEnd p text).getLast?, p c = false := by
  intro c last
  rw [trimEnd, List.getLast?_reverse] at last
  exact head?_dropWhile c last

end Text

namespace Markdown

open Text

/-! ## Splitting -/

/-- A text of white space and hard breaks. -/
inductive Spacing : List Char → Prop
  | nil : Spacing []
  | blank {c : Char} {rest : List Char} : isBlank c = true → Spacing rest → Spacing (c :: rest)
  | hardBreak {rest : List Char} : Spacing rest → Spacing ('\\' :: '\n' :: rest)

theorem Spacing.of_blank
    {text : List Char}
    (blank : ∀ c ∈ text, isBlank c = true) :
    Spacing text := by
  induction text with
  | nil => exact .nil
  | cons c rest inductionHypothesis =>
      rw [List.forall_mem_cons] at blank
      exact .blank blank.1 (inductionHypothesis blank.2)

theorem Spacing.append
    {text more : List Char}
    (spacing : Spacing text)
    (further : Spacing more) :
    Spacing (text ++ more) := by
  induction spacing with
  | nil => exact further
  | blank isBlank _ inductionHypothesis => exact .blank isBlank inductionHypothesis
  | hardBreak _ inductionHypothesis => exact .hardBreak inductionHypothesis

theorem Spacing.isBlank_or_eq
    {text : List Char}
    (spacing : Spacing text) :
    ∀ c ∈ text, isBlank c = true ∨ c = '\\' := by
  induction spacing with
  | nil => nofun
  | blank isBlank _ inductionHypothesis =>
      exact List.forall_mem_cons.mpr ⟨.inl isBlank, inductionHypothesis⟩
  | hardBreak _ inductionHypothesis =>
      exact List.forall_mem_cons.mpr ⟨.inr rfl,
        List.forall_mem_cons.mpr ⟨.inl (by decide), inductionHypothesis⟩⟩

/-- A content behind which no hard break is cut in two stays as it is. -/
theorem retreat_of_unbroken
    {body rest : List Char}
    (unbroken : rest.head? = some '\n' → EndsUnescaped body) :
    retreat body rest = (body, rest) := by
  rw [retreat, if_neg]
  rintro ⟨newline, odd⟩
  have even : (body.reverse.takeWhile (· = '\\')).length % 2 = 0 := unbroken newline
  omega

/-- A backslash before a line feed goes with it, and the white space before goes too. -/
theorem retreat_of_broken
    {shorter : List Char}
    (unescaped : EndsUnescaped shorter)
    {blanks : List Char}
    (trimmed : shorter = trimEnd isBlank shorter ++ blanks)
    (rest : List Char) :
    retreat (shorter ++ ['\\']) ('\n' :: rest) =
      retreat (trimEnd isBlank shorter) (blanks ++ '\\' :: '\n' :: rest) := by
  have odd : ¬ EndsUnescaped (shorter ++ ['\\']) := by
    rw [endsUnescaped_concat_backslash]
    exact not_not.mpr unescaped
  rw [retreat, if_pos]
  · simp [drop_length_trimEnd trimmed]
  · refine ⟨rfl, ?_⟩
    rw [EndsUnescaped, backslashesAtEnd] at odd
    omega

/-- What every step back over a hard break keeps is kept when the steps end, and then no hard break is
cut in two. -/
theorem retreat_induction
    (kept : List Char → List Char → Prop)
    (step : ∀ shorter blanks rest, EndsUnescaped shorter →
      shorter = trimEnd isBlank shorter ++ blanks → (∀ c ∈ blanks, isBlank c = true) →
      kept (shorter ++ ['\\']) ('\n' :: rest) →
      kept (trimEnd isBlank shorter) (blanks ++ '\\' :: '\n' :: rest))
    {body rest : List Char}
    (holds : kept body rest) :
    kept (retreat body rest).1 (retreat body rest).2 ∧
      ((retreat body rest).2.head? = some '\n' → EndsUnescaped (retreat body rest).1) := by
  induction size : body.length using Nat.strong_induction_on generalizing body rest with
  | h length inductionHypothesis =>
      by_cases unbroken : rest.head? = some '\n' → EndsUnescaped body
      · rw [retreat_of_unbroken unbroken]
        exact ⟨holds, unbroken⟩
      · obtain ⟨newline, escapes⟩ := Classical.not_imp.mp unbroken
        obtain ⟨shorter, rfl, unescaped⟩ := exists_of_not_endsUnescaped escapes
        obtain ⟨rest, rfl⟩ := List.head?_eq_some_iff.mp newline
        obtain ⟨blanks, trimmed, blank⟩ := exists_trimmed isBlank shorter
        rw [retreat_of_broken unescaped trimmed]
        have smaller : (trimEnd isBlank shorter).length < length := by
          have bound := length_trimEnd_le isBlank shorter
          rw [← size, List.length_append, List.length_singleton]
          omega
        exact inductionHypothesis _ smaller (step shorter blanks rest unescaped trimmed blank holds)
          rfl

/-- A content taken apart at its edges. -/
structure OuterSplit (content leading body trailing : List Char) : Prop where
  content_eq : content = leading ++ (body ++ trailing)
  leading_blank : ∀ c ∈ leading, isBlank c = true
  body_first : ∀ c ∈ body.head?, isBlank c = false
  body_last : ∀ c ∈ body.getLast?, isBlank c = false
  trailing_spacing : Spacing trailing
  /-- No hard break is cut in two. -/
  unbroken : trailing.head? = some '\n' → EndsUnescaped body

/-- What is known of a content on the way back over hard breaks. -/
structure Retreating (content body rest : List Char) : Prop where
  content_eq : content = body ++ rest
  body_last : ∀ c ∈ body.getLast?, isBlank c = false
  rest_spacing : Spacing rest

theorem Retreating.step
    {content shorter blanks rest : List Char}
    (trimmed : shorter = trimEnd isBlank shorter ++ blanks)
    (blank : ∀ c ∈ blanks, isBlank c = true)
    (retreating : Retreating content (shorter ++ ['\\']) ('\n' :: rest)) :
    Retreating content (trimEnd isBlank shorter) (blanks ++ '\\' :: '\n' :: rest) where
  content_eq := by
    rw [retreating.content_eq, List.append_assoc, List.singleton_append, ← List.append_assoc,
      ← trimmed]
  body_last := getLast?_trimEnd
  rest_spacing := by
    cases retreating.rest_spacing with
    | blank _ spacing => exact (Spacing.of_blank blank).append (.hardBreak spacing)

/-- Every content is taken apart into white space, a body and white space, where hard breaks at the end
count as white space. -/
theorem outerSplit_splitOuterWhitespace (content : List Char) :
    OuterSplit content (splitOuterWhitespace content).1 (splitOuterWhitespace content).2.1
      (splitOuterWhitespace content).2.2 := by
  obtain ⟨blanks, trimmed, blank⟩ := exists_trimmed isBlank (content.dropWhile isBlank)
  have start : Retreating (content.dropWhile isBlank)
      (trimEnd isBlank (content.dropWhile isBlank)) blanks :=
    ⟨trimmed, getLast?_trimEnd, .of_blank blank⟩
  obtain ⟨retreated, unbroken⟩ := retreat_induction (Retreating (content.dropWhile isBlank))
    (fun shorter blanks rest _ trimmed blank => Retreating.step trimmed blank) start
  have leading : content = content.takeWhile isBlank ++ content.dropWhile isBlank :=
    List.takeWhile_append_dropWhile.symm
  rw [splitOuterWhitespace, drop_length_trimEnd trimmed]
  refine ⟨?_, fun c => List.mem_takeWhile_imp, ?_, retreated.body_last, retreated.rest_spacing,
    unbroken⟩
  · rw [← retreated.content_eq]
    exact leading
  · intro c first
    apply head?_dropWhile c
    rw [retreated.content_eq, List.head?_append, Option.mem_def.mp first]
    rfl

/-! ## Content that escapes nothing outside -/

/-- A written content that escapes neither what comes behind it nor the white space at its end, line
feeds apart. -/
structure Sealed (text : List Char) : Prop where
  atEnd : EndsUnescaped text
  beforeBlank : ∀ before c behind, text = before ++ c :: behind → isBlank c = true → c ≠ '\n' →
    (∀ d ∈ behind, isBlank d = true ∨ d = '\\') → EndsUnescaped before

theorem sealed_nil : Sealed [] where
  atEnd := endsUnescaped_nil
  beforeBlank _ _ _ empty := by simp at empty

/-- A text that ends in something visible besides backslashes is sealed. -/
theorem sealed_of_getLast?
    {text : List Char}
    {last : Char}
    (ends : text.getLast? = some last)
    (visible : isBlank last = false)
    (noBackslash : last ≠ '\\') :
    Sealed text where
  atEnd := endsUnescaped_of_getLast?_ne fun c isLast =>
    Option.some.inj (ends.symm.trans isLast) ▸ noBackslash
  beforeBlank before c behind split blank _ loose := by
    have member : last ∈ c :: behind := by
      apply List.mem_of_getLast?
      rw [split, List.getLast?_append, List.getLast?_cons, Option.some_or] at ends
      rw [List.getLast?_cons, ends]
    rcases List.mem_cons.mp member with rfl | inside
    · exact absurd blank (by simp [visible])
    · exact absurd (loose last inside) (by simp [visible, noBackslash])

theorem sealed_of_blank
    {text : List Char}
    (blank : ∀ c ∈ text, isBlank c = true) :
    Sealed text where
  atEnd := endsUnescaped_of_blank blank
  beforeBlank _ _ _ within _ _ _ :=
    endsUnescaped_of_blank fun c member =>
      blank c (within ▸ List.mem_append_left _ member)

/-- A text without white space besides line feeds is sealed if it escapes nothing behind it. -/
theorem sealed_of_visible
    {text : List Char}
    (unescaped : EndsUnescaped text)
    (visible : ∀ c ∈ text, isBlank c = false ∨ c = '\n') :
    Sealed text where
  atEnd := unescaped
  beforeBlank before c behind within blank noNewline _ := by
    rcases visible c (within ▸ List.mem_append_right before List.mem_cons_self) with seen | newline
    · exact absurd blank (by simp [seen])
    · exact absurd newline noNewline

theorem sealed_singleton
    {c : Char}
    (noBackslash : c ≠ '\\') :
    Sealed [c] where
  atEnd := endsUnescaped_concat_of_ne noBackslash []
  beforeBlank before d behind within _ _ _ := by
    cases before with
    | nil => exact endsUnescaped_nil
    | cons e before => simp at within

/-- A character with a backslash before it is sealed, a backslash too. -/
theorem sealed_escape
    {c : Char}
    (visible : isBlank c = false) :
    Sealed ['\\', c] := by
  by_cases backslash : c = '\\'
  · subst backslash
    exact sealed_of_visible rfl
      (List.forall_mem_cons.mpr ⟨.inl rfl, List.forall_mem_singleton.mpr (.inl rfl)⟩)
  · exact sealed_of_getLast? rfl visible backslash

theorem Sealed.append
    {text more : List Char}
    (sealedText : Sealed text)
    (sealedMore : Sealed more) :
    Sealed (text ++ more) where
  atEnd := (endsUnescaped_append_iff sealedText.atEnd more).mpr sealedMore.atEnd
  beforeBlank before c behind split blank noNewline loose := by
    rcases List.append_eq_append_iff.mp split with ⟨inside, rfl, rest⟩ | ⟨inside, rfl, rest⟩
    · exact (endsUnescaped_append_iff sealedText.atEnd inside).mpr
        (sealedMore.beforeBlank inside c behind rest blank noNewline loose)
    · cases inside with
      | nil =>
          rw [List.append_nil] at sealedText
          exact sealedText.atEnd
      | cons d inside =>
          obtain ⟨rfl, rfl⟩ := List.cons.inj rest
          exact sealedText.beforeBlank before c inside rfl blank noNewline fun other member =>
            loose other (List.mem_append_left more member)

/-- What follows a text that escapes nothing is sealed if the whole is. -/
theorem Sealed.of_append
    (before : List Char)
    {text : List Char}
    (unescaped : EndsUnescaped before)
    (sealedAll : Sealed (before ++ text)) :
    Sealed text where
  atEnd := (endsUnescaped_append_iff unescaped text).mp sealedAll.atEnd
  beforeBlank inside c behind split blank noNewline loose := by
    apply (endsUnescaped_append_iff unescaped inside).mp
    apply sealedAll.beforeBlank _ c behind _ blank noNewline loose
    rw [split, List.append_assoc]

/-- A sealed content does not escape white space at its end that does not begin with a line feed. -/
theorem Retreating.endsUnescaped
    {content body rest : List Char}
    (retreating : Retreating content body rest)
    (sealedContent : Sealed content)
    (beginsBlank : ∀ c ∈ rest.head?, isBlank c = true ∧ c ≠ '\n') :
    EndsUnescaped body := by
  obtain ⟨rfl, -, spacing⟩ := retreating
  cases rest with
  | nil =>
      rw [List.append_nil] at sealedContent
      exact sealedContent.atEnd
  | cons c rest =>
      obtain ⟨blank, noNewline⟩ := beginsBlank c rfl
      exact sealedContent.beforeBlank body c rest rfl blank noNewline
        fun d member => spacing.isBlank_or_eq d (List.mem_cons_of_mem c member)

theorem Retreating.step_endsUnescaped
    {content shorter blanks rest : List Char}
    (trimmed : shorter = trimEnd isBlank shorter ++ blanks)
    (blank : ∀ c ∈ blanks, isBlank c = true)
    (retreating : Retreating content (shorter ++ ['\\']) ('\n' :: rest))
    (sealedContent : Sealed content)
    (unescaped : EndsUnescaped shorter)
    (noNewline : (blanks ++ '\\' :: '\n' :: rest).head? ≠ some '\n') :
    EndsUnescaped (trimEnd isBlank shorter) := by
  cases blanks with
  | nil =>
      rw [List.append_nil] at trimmed
      rwa [← trimmed]
  | cons c others =>
      apply (retreating.step trimmed blank).endsUnescaped sealedContent
      rintro d first
      obtain rfl := Option.some.inj first
      exact ⟨blank c List.mem_cons_self, fun newline => noNewline (congrArg some newline)⟩

/-- The body of a sealed content does not escape what comes behind it. On the way back over hard breaks
it can escape nothing but a line feed, and in the end that is excluded too. -/
theorem Sealed.endsUnescaped_body
    {content : List Char}
    (sealedContent : Sealed content) :
    EndsUnescaped (splitOuterWhitespace content).2.1 := by
  obtain ⟨blanks, trimmed, blank⟩ := exists_trimmed isBlank (content.dropWhile isBlank)
  have sealedRest : Sealed (content.dropWhile isBlank) := by
    apply Sealed.of_append (content.takeWhile isBlank)
    · exact endsUnescaped_of_blank fun c => List.mem_takeWhile_imp
    · rwa [List.takeWhile_append_dropWhile]
  have start : Retreating (content.dropWhile isBlank)
      (trimEnd isBlank (content.dropWhile isBlank)) blanks :=
    ⟨trimmed, getLast?_trimEnd, .of_blank blank⟩
  have startUnescaped (noNewline : blanks.head? ≠ some '\n') :
      EndsUnescaped (trimEnd isBlank (content.dropWhile isBlank)) :=
    start.endsUnescaped sealedRest fun c first =>
      ⟨blank c (List.mem_of_head? first), fun newline => noNewline (newline ▸ first)⟩
  have ⟨⟨_, onlyNewline⟩, unbroken⟩ := retreat_induction
    (fun body rest => Retreating (content.dropWhile isBlank) body rest ∧
      (rest.head? ≠ some '\n' → EndsUnescaped body))
    (fun _ _ _ unescaped trimmed blank ⟨retreating, _⟩ =>
      ⟨retreating.step trimmed blank,
        retreating.step_endsUnescaped trimmed blank sealedRest unescaped⟩)
    ⟨start, startUnescaped⟩
  rw [splitOuterWhitespace, drop_length_trimEnd trimmed]
  exact (em _).elim unbroken onlyNewline

end Markdown
end TwinEditor
