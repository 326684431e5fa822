import TwinEditor.Markdown.Reader.LinkTarget
import TwinEditor.Proofs.Markdown.OuterWhitespace

/-!
# Cutting at byte offsets

A text in UTF-8 is cut at offsets in bytes, and a cut fails that is out of range or goes through a
character. Content between delimiter runs is cut so at the end of its white space and where the hard
breaks at its end begin. That end is found by moving an offset back, which stops because the offset gets
smaller each time, and none of the cuts on the way fails.
-/

namespace TwinEditor
namespace Text

open Markdown.Reader (utf8Length)

/-! ## Lengths in bytes -/

theorem foldl_utf8Size
    (length : Nat)
    (text : List Char) :
    text.foldl (fun length c => length + c.utf8Size) length = length + utf8Length text := by
  induction text generalizing length with
  | nil => rfl
  | cons c rest inductionHypothesis =>
      rw [utf8Length, List.foldl_cons, List.foldl_cons, inductionHypothesis, inductionHypothesis,
        Nat.zero_add, Nat.add_assoc]

@[simp] theorem utf8Length_nil : utf8Length [] = 0 :=
  rfl

@[simp] theorem utf8Length_cons
    (c : Char)
    (text : List Char) :
    utf8Length (c :: text) = c.utf8Size + utf8Length text := by
  rw [utf8Length, List.foldl_cons, foldl_utf8Size, Nat.zero_add]

@[simp] theorem utf8Length_append (text more : List Char) :
    utf8Length (text ++ more) = utf8Length text + utf8Length more := by
  rw [utf8Length, List.foldl_append, foldl_utf8Size]
  rfl

theorem utf8Length_pos
    {text : List Char}
    (filled : text ≠ []) :
    0 < utf8Length text := by
  obtain ⟨c, rest, rfl⟩ := List.exists_cons_of_ne_nil filled
  rw [utf8Length_cons]
  exact Nat.add_pos_left c.utf8Size_pos _

theorem utf8Length_trimEnd_le
    (p : Char → Bool)
    (text : List Char) :
    utf8Length (trimEnd p text) ≤ utf8Length text := by
  have whole := congrArg utf8Length (trimEnd_append_takeWhile p text)
  rw [utf8Length_append] at whole
  omega

theorem isAsciiPunctuation_eq_false_of_isBlank
    {c : Char}
    (blank : isBlank c = true) :
    isAsciiPunctuation c = false := by
  simp only [isBlank, isAsciiPunctuation, Bool.or_eq_true, Bool.and_eq_true, decide_eq_true_eq,
    beq_iff_eq, Bool.or_eq_false_iff, Bool.and_eq_false_imp, decide_eq_false_iff_not] at *
  omega

/-! ## Cuts -/

/-- A text cut behind a number of bytes: nothing if it is shorter or the cut goes through a character. -/
def cutAt? : Nat → List Char → Option (List Char × List Char)
  | 0, text => some ([], text)
  | _ + 1, [] => none
  | offset + 1, c :: rest =>
      if c.utf8Size ≤ offset + 1 then
        (cutAt? (offset + 1 - c.utf8Size) rest).map fun (before, behind) => (c :: before, behind)
      else none

/-- What stands between two offsets of a text. -/
def slice? (start finish : Nat) (text : List Char) : Option (List Char) := do
  let (before, _) ← cutAt? finish text
  let (_, inside) ← cutAt? start before
  return inside

theorem cutAt?_append (before behind : List Char) :
    cutAt? (utf8Length before) (before ++ behind) = some (before, behind) := by
  induction before with
  | nil => cases behind <;> rfl
  | cons c rest inductionHypothesis =>
      obtain ⟨offset, size⟩ := Nat.exists_eq_add_of_le' c.utf8Size_pos
      have cut : utf8Length (c :: rest) = (offset + utf8Length rest) + 1 := by
        rw [utf8Length_cons, size]
        omega
      have remains : offset + utf8Length rest + 1 - c.utf8Size = utf8Length rest := by omega
      rw [cut, List.cons_append, cutAt?, if_pos (by omega), remains, inductionHypothesis]
      rfl

theorem utf8Length_of_cutAt?
    {offset : Nat}
    {text before behind : List Char}
    (cut : cutAt? offset text = some (before, behind)) :
    utf8Length before = offset := by
  induction text generalizing offset before with
  | nil =>
      cases offset with
      | zero =>
          obtain ⟨rfl, -⟩ := Prod.mk.inj (Option.some.inj cut)
          rfl
      | succ offset => cases cut
  | cons c rest inductionHypothesis =>
      cases offset with
      | zero =>
          obtain ⟨rfl, -⟩ := Prod.mk.inj (Option.some.inj cut)
          rfl
      | succ offset =>
          rw [cutAt?] at cut
          split at cut
          · next fits =>
            obtain ⟨⟨start, _⟩, inside, same⟩ := Option.map_eq_some_iff.mp cut
            obtain ⟨rfl, rfl⟩ := Prod.mk.inj same
            rw [utf8Length_cons, inductionHypothesis inside]
            omega
          · cases cut

theorem slice?_append (before inside behind : List Char) :
    slice? (utf8Length before) (utf8Length (before ++ inside)) (before ++ (inside ++ behind)) =
      some inside := by
  rw [slice?, ← List.append_assoc, cutAt?_append]
  dsimp only [Option.bind_eq_bind, Option.bind_some]
  rw [cutAt?_append]
  rfl

end Text

namespace Markdown

open Text
open Reader (utf8Length)

/-! ## Moving the end back -/

/-- Whether an end cuts a hard break in two: a line feed stands behind it and an odd run of backslashes
between the start and it. -/
def breaksAt? (content : List Char) (start finish : Nat) : Option Bool :=
  if start < finish then do
    let (_, behind) ← cutAt? finish content
    if behind.head? = some '\n' then do
      let body ← slice? start finish content
      return backslashesAtEnd body % 2 = 1
    else return false
  else return false

/-- Where the white space before an offset begins, but not before the start. -/
def trimmedAt? (content : List Char) (start limit : Nat) : Option Nat := do
  let (before, _) ← cutAt? limit content
  return max (utf8Length (trimEnd isBlank before)) start

theorem lt_of_breaksAt?
    {content : List Char}
    {start finish : Nat}
    (breaks : breaksAt? content start finish = some true) :
    start < finish := by
  by_contra outside
  rw [breaksAt?, if_neg outside] at breaks
  cases breaks

theorem le_of_trimmedAt?
    {content : List Char}
    {start limit next : Nat}
    (within : start ≤ limit)
    (trimmed : trimmedAt? content start limit = some next) :
    next ≤ limit := by
  obtain ⟨⟨before, behind⟩, cut, isNext⟩ := Option.bind_eq_some_iff.mp trimmed
  obtain rfl := Option.some.inj isNext
  have size := utf8Length_of_cutAt? cut
  have shorter := utf8Length_trimEnd_le isBlank before
  omega

/-- The end of a body, moved back over the hard breaks before it. -/
def retreatOffset? (content : List Char) (start finish : Nat) : Option Nat :=
  match _ : breaksAt? content start finish with
  | none => none
  | some false => some finish
  | some true =>
      match _ : trimmedAt? content start (finish - 1) with
      | none => none
      | some next => retreatOffset? content start next
termination_by finish
decreasing_by
  have inside := lt_of_breaksAt? ‹_›
  have back := le_of_trimmedAt? (by omega) ‹trimmedAt? content start (finish - 1) = some next›
  omega

/-- White space at the start of a content, the content between, and white space at its end, found by
their offsets in bytes. -/
def splitAtOffsets? (content : List Char) : Option (List Char × List Char × List Char) := do
  let start := utf8Length content - utf8Length (trimStart isBlank content)
  let finish ← retreatOffset? content start (max (utf8Length (trimEnd isBlank content)) start)
  let (leading, _) ← cutAt? start content
  let body ← slice? start finish content
  let (_, trailing) ← cutAt? finish content
  return (leading, body, trailing)

/-! ## No cut fails -/

theorem breaksAt?_append (leading body rest : List Char) :
    breaksAt? (leading ++ (body ++ rest)) (utf8Length leading) (utf8Length (leading ++ body)) =
      some (decide (rest.head? = some '\n' ∧ backslashesAtEnd body % 2 = 1)) := by
  rw [breaksAt?]
  by_cases empty : body = []
  · subst empty
    rw [List.append_nil, if_neg (Nat.lt_irrefl _)]
    simp [backslashesAtEnd]
  · have inside : utf8Length leading < utf8Length (leading ++ body) := by
      rw [utf8Length_append]
      exact Nat.lt_add_of_pos_right (utf8Length_pos empty)
    rw [if_pos inside, slice?_append, ← List.append_assoc, cutAt?_append]
    by_cases newline : rest.head? = some '\n' <;> simp [newline]

section Blank

variable {leading : List Char} (blank : ∀ c ∈ leading, isBlank c = true)
include blank

/-- A text is trimmed the same behind white space, which itself goes if nothing else is there. -/
theorem max_trimEnd_append (text : List Char) :
    max (utf8Length (trimEnd isBlank (leading ++ text))) (utf8Length leading) =
      utf8Length (leading ++ trimEnd isBlank text) := by
  have vanishes : leading.reverse.dropWhile isBlank = [] :=
    List.dropWhile_eq_nil_iff.mpr fun c member => blank c (List.mem_reverse.mp member)
  rw [trimEnd, trimEnd, List.reverse_append, List.dropWhile_append]
  by_cases empty : text.reverse.dropWhile isBlank = []
  · simp [empty, vanishes]
  · rw [if_neg (by simpa using empty), List.reverse_append, List.reverse_reverse, utf8Length_append]
    omega

theorem trimmedAt?_append (shorter rest : List Char) :
    trimmedAt? (leading ++ (shorter ++ rest)) (utf8Length leading) (utf8Length (leading ++ shorter)) =
      some (utf8Length (leading ++ trimEnd isBlank shorter)) := by
  rw [trimmedAt?, ← List.append_assoc, cutAt?_append]
  exact congrArg some (max_trimEnd_append blank shorter)

end Blank

/-- One round of moving the end back: it stays or goes on from where the white space before begins. -/
theorem retreatOffset?_eq
    (content : List Char)
    (start finish : Nat) :
    retreatOffset? content start finish =
      (breaksAt? content start finish).bind fun breaks =>
        if breaks then
          (trimmedAt? content start (finish - 1)).bind (retreatOffset? content start)
        else some finish := by
  rw [retreatOffset?]
  cases breaksAt? content start finish with
  | none => rfl
  | some breaks =>
      cases breaks with
      | false => rfl
      | true =>
          dsimp only [Option.bind_some]
          cases trimmedAt? content start (finish - 1) <;> rfl

theorem retreatOffset?_of_unbroken
    (leading : List Char)
    {body rest : List Char}
    (unbroken : rest.head? = some '\n' → EndsUnescaped body) :
    retreatOffset? (leading ++ (body ++ rest)) (utf8Length leading) (utf8Length (leading ++ body)) =
      some (utf8Length (leading ++ body)) := by
  have stays : ¬ (rest.head? = some '\n' ∧ backslashesAtEnd body % 2 = 1) := by
    rintro ⟨newline, odd⟩
    have even : backslashesAtEnd body % 2 = 0 := unbroken newline
    omega
  rw [retreatOffset?_eq, breaksAt?_append, decide_eq_false stays]
  rfl

theorem retreatOffset?_of_broken
    {leading : List Char}
    (blank : ∀ c ∈ leading, isBlank c = true)
    {shorter : List Char}
    (unescaped : EndsUnescaped shorter)
    (rest : List Char) :
    let content := leading ++ (shorter ++ ['\\'] ++ '\n' :: rest)
    retreatOffset? content (utf8Length leading) (utf8Length (leading ++ (shorter ++ ['\\']))) =
      retreatOffset? content (utf8Length leading) (utf8Length (leading ++ trimEnd isBlank shorter)) := by
  intro content
  have odd : backslashesAtEnd (shorter ++ ['\\']) % 2 = 1 := by
    have escapes := not_not.mpr unescaped
    rw [← endsUnescaped_concat_backslash, EndsUnescaped] at escapes
    omega
  have before : utf8Length (leading ++ (shorter ++ ['\\'])) - 1 = utf8Length (leading ++ shorter) := by
    have size : '\\'.utf8Size = 1 := rfl
    simp [← Nat.add_assoc, size]
  have content_eq : content = leading ++ (shorter ++ (['\\'] ++ '\n' :: rest)) := by
    simp [content]
  rw [retreatOffset?_eq, breaksAt?_append, decide_eq_true ⟨rfl, odd⟩, before, content_eq,
    trimmedAt?_append blank]
  rfl

/-- The offset is moved back to where the content is cut in the end. -/
theorem retreatOffset?_append
    {leading : List Char}
    (blank : ∀ c ∈ leading, isBlank c = true)
    (body rest : List Char) :
    retreatOffset? (leading ++ (body ++ rest)) (utf8Length leading) (utf8Length (leading ++ body)) =
      some (utf8Length (leading ++ (retreat body rest).1)) := by
  have ⟨same, unbroken⟩ := retreat_induction
    (fun shorter more =>
      retreatOffset? (leading ++ (body ++ rest)) (utf8Length leading) (utf8Length (leading ++ body)) =
        retreatOffset? (leading ++ (shorter ++ more)) (utf8Length leading)
          (utf8Length (leading ++ shorter)))
    (fun shorter blanks more unescaped trimmed _ same => by
      have remains : trimEnd isBlank shorter ++ (blanks ++ '\\' :: '\n' :: more) =
          shorter ++ ['\\'] ++ '\n' :: more := by
        rw [← List.append_assoc, ← trimmed, List.append_assoc, List.singleton_append]
      rw [remains]
      exact same.trans (retreatOffset?_of_broken blank unescaped more))
    rfl
  exact same.trans (retreatOffset?_of_unbroken leading unbroken)

/-- The cuts at offsets take a content apart as the splitting of its characters does. None of them is out
of range or goes through a character. -/
theorem splitAtOffsets?_eq (content : List Char) :
    splitAtOffsets? content = some (splitOuterWhitespace content) := by
  have blank : ∀ c ∈ content.takeWhile isBlank, isBlank c = true := fun c => List.mem_takeWhile_imp
  obtain ⟨blanks, trimmed, -⟩ := exists_trimmed isBlank (content.dropWhile isBlank)
  have split : splitOuterWhitespace content = (content.takeWhile isBlank,
      retreat (trimEnd isBlank (content.dropWhile isBlank)) blanks) := by
    rw [splitOuterWhitespace, drop_length_trimEnd trimmed]
  have cut := (outerSplit_splitOuterWhitespace content).content_eq
  have whole : content = content.takeWhile isBlank ++ content.dropWhile isBlank :=
    List.takeWhile_append_dropWhile.symm
  have start : utf8Length content - utf8Length (trimStart isBlank content) =
      utf8Length (content.takeWhile isBlank) := by
    have sizes := congrArg utf8Length whole
    rw [utf8Length_append] at sizes
    rw [trimStart]
    omega
  have finish : retreatOffset? content (utf8Length (content.takeWhile isBlank))
      (max (utf8Length (trimEnd isBlank content)) (utf8Length (content.takeWhile isBlank))) =
        some (utf8Length (content.takeWhile isBlank ++
          (retreat (trimEnd isBlank (content.dropWhile isBlank)) blanks).1)) := by
    rw [← retreatOffset?_append blank, ← trimmed, ← whole, ← max_trimEnd_append blank, ← whole]
  rw [split] at cut ⊢
  rw [splitAtOffsets?, start, finish]
  generalize content.takeWhile isBlank = leading at *
  generalize retreat (trimEnd isBlank (content.dropWhile isBlank)) blanks = pieces at *
  obtain ⟨body, trailing⟩ := pieces
  subst cut
  dsimp only [Option.bind_eq_bind, Option.bind_some]
  rw [cutAt?_append, slice?_append, ← List.append_assoc, cutAt?_append]
  rfl

/-! ## No escape is cut -/

/-- What the white space at the end begins with is not escaped by the body. A backslash there begins a
hard break, and one is moved out of the body only if nothing escapes it. -/
theorem endsUnescaped_of_isAsciiPunctuation (content : List Char) :
    ∀ c ∈ (splitOuterWhitespace content).2.2.head?, isAsciiPunctuation c = true →
      EndsUnescaped (splitOuterWhitespace content).2.1 := by
  obtain ⟨blanks, trimmed, blank⟩ := exists_trimmed isBlank (content.dropWhile isBlank)
  rw [splitOuterWhitespace, drop_length_trimEnd trimmed]
  have beforeBlank {c : Char} (isBlank : isBlank c = true) (escapable : isAsciiPunctuation c = true) :
      False := by
    rw [isAsciiPunctuation_eq_false_of_isBlank isBlank] at escapable
    cases escapable
  refine (retreat_induction
    (fun body rest => ∀ c ∈ rest.head?, isAsciiPunctuation c = true → EndsUnescaped body)
    (fun shorter blanks rest unescaped trimmed blank _ c first escapable => ?_)
    fun c first escapable => ?_).1
  · cases blanks with
    | nil =>
        rw [List.append_nil] at trimmed
        rwa [← trimmed]
    | cons d others =>
        obtain rfl := Option.some.inj first
        exact (beforeBlank (blank d (.head _)) escapable).elim
  · exact (beforeBlank (blank c (List.mem_of_head? first)) escapable).elim

/-- Every content is cut, without a cut that fails, into its leading white space, a body that neither
begins nor ends with white space, and white space and hard breaks. The cut behind the body goes neither
through a hard break nor between a backslash and what it escapes. -/
theorem splitOuterWhitespace_cuts (content : List Char) :
    ∃ leading body trailing,
      splitAtOffsets? content = some (leading, body, trailing) ∧
      splitOuterWhitespace content = (leading, body, trailing) ∧
      content = leading ++ (body ++ trailing) ∧
      leading = content.takeWhile isBlank ∧
      (∀ c ∈ body.head?, isBlank c = false) ∧
      (∀ c ∈ body.getLast?, isBlank c = false) ∧
      Spacing trailing ∧
      (trailing.head? = some '\n' → EndsUnescaped body) ∧
      ∀ c ∈ trailing.head?, isAsciiPunctuation c = true → EndsUnescaped body := by
  have split := outerSplit_splitOuterWhitespace content
  exact ⟨_, _, _, splitAtOffsets?_eq content, rfl, split.content_eq, rfl, split.body_first,
    split.body_last, split.trailing_spacing, split.unbroken,
    endsUnescaped_of_isAsciiPunctuation content⟩

/-- An escaped backslash, a hard break, a space and another hard break. -/
theorem splitOuterWhitespace_cuts_before_hard_breaks :
    let content := "\u00a0é\\\\\\\n \\\n".toList
    splitAtOffsets? content = some (['\u00a0'], ['é', '\\', '\\'], "\\\n \\\n".toList) ∧
      EndsUnescaped ['é', '\\', '\\'] := by
  intro content
  have pieces : splitOuterWhitespace content =
      (['\u00a0'], ['é', '\\', '\\'], "\\\n \\\n".toList) := by
    decide +kernel
  obtain ⟨leading, body, trailing, cut, split, -, -, -, -, -, -, unescaped⟩ :=
    splitOuterWhitespace_cuts content
  obtain ⟨rfl, rfl, rfl⟩ : leading = _ ∧ body = _ ∧ trailing = _ := by
    simpa using split.symm.trans pieces
  exact ⟨cut, unescaped '\\' rfl rfl⟩

end Markdown
end TwinEditor
