import Mathlib.Data.List.Basic
import TwinEditor.Proofs.Markdown.CodeSpans
import TwinEditor.Proofs.Markdown.PlacedRuns

/-!
# Delimiter runs can open and close

A delimiter mark is read as one only if the characters around it allow it: no white space on its inner
side, no backslash that escapes it, and no word character on its outer side where the inner one does not
make up for that. The writer of inline content sees to all of it, whatever the nodes are and however
they are nested, unless raw HTML gets into the text.

A stretch of text is safe to write next to others if its runs hold wherever it is put, as long as the
texts around are kept off as it asks. This is kept by writing stretches one after another, by putting
delimiter marks around them and by links, so it holds of every node.
-/

namespace TwinEditor
namespace Markdown

open Text

/-! ## What a run needs around it -/

/-- What may stand next to a delimiter mark on its outer side: the edge of the text, white space or an
ASCII punctuation character. -/
def KeepsOff (neighbour : Option Char) : Prop :=
  ∀ c ∈ neighbour, isBlank c = true ∨ isAsciiPunctuation c = true

/-- What may stand on the two sides of a delimiter mark: no white space inside, and outside a character
that keeps off the mark. Alphanumeric characters inside allow anything outside, but not with an
underscore. -/
structure Abuts (delimiter : Delimiter) (inner outer : Option Char) : Prop where
  visible : ∃ c ∈ inner, isBlank c = false
  keepsOff : (delimiter = .emphasis ∨ ∀ c ∈ inner, isAlphanumeric c = false) → KeepsOff outer

/-- Both marks of a run are next to what they can be next to, and no backslash escapes them. -/
structure PlacedRun.Flanks (placed : PlacedRun) : Prop where
  opening : Abuts placed.delimiter placed.inside.head? placed.before.getLast?
  closing : Abuts placed.delimiter placed.inside.getLast? placed.behind.head?
  opening_unescaped : EndsUnescaped placed.before
  closing_unescaped : EndsUnescaped (placed.before ++ placed.delimiter.marker ++ placed.inside)

theorem keepsOff_none : KeepsOff none :=
  nofun

theorem keepsOff_of_blank
    {c : Char}
    (blank : isBlank c = true) :
    KeepsOff (some c) :=
  fun _ same => .inl (Option.some.inj same ▸ blank)

theorem keepsOff_of_punctuation
    {c : Char}
    (punctuation : isAsciiPunctuation c = true) :
    KeepsOff (some c) :=
  fun _ same => .inr (Option.some.inj same ▸ punctuation)

/-- A character that is not written as a reference next to a run keeps off it. -/
theorem keepsOff_of_isWord
    {c : Char}
    (noWord : Escape.isWord c = false) :
    KeepsOff (some c) := by
  rw [Escape.isWord, Bool.and_eq_false_iff, Bool.not_eq_false', Bool.not_eq_false'] at noWord
  exact noWord.elim keepsOff_of_blank keepsOff_of_punctuation

theorem Delimiter.abuts
    {delimiter : Delimiter}
    {c : Char}
    {outer : Option Char}
    (visible : isBlank c = false)
    (keepsOff : delimiter.guardsOutside c = true → KeepsOff outer) :
    Abuts delimiter (some c) outer where
  visible := ⟨c, rfl, visible⟩
  keepsOff kind := by
    apply keepsOff
    rcases kind with rfl | noWord
    · rfl
    · have notAlphanumeric := noWord c rfl
      cases delimiter <;> simp [guardsOutside, notAlphanumeric]

theorem Abuts.mono
    {delimiter : Delimiter}
    {inner outer other : Option Char}
    (keepsOff : KeepsOff outer → KeepsOff other)
    (abuts : Abuts delimiter inner outer) :
    Abuts delimiter inner other :=
  ⟨abuts.visible, fun kind => keepsOff (abuts.keepsOff kind)⟩

/-! ## Marks and references -/

theorem Delimiter.keepsOff_head?_marker
    (delimiter : Delimiter)
    (behind : List Char) :
    KeepsOff (delimiter.marker ++ behind).head? := by
  cases delimiter <;> exact keepsOff_of_punctuation (by decide)

theorem Delimiter.keepsOff_getLast?_marker
    (delimiter : Delimiter)
    (before : List Char) :
    KeepsOff (before ++ delimiter.marker).getLast? := by
  have punctuation (c : Char) (member : c ∈ delimiter.marker) : isAsciiPunctuation c = true := by
    cases delimiter <;> simp_all [marker] <;> decide
  intro c last
  rw [List.getLast?_append_of_ne_nil before delimiter.marker_ne_nil] at last
  exact .inr (punctuation c (List.mem_of_getLast? last))

theorem Delimiter.endsUnescaped_append_marker
    (delimiter : Delimiter)
    (before : List Char) :
    EndsUnescaped (before ++ delimiter.marker) := by
  apply endsUnescaped_of_getLast?_ne
  intro c last
  rw [List.getLast?_append_of_ne_nil before delimiter.marker_ne_nil] at last
  exact (of_mem_marker (List.mem_of_getLast? last)).2.1

theorem Escape.getLast?_append_reference
    (before : List Char)
    (c : Char) :
    (before ++ reference c).getLast? = some ';' := by
  have ends : before ++ reference c =
      (before ++ '&' :: '#' :: 'x' :: upperHexDigits c.toNat) ++ [';'] := by
    simp [reference]
  rw [ends, List.getLast?_concat]

theorem Escape.ne_of_isWord
    {c : Char}
    (word : isWord c = true) :
    c ≠ '\\' := by
  rintro rfl
  cases word

theorem Escape.keepsOff_head?_encodeFirst
    {text : List Char}
    (notEmpty : text ≠ [])
    (behind : List Char) :
    KeepsOff (encodeFirst text ++ behind).head? := by
  cases text with
  | nil => exact absurd rfl notEmpty
  | cons c rest =>
      rw [encodeFirst]
      split
      · exact keepsOff_of_punctuation (c := '&') (by decide)
      · exact keepsOff_of_isWord (Bool.eq_false_iff.mpr ‹_›)

theorem Escape.keepsOff_getLast?_encodeLast (text : List Char) :
    KeepsOff (encodeLast text).getLast? := by
  unfold encodeLast
  split
  · rename_i c last
    split
    · rw [getLast?_append_reference]
      exact keepsOff_of_punctuation (by decide)
    · rw [last]
      exact keepsOff_of_isWord (Bool.eq_false_iff.mpr ‹_›)
  · rename_i empty
    rw [empty]
    exact keepsOff_none

theorem Escape.isEmpty_encodeFirst (text : List Char) :
    (encodeFirst text).isEmpty = text.isEmpty := by
  cases text with
  | nil => rfl
  | cons c rest =>
      rw [encodeFirst]
      split <;> rfl

/-- What ends in a reference is sealed. -/
theorem Escape.sealed_append_reference
    (before : List Char)
    (c : Char) :
    Sealed (before ++ reference c) :=
  sealed_of_getLast? (getLast?_append_reference before c) (by decide) (by decide)

theorem Sealed.encodeLast
    {text : List Char}
    (sealedText : Sealed text) :
    Sealed (Escape.encodeLast text) := by
  unfold Escape.encodeLast
  split
  · split
    · exact Escape.sealed_append_reference _ _
    · exact sealedText
  · exact sealedText

theorem Sealed.encodeFirst
    {text : List Char}
    (sealedText : Sealed text) :
    Sealed (Escape.encodeFirst text) := by
  unfold Escape.encodeFirst
  split
  · exact sealedText
  · rename_i c rest
    split
    · rename_i word
      have sealedRest : Sealed rest :=
        Sealed.of_append [c] (endsUnescaped_concat_of_ne (Escape.ne_of_isWord word) []) sealedText
      exact (Escape.sealed_append_reference [] c).append sealedRest
    · exact sealedText

/-! ## Runs wherever they are put -/

namespace Fragment

/-- All runs of fragments between two texts are next to what they can be next to. -/
def Flanked (before behind : List Char) (fragments : List Fragment) : Prop :=
  ∀ placed ∈ allPlacedRuns before behind fragments, placed.Flanks

theorem flanked_nil (before behind : List Char) : Flanked before behind [] :=
  nofun

theorem flanked_ofText (before behind text : List Char) : Flanked before behind (ofText text) := by
  rw [Flanked, allPlacedRuns_ofText]
  nofun

theorem flanked_append
    {before behind : List Char}
    {fragments later : List Fragment} :
    Flanked before behind (fragments ++ later) ↔
      Flanked before (texts later ++ behind) fragments ∧
        Flanked (before ++ texts fragments) behind later := by
  rw [Flanked, allPlacedRuns_append, List.forall_mem_append]
  rfl

theorem flanked_cons_char
    {before behind : List Char}
    {c : Char}
    {rest : List Fragment} :
    Flanked before behind (.char c :: rest) ↔ Flanked (before ++ [c]) behind rest :=
  Iff.rfl

theorem flanked_cons_run
    {before behind : List Char}
    {delimiter : Delimiter}
    {inside rest : List Fragment} :
    Flanked before behind (.run delimiter inside :: rest) ↔
      (PlacedRun.mk before delimiter (texts inside) (texts rest ++ behind)).Flanks ∧
        Flanked (before ++ delimiter.marker) (delimiter.marker ++ (texts rest ++ behind)) inside ∧
          Flanked (before ++ (run delimiter inside).text) behind rest := by
  rw [Flanked, allPlacedRuns, placedRuns, List.cons_append, List.forall_mem_cons,
    List.forall_mem_append]
  rfl

/-- A text before or behind may be exchanged for one that keeps off as well. -/
theorem keepsOff_head?_append
    {behind other : List Char}
    (keepsOff : KeepsOff behind.head? → KeepsOff other.head?)
    (text : List Char) :
    KeepsOff (text ++ behind).head? → KeepsOff (text ++ other).head? := by
  cases text with
  | nil => exact keepsOff
  | cons c rest => exact id

theorem keepsOff_getLast?_append
    {before other : List Char}
    (keepsOff : KeepsOff before.getLast? → KeepsOff other.getLast?)
    (text : List Char) :
    KeepsOff (before ++ text).getLast? → KeepsOff (other ++ text).getLast? := by
  rcases List.eq_nil_or_concat text with rfl | ⟨shorter, c, rfl⟩
  · rwa [List.append_nil, List.append_nil]
  · rw [List.concat_eq_append, ← List.append_assoc, ← List.append_assoc, List.getLast?_concat,
      List.getLast?_concat]
    exact id

/-- Whether runs hold depends on the texts around them only by whether these keep off and whether the
text before escapes the first mark. Deeper runs stand between marks and depend on nothing outside. -/
theorem Flanked.exchange
    {before before' behind behind' : List Char}
    (escaping : EndsUnescaped before ↔ EndsUnescaped before')
    (keepsOffBefore : KeepsOff before.getLast? → KeepsOff before'.getLast?)
    (keepsOffBehind : KeepsOff behind.head? → KeepsOff behind'.head?) :
    ∀ {fragments : List Fragment}, Flanked before behind fragments → Flanked before' behind' fragments
  | [], _ => flanked_nil before' behind'
  | .char c :: rest, flanked =>
      flanked_cons_char.mpr
        ((flanked_cons_char.mp flanked).exchange (endsUnescaped_append_congr escaping [c])
          (keepsOff_getLast?_append keepsOffBefore [c]) keepsOffBehind)
  | .run delimiter inside :: rest, flanked => by
      obtain ⟨flanks, inner, others⟩ := flanked_cons_run.mp flanked
      have keepsOffRest := keepsOff_head?_append keepsOffBehind (texts rest)
      refine flanked_cons_run.mpr ⟨⟨?_, ?_, ?_, ?_⟩, ?_, ?_⟩
      · exact flanks.opening.mono keepsOffBefore
      · exact flanks.closing.mono keepsOffRest
      · exact escaping.mp flanks.opening_unescaped
      · have same := endsUnescaped_append_congr escaping (delimiter.marker ++ texts inside)
        rw [← List.append_assoc, ← List.append_assoc] at same
        exact same.mp flanks.closing_unescaped
      · exact inner.exchange
          (iff_of_true (delimiter.endsUnescaped_append_marker before)
            (delimiter.endsUnescaped_append_marker before'))
          (fun _ => delimiter.keepsOff_getLast?_marker before')
          (fun _ => delimiter.keepsOff_head?_marker _)
      · exact others.exchange (endsUnescaped_append_congr escaping _)
          (keepsOff_getLast?_append keepsOffBefore _) keepsOffBehind

/-- Between two texts that keep off, with nothing escaped, runs hold that hold anywhere. -/
theorem Flanked.settle
    {before before' behind behind' : List Char}
    {fragments : List Fragment}
    (unescaped : EndsUnescaped before)
    (unescaped' : EndsUnescaped before')
    (keepsOffBefore : KeepsOff before'.getLast?)
    (keepsOffBehind : KeepsOff behind'.head?)
    (flanked : Flanked before behind fragments) :
    Flanked before' behind' fragments :=
  flanked.exchange (iff_of_true unescaped unescaped') (fun _ => keepsOffBefore)
    fun _ => keepsOffBehind

/-- A word character at the beginning may be written as a reference. -/
theorem Flanked.encodeFirst
    {before behind : List Char}
    {fragments : List Fragment}
    (flanked : Flanked before behind fragments) :
    Flanked before behind (encodeFirst fragments) := by
  unfold Fragment.encodeFirst
  split
  · rename_i c rest
    split
    · rename_i word
      refine flanked_append.mpr ⟨flanked_ofText _ _ _, ?_⟩
      rw [texts_ofText]
      refine (flanked_cons_char.mp flanked).exchange ?_ ?_ id
      · exact iff_of_true (endsUnescaped_concat_of_ne (Escape.ne_of_isWord word) before)
          (Escape.sealed_append_reference before c).atEnd
      · rw [Escape.getLast?_append_reference]
        exact fun _ => keepsOff_of_punctuation (by decide)
    · exact flanked
  · exact flanked

/-- A word character at the end may be written as a reference. -/
theorem Flanked.encodeLast
    {before behind : List Char}
    {fragments : List Fragment}
    (flanked : Flanked before behind fragments) :
    Flanked before behind (encodeLast fragments) := by
  rcases List.eq_nil_or_concat fragments with rfl | ⟨earlier, fragment, rfl⟩
  · exact flanked
  · rw [List.concat_eq_append] at flanked ⊢
    rw [Fragment.encodeLast, List.getLast?_concat]
    cases fragment with
    | run delimiter inside => exact flanked
    | char c =>
        dsimp only
        split
        · rw [List.dropLast_concat]
          refine flanked_append.mpr ⟨?_, flanked_ofText _ _ _⟩
          rw [texts_ofText]
          refine (flanked_append.mp flanked).1.exchange Iff.rfl id fun _ => ?_
          exact keepsOff_of_punctuation (c := '&') (by decide)
        · exact flanked

end Fragment

/-! ## Stretches that are safe to write -/

namespace FragmentSpan

/-- A stretch whose runs hold wherever it is put, as long as the texts around it are kept off as it asks,
and that escapes nothing outside. -/
structure Secure (stretch : FragmentSpan) : Prop where
  isSealed : Sealed (Fragment.texts stretch.fragments)
  flanked : ∀ before behind, EndsUnescaped before →
    (stretch.guardsBefore = true → KeepsOff before.getLast?) →
    (stretch.guardsAfter = true → KeepsOff behind.head?) →
    Fragment.Flanked before behind stretch.fragments

/-- What is known of the stretches written so far. -/
structure Joined (written : List Fragment) (guarded : Bool) : Prop where
  isSealed : Sealed (Fragment.texts written)
  flanked : ∀ behind, (guarded = true → KeepsOff behind.head?) → Fragment.Flanked [] behind written

theorem Joined.encodeLast
    {written : List Fragment}
    {guarded : Bool}
    (joined : Joined written guarded) :
    Joined (Fragment.encodeLast written) guarded where
  isSealed := by
    rw [Fragment.texts_encodeLast]
    exact joined.isSealed.encodeLast
  flanked behind keepsOff := (joined.flanked behind keepsOff).encodeLast

theorem Secure.encodeFirst
    {stretch : FragmentSpan}
    (secure : stretch.Secure) :
    Secure { stretch with fragments := Fragment.encodeFirst stretch.fragments } where
  isSealed := by
    rw [Fragment.texts_encodeFirst]
    exact secure.isSealed.encodeFirst
  flanked before behind unescaped keepsOffBefore keepsOffBehind :=
    (secure.flanked before behind unescaped keepsOffBefore keepsOffBehind).encodeFirst

/-- A safe stretch may be written behind others if the two keep off each other. While nothing is written
behind a run that asks for it, the next text is still to be kept off. -/
theorem Joined.append
    {written : List Fragment}
    {guarded : Bool}
    {stretch : FragmentSpan}
    (joined : Joined written guarded)
    (secure : stretch.Secure)
    (keepsOffBefore : stretch.guardsBefore = true → KeepsOff (Fragment.texts written).getLast?)
    (keepsOffBehind : guarded = true → Fragment.texts stretch.fragments ≠ [] →
      ∀ behind, KeepsOff (Fragment.texts stretch.fragments ++ behind).head?) :
    Joined (written ++ stretch.fragments)
      (stretch.guardsAfter || (guarded && (Fragment.texts stretch.fragments).isEmpty)) where
  isSealed := by
    rw [Fragment.texts_append]
    exact joined.isSealed.append secure.isSealed
  flanked behind keepsOff := by
    refine Fragment.flanked_append.mpr ⟨joined.flanked _ fun isGuarded => ?_,
      secure.flanked _ _ joined.isSealed.atEnd keepsOffBefore fun guardsAfter =>
        keepsOff (by rw [guardsAfter, Bool.true_or])⟩
    by_cases empty : Fragment.texts stretch.fragments = []
    · rw [empty]
      exact keepsOff (by rw [isGuarded, empty, List.isEmpty_nil, Bool.and_self, Bool.or_true])
    · exact keepsOffBehind isGuarded empty behind

/-- One step of the writer: a word character is written as a reference on either side where the other
side asks for it. -/
theorem Joined.step
    {written : List Fragment}
    {guarded : Bool}
    {stretch : FragmentSpan}
    (joined : Joined written guarded)
    (secure : stretch.Secure) :
    Joined
      ((if stretch.guardsBefore then Fragment.encodeLast written else written) ++
        if guarded then Fragment.encodeFirst stretch.fragments else stretch.fragments)
      (stretch.guardsAfter || (guarded && (Fragment.texts stretch.fragments).isEmpty)) := by
  have joinedBefore :
      Joined (if stretch.guardsBefore then Fragment.encodeLast written else written) guarded := by
    split
    · exact joined.encodeLast
    · exact joined
  have keepsOffBefore (guardsBefore : stretch.guardsBefore = true) :
      KeepsOff (Fragment.texts
        (if stretch.guardsBefore then Fragment.encodeLast written else written)).getLast? := by
    rw [if_pos guardsBefore, Fragment.texts_encodeLast]
    exact Escape.keepsOff_getLast?_encodeLast _
  cases guarded with
  | false => exact joinedBefore.append secure keepsOffBefore nofun
  | true =>
      have keepsOffBehind
          (notEmpty : Fragment.texts (Fragment.encodeFirst stretch.fragments) ≠ [])
          (behind : List Char) :
          KeepsOff (Fragment.texts (Fragment.encodeFirst stretch.fragments) ++ behind).head? := by
        rw [Fragment.texts_encodeFirst] at notEmpty ⊢
        apply Escape.keepsOff_head?_encodeFirst
        intro empty
        rw [empty] at notEmpty
        exact notEmpty rfl
      have joinedBoth := joinedBefore.append secure.encodeFirst keepsOffBefore
        fun _ => keepsOffBehind
      rwa [Fragment.texts_encodeFirst, Escape.isEmpty_encodeFirst] at joinedBoth

theorem Joined.joinOnto
    {stretches : List FragmentSpan}
    (secure : ∀ stretch ∈ stretches, stretch.Secure)
    {written : List Fragment}
    {guarded : Bool}
    (joined : Joined written guarded) :
    ∃ stillGuarded, Joined (joinOnto written guarded stretches) stillGuarded := by
  induction stretches generalizing written guarded with
  | nil => exact ⟨guarded, joined⟩
  | cons stretch rest inductionHypothesis =>
      obtain ⟨secureFirst, secureRest⟩ := List.forall_mem_cons.mp secure
      exact inductionHypothesis secureRest (joined.step secureFirst)

/-- Safe stretches are safe to join. -/
theorem joined_join
    {stretches : List FragmentSpan}
    (secure : ∀ stretch ∈ stretches, stretch.Secure) :
    Sealed (Fragment.texts (join stretches)) ∧ Fragment.Flanked [] [] (join stretches) := by
  have start : Joined [] false := ⟨sealed_nil, fun _ _ => Fragment.flanked_nil _ _⟩
  obtain ⟨stillGuarded, joined⟩ := start.joinOnto secure
  exact ⟨joined.isSealed, joined.flanked [] fun _ => keepsOff_none⟩

/-- A sealed text without runs is safe. -/
theorem secure_plain_ofText
    {text : List Char}
    (sealedText : Sealed text) :
    (plain (Fragment.ofText text)).Secure where
  isSealed := by
    rw [plain, Fragment.texts_ofText]
    exact sealedText
  flanked _ _ _ _ _ := Fragment.flanked_ofText _ _ _

end FragmentSpan

/-! ## Delimiter marks around content -/

theorem Spacing.keepsOff_head?
    {trailing : List Char}
    (spacing : Spacing trailing)
    {behind : List Char}
    (keepsOff : trailing.isEmpty = true → KeepsOff behind.head?) :
    KeepsOff (trailing ++ behind).head? := by
  cases spacing with
  | nil => exact keepsOff rfl
  | blank isBlank _ => exact keepsOff_of_blank isBlank
  | hardBreak _ => exact keepsOff_of_punctuation (c := '\\') (by decide)

theorem OuterSplit.keepsOff_getLast?
    {content leading body trailing : List Char}
    (split : OuterSplit content leading body trailing)
    {before : List Char}
    (keepsOff : leading.isEmpty = true → KeepsOff before.getLast?) :
    KeepsOff (before ++ leading).getLast? := by
  rcases List.eq_nil_or_concat leading with rfl | ⟨blanks, c, rfl⟩
  · rw [List.append_nil]
    exact keepsOff rfl
  · rw [List.concat_eq_append, ← List.append_assoc, List.getLast?_concat]
    exact keepsOff_of_blank (split.leading_blank c (by simp))

theorem OuterSplit.endsUnescaped_append_leading
    {content leading body trailing : List Char}
    (split : OuterSplit content leading body trailing)
    {before : List Char}
    (unescaped : EndsUnescaped before) :
    EndsUnescaped (before ++ leading) :=
  (endsUnescaped_append_iff unescaped leading).mpr (endsUnescaped_of_blank split.leading_blank)

theorem Fragment.sealed_text_run
    (delimiter : Delimiter)
    (inside : List Fragment) :
    Sealed (run delimiter inside).text := by
  obtain ⟨c, rest, ends, member⟩ := (exists_text_run delimiter inside).2
  obtain ⟨visible, noBackslash, -⟩ := Delimiter.of_mem_marker member
  rw [ends]
  exact sealed_of_getLast? List.getLast?_concat visible noBackslash

namespace FragmentSpan

/-- A run around what is left of a safe content. -/
theorem secure_run
    {content : List Fragment}
    {leading trailing : List Char}
    {inside : List Fragment}
    (isSealed : Sealed (Fragment.texts content))
    (flanked : Fragment.Flanked [] [] content)
    (split : OuterSplit (Fragment.texts content) leading (Fragment.texts inside) trailing)
    (contentEq : content = Fragment.ofText leading ++ (inside ++ Fragment.ofText trailing))
    (bodyUnescaped : EndsUnescaped (Fragment.texts inside))
    {delimiter : Delimiter}
    {first last : Char}
    (isFirst : (Fragment.texts inside).head? = some first)
    (isLast : (Fragment.texts inside).getLast? = some last) :
    Secure ⟨Fragment.ofText leading ++ .run delimiter inside :: Fragment.ofText trailing,
      leading.isEmpty && delimiter.guardsOutside first,
      trailing.isEmpty && delimiter.guardsOutside last⟩ where
  isSealed := by
    have sealedTrailing : Sealed trailing := by
      apply Sealed.of_append (leading ++ Fragment.texts inside)
      · exact (endsUnescaped_append_iff (split.endsUnescaped_append_leading endsUnescaped_nil)
          _).mpr bodyUnescaped
      · rwa [List.append_assoc, ← split.content_eq]
    rw [Fragment.texts_append, Fragment.texts, Fragment.texts_ofText, Fragment.texts_ofText]
    exact (sealed_of_blank split.leading_blank).append
      ((Fragment.sealed_text_run delimiter inside).append sealedTrailing)
  flanked before behind unescaped keepsOffBefore keepsOffBehind := by
    have leadingUnescaped := split.endsUnescaped_append_leading unescaped
    -- In the content the inside stands between white space, or at the edges; here it stands between marks.
    have insideFlanked : Fragment.Flanked leading trailing inside := by
      rw [contentEq, Fragment.flanked_append, Fragment.flanked_append] at flanked
      simpa using flanked.2.1
    refine Fragment.flanked_append.mpr ⟨Fragment.flanked_ofText _ _ _, Fragment.flanked_cons_run.mpr
      ⟨⟨?_, ?_, ?_, ?_⟩, ?_, Fragment.flanked_ofText _ _ _⟩⟩ <;>
      simp only [Fragment.texts_ofText]
    · rw [isFirst]
      refine Delimiter.abuts (split.body_first first isFirst) fun guards =>
        split.keepsOff_getLast? fun empty => keepsOffBefore ?_
      exact Bool.and_eq_true_iff.mpr ⟨empty, guards⟩
    · rw [isLast]
      refine Delimiter.abuts (split.body_last last isLast) fun guards =>
        split.trailing_spacing.keepsOff_head? fun empty => keepsOffBehind ?_
      exact Bool.and_eq_true_iff.mpr ⟨empty, guards⟩
    · exact leadingUnescaped
    · exact (endsUnescaped_append_iff (delimiter.endsUnescaped_append_marker _) _).mpr
        bodyUnescaped
    · exact insideFlanked.settle (split.endsUnescaped_append_leading endsUnescaped_nil)
        (delimiter.endsUnescaped_append_marker _) (delimiter.keepsOff_getLast?_marker _)
        (delimiter.keepsOff_head?_marker _)

/-- Safe content is safe between delimiter marks. -/
theorem secure_delimited
    {content : List Fragment}
    (isSealed : Sealed (Fragment.texts content))
    (flanked : Fragment.Flanked [] [] content)
    (delimiter : Delimiter) :
    (delimited delimiter content).Secure := by
  obtain ⟨leading, inside, trailing, split, contentEq, splitEq⟩ := exists_outerSplit content
  have bodyUnescaped := isSealed.endsUnescaped_body
  rw [splitEq] at bodyUnescaped
  rw [delimited_eq contentEq splitEq]
  split
  · rename_i first last isFirst isLast
    exact secure_run isSealed flanked split contentEq bodyUnescaped isFirst isLast
  · rename_i dropped
    have empty : Fragment.texts inside = [] := by
      cases body : Fragment.texts inside with
      | nil => rfl
      | cons c rest =>
          refine (dropped c (rest.getLast?.getD c) ?_ ?_).elim
          · rw [body, List.head?_cons]
          · rw [body, List.getLast?_cons]
    have sealedContent := isSealed
    rw [split.content_eq, empty, List.nil_append] at sealedContent
    exact secure_plain_ofText sealedContent

/-- Safe content is safe in a link. -/
theorem secure_link
    {content : List Fragment}
    (flanked : Fragment.Flanked [] [] content)
    (destination : List Char) :
    (plain (.char '[' ::
      (content ++ Fragment.ofText (']' :: '(' :: (destination ++ [')']))))).Secure where
  isSealed := by
    have ends : Fragment.texts (plain (.char '[' ::
        (content ++ Fragment.ofText (']' :: '(' :: (destination ++ [')']))))).fragments =
        '[' :: (Fragment.texts content ++ ']' :: '(' :: destination) ++ [')'] := by
      simp [plain, Fragment.texts, Fragment.text, Fragment.texts_append]
    rw [ends]
    exact sealed_of_getLast? List.getLast?_concat (by decide) (by decide)
  flanked before behind _ _ _ := by
    refine Fragment.flanked_cons_char.mpr
      (Fragment.flanked_append.mpr ⟨?_, Fragment.flanked_ofText _ _ _⟩)
    rw [Fragment.texts_ofText]
    refine flanked.settle endsUnescaped_nil (endsUnescaped_concat_of_ne (by decide) before) ?_ ?_
    · rw [List.getLast?_concat]
      exact keepsOff_of_punctuation (by decide)
    · exact keepsOff_of_punctuation (c := ']') (by decide)

end FragmentSpan

/-! ## Text, code and breaks -/

theorem Escape.visible_of_isSpecial
    {inTable : Bool}
    {c : Char}
    (special : isSpecial inTable c = true) :
    isBlank c = false := by
  simp only [isSpecial, Bool.or_eq_true, Bool.and_eq_true, beq_iff_eq] at special
  rcases special with (((((((rfl | rfl) | rfl) | rfl) | rfl) | rfl) | rfl) | rfl) | ⟨-, rfl⟩
  all_goals rfl

theorem Escape.sealed_text
    (inTable : Bool)
    (value : List Char) :
    Sealed (text inTable value) := by
  induction value with
  | nil => exact sealed_nil
  | cons c rest inductionHypothesis =>
      rw [text]
      split
      · rename_i escaped
        have visible : isBlank c = false := by
          rw [Bool.or_eq_true, Bool.and_eq_true, beq_iff_eq] at escaped
          rcases escaped with special | ⟨rfl, -⟩
          · exact visible_of_isSpecial special
          · rfl
        exact (sealed_escape visible).append inductionHypothesis
      · rename_i plain
        have noBackslash : c ≠ '\\' := by
          rintro rfl
          simp [isSpecial] at plain
        exact (sealed_singleton noBackslash).append inductionHypothesis

theorem sealed_codeSpan (value : List Char) : Sealed (codeSpan value) := by
  by_cases empty : value = []
  · rw [empty]
    exact sealed_nil
  · rw [codeSpan_eq empty, List.replicate_succ', ← List.append_assoc, ← List.append_assoc]
    exact sealed_of_getLast? List.getLast?_concat (by decide) (by decide)

theorem sealed_lineBreak : Sealed ['\\', '\n'] :=
  sealed_of_visible (endsUnescaped_concat_of_ne (by decide) ['\\'])
    (List.forall_mem_cons.mpr ⟨.inl rfl, List.forall_mem_singleton.mpr (.inr rfl)⟩)

namespace Node

mutual

/-- Whether no raw HTML gets into the text of an inline node. Blocks write nothing there. -/
def isFreeOfHtml : Node → Bool
  | .strong inner | .emphasis inner | .delete inner | .link _ inner => areFreeOfHtml inner
  | .html _ => false
  | _ => true

/-- Whether no raw HTML gets into the text of inline nodes. -/
def areFreeOfHtml : List Node → Bool
  | [] => true
  | node :: rest => node.isFreeOfHtml && areFreeOfHtml rest

end

mutual

theorem areFreeOfHtml_consMerged : ∀ (node : Node) (rest : List Node),
    areFreeOfHtml (consMerged node rest) = (node.isFreeOfHtml && areFreeOfHtml rest)
  | .strong inner, rest | .emphasis inner, rest | .delete inner, rest => by
      have inside := areFreeOfHtml_appendMerged inner
      unfold consMerged
      split <;> simp_all [areFreeOfHtml, isFreeOfHtml, Bool.and_assoc]
  | .link url inner, rest => by
      rw [consMerged, areFreeOfHtml, isFreeOfHtml, areFreeOfHtml_appendMerged inner, areFreeOfHtml,
        Bool.and_true, isFreeOfHtml]
  | .heading .., _ | .paragraph _, _ | .list .., _ | .listItem _, _ | .code .., _
  | .blockquote _, _ | .thematicBreak, _ | .text _, _ | .inlineCode _, _ | .lineBreak, _
  | .html _, _ | .image .., _ | .table .., _ | .tableRow _, _ | .tableCell _, _ => by
      rw [consMerged, areFreeOfHtml] <;> nofun

theorem areFreeOfHtml_appendMerged : ∀ (nodes merged : List Node),
    areFreeOfHtml (appendMerged nodes merged) = (areFreeOfHtml nodes && areFreeOfHtml merged)
  | [], merged => by rw [appendMerged, areFreeOfHtml, Bool.true_and]
  | node :: rest, merged => by
      rw [appendMerged, areFreeOfHtml_consMerged, areFreeOfHtml_appendMerged, areFreeOfHtml,
        Bool.and_assoc]

end

mutual

theorem secure_fragmentSpan (inTable : Bool) : ∀ {node : Node},
    node.isFreeOfHtml = true → (node.fragmentSpan inTable).Secure
  | .strong inner, free | .emphasis inner, free | .delete inner, free => by
      rw [isFreeOfHtml] at free
      obtain ⟨isSealed, flanked⟩ := FragmentSpan.joined_join (secure_fragmentSpans inTable free)
      rw [fragmentSpan]
      exact FragmentSpan.secure_delimited isSealed flanked _
  | .link url inner, free => by
      rw [isFreeOfHtml] at free
      rw [fragmentSpan]
      exact FragmentSpan.secure_link
        (FragmentSpan.joined_join (secure_fragmentSpans inTable free)).2 _
  | .text value, _ => FragmentSpan.secure_plain_ofText (Escape.sealed_text inTable value.toList)
  | .inlineCode value, _ => FragmentSpan.secure_plain_ofText (sealed_codeSpan value.toList)
  | .image url alt, _ => by
      apply FragmentSpan.secure_plain_ofText
      have ends : ((Node.image url alt).span inTable).text =
          '!' :: '[' :: (Escape.text inTable alt.toList ++
            ']' :: '(' :: linkDestination url.toList) ++ [')'] := by
        simp [span, Span.plain]
      rw [ends]
      exact sealed_of_getLast? List.getLast?_concat (by decide) (by decide)
  | .lineBreak, _ => FragmentSpan.secure_plain_ofText sealed_lineBreak
  | .html _, free => by cases free
  | .heading .., _ | .paragraph _, _ | .list .., _ | .listItem _, _ | .code .., _
  | .blockquote _, _ | .thematicBreak, _ | .table .., _ | .tableRow _, _ | .tableCell _, _ =>
      FragmentSpan.secure_plain_ofText sealed_nil

theorem secure_fragmentSpans (inTable : Bool) : ∀ {nodes : List Node},
    areFreeOfHtml nodes = true → ∀ stretch ∈ fragmentSpans inTable nodes, stretch.Secure
  | [], _ => nofun
  | node :: rest, free => by
      obtain ⟨nodeFree, restFree⟩ := Bool.and_eq_true_iff.mp free
      exact List.forall_mem_cons.mpr
        ⟨secure_fragmentSpan inTable nodeFree, secure_fragmentSpans inTable restFree⟩

end

/-- In the text of inline nodes without raw HTML, nested in any way, every delimiter run can open and
close: both marks have something visible inside and nothing outside that keeps them from being read, and
neither is escaped. The runs are all that the nodes call for, each at its place in the text. -/
theorem delimiterRuns_flank
    (inTable : Bool)
    (nodes : List Node)
    (free : areFreeOfHtml nodes = true) :
    (delimiterRuns inTable nodes).map PlacedRun.delimiter =
        allDelimiters inTable (mergeRuns nodes) ∧
      ∀ placed ∈ delimiterRuns inTable nodes,
        placed.text = inlineText inTable nodes ∧ placed.Flanks := by
  have mergedFree : areFreeOfHtml (mergeRuns nodes) = true := by
    rw [mergeRuns, areFreeOfHtml_appendMerged, free, areFreeOfHtml, Bool.and_true]
  have flanked := (FragmentSpan.joined_join (secure_fragmentSpans inTable mergedFree)).2
  exact ⟨map_delimiter_delimiterRuns inTable nodes, fun placed member =>
    ⟨text_of_mem_delimiterRuns member, flanked placed member⟩⟩

/-- Emphasis within a word, with strong emphasis at its end. -/
def emphasisWithinWord : List Node :=
  [.text "a", .emphasis [.text "b ", .strong [.text "c!"]], .text "d"]

/-- Within a word the letters next to emphasis are written as references. -/
theorem delimiterRuns_flank_within_word :
    areFreeOfHtml emphasisWithinWord = true ∧
      delimiterRuns false emphasisWithinWord =
        [⟨"&#x61;".toList, .emphasis, "b **c!**".toList, "&#x64;".toList⟩,
          ⟨"&#x61;_b ".toList, .strong, "c!".toList, "_&#x64;".toList⟩] ∧
      ∀ placed ∈ delimiterRuns false emphasisWithinWord,
        placed.text = inlineText false emphasisWithinWord ∧ placed.Flanks :=
  ⟨rfl, by decide +kernel, (delimiterRuns_flank false emphasisWithinWord rfl).2⟩

end Node

end Markdown
end TwinEditor
