import TwinEditor.Proofs.Markdown.CodeSpans
import TwinEditor.Proofs.Markdown.Flanking

/-!
# Bars in written inline content

In the cells of a table every bar of a text is written behind a backslash. Code, destinations and raw HTML
are written as they stand, with their bars. So the bars of written content that are behind no backslash
are those that code, destinations and raw HTML bring with them, wherever these are nested; only raw HTML
that begins with a bar may be written behind somebody else's backslash.
-/

namespace TwinEditor
namespace Markdown

open Text

/-! ## Counting -/

/-- The number of bars in a text that are not behind a backslash, where `escaped` says whether the text
is behind one. -/
def bareBars (escaped : Bool) : List Char → Nat
  | [] => 0
  | c :: rest => (if c = '|' ∧ escaped = false then 1 else 0) + bareBars (c == '\\') rest

/-- Whether a character is behind a backslash if it comes next after a text, where `escaped` says whether
the text is behind one. -/
def escapesNext (escaped : Bool) (text : List Char) : Bool :=
  text.foldl (fun _ c => c == '\\') escaped

theorem escapesNext_concat
    (escaped : Bool)
    (text : List Char)
    (c : Char) :
    escapesNext escaped (text ++ [c]) = (c == '\\') :=
  List.foldl_append

theorem escapesNext_eq_false
    {escaped : Bool}
    {text : List Char}
    (begins : text = [] → escaped = false)
    (plain : ∀ c ∈ text, c ≠ '\\') :
    escapesNext escaped text = false := by
  rcases List.eq_nil_or_concat text with rfl | ⟨start, c, rfl⟩
  · exact begins rfl
  · rw [List.concat_eq_append] at plain ⊢
    rw [escapesNext_concat, beq_eq_false_iff_ne]
    exact plain c (by simp)

theorem bareBars_append
    (escaped : Bool)
    (text more : List Char) :
    bareBars escaped (text ++ more) =
      bareBars escaped text + bareBars (escapesNext escaped text) more := by
  induction text generalizing escaped with
  | nil => exact (Nat.zero_add _).symm
  | cons c rest inductionHypothesis =>
      rw [List.cons_append, bareBars, bareBars, inductionHypothesis, Nat.add_assoc]
      rfl

theorem bareBars_eq_zero
    {text : List Char}
    (noBar : '|' ∉ text)
    (escaped : Bool) :
    bareBars escaped text = 0 := by
  induction text generalizing escaped with
  | nil => rfl
  | cons c rest inductionHypothesis =>
      rw [List.mem_cons, not_or] at noBar
      rw [bareBars, if_neg fun isBar => noBar.1 isBar.1.symm, inductionHypothesis noBar.2]

/-- A backslash before a text can only hide its first character. -/
theorem bareBars_le
    (escaped : Bool)
    (text : List Char) :
    bareBars escaped text ≤ bareBars false text := by
  cases text with
  | nil => exact Nat.le_refl 0
  | cons c rest =>
      rw [bareBars, bareBars]
      refine Nat.add_le_add_right ?_ _
      split
      · next isBar => rw [if_pos ⟨isBar.1, rfl⟩]
      · exact Nat.zero_le _

/-- Text without bars around a content, with no backslash just before it, leaves its bars as they
are. -/
theorem bareBars_enclosed
    (before behind : List Char)
    (noBar : '|' ∉ before)
    (noBarBehind : '|' ∉ behind)
    {escaped : Bool}
    (unescaped : escapesNext escaped before = false)
    (content : List Char) :
    bareBars escaped (before ++ (content ++ behind)) = bareBars false content := by
  rw [bareBars_append, bareBars_append, bareBars_eq_zero noBar, unescaped,
    bareBars_eq_zero noBarBehind, Nat.zero_add, Nat.add_zero]

/-! ## References in place of characters -/

namespace Escape

theorem ne_bar_of_mem_upperHexDigits
    {value : Nat}
    {c : Char}
    (member : c ∈ upperHexDigits value) :
    c ≠ '|' := by
  obtain ⟨digit, isDigit, rfl⟩ := List.mem_map.mp member
  have digitChars : ∀ digit < 16, (Nat.digitChar digit).toUpper ≠ '|' := by decide
  clear member
  induction value using Nat.strongRecOn with
  | ind value inductionHypothesis =>
      rw [Nat.toDigits_eq_if (by decide)] at isDigit
      split at isDigit
      · next small =>
          obtain rfl := List.mem_singleton.mp isDigit
          exact digitChars value small
      · rcases List.mem_append.mp isDigit with higher | lowest
        · exact inductionHypothesis (value / 16) (by omega) higher
        · obtain rfl := List.mem_singleton.mp lowest
          exact digitChars _ (Nat.mod_lt value (by decide))

theorem bar_notMem_reference (c : Char) : '|' ∉ reference c := by
  have noBar : '|' ∉ upperHexDigits c.toNat := fun member => ne_bar_of_mem_upperHexDigits member rfl
  simp [reference, noBar]

theorem ne_bar_of_isWord
    {c : Char}
    (word : isWord c = true) :
    c ≠ '|' := by
  rintro rfl
  cases word

theorem escapesNext_reference
    (escaped : Bool)
    (before : List Char)
    (c : Char) :
    escapesNext escaped (before ++ reference c) = false := by
  have ends : before ++ reference c =
      (before ++ '&' :: '#' :: 'x' :: upperHexDigits c.toNat) ++ [';'] := by
    simp [reference]
  rw [ends, escapesNext_concat]
  rfl

@[simp] theorem bareBars_encodeFirst
    (escaped : Bool)
    (text : List Char) :
    bareBars escaped (encodeFirst text) = bareBars escaped text := by
  cases text with
  | nil => rfl
  | cons c rest =>
      rw [encodeFirst]
      split
      · next word =>
          have noBackslash : (c == '\\') = false := beq_eq_false_iff_ne.mpr (ne_of_isWord word)
          rw [bareBars_append, bareBars_eq_zero (bar_notMem_reference c), bareBars, noBackslash,
            if_neg fun isBar => ne_bar_of_isWord word isBar.1]
          rw [← List.nil_append (reference c), escapesNext_reference]
      · rfl

@[simp] theorem bareBars_encodeLast
    (escaped : Bool)
    (text : List Char) :
    bareBars escaped (encodeLast text) = bareBars escaped text := by
  rcases List.eq_nil_or_concat text with rfl | ⟨start, c, rfl⟩
  · rfl
  · rw [List.concat_eq_append, encodeLast, List.getLast?_concat]
    dsimp only
    split
    · next word =>
        have noBar : '|' ∉ [c] := by simpa using (ne_bar_of_isWord word).symm
        rw [List.dropLast_concat, bareBars_append, bareBars_append,
          bareBars_eq_zero (bar_notMem_reference c), bareBars_eq_zero noBar]
    · rfl

/-- In a table no bar of a text stands for itself. -/
theorem bareBars_text
    (escaped : Bool)
    (value : List Char) :
    bareBars escaped (text true value) = 0 := by
  induction value generalizing escaped with
  | nil => rfl
  | cons c rest inductionHypothesis =>
      rw [text]
      split
      · have hidden : ¬ (c = '|' ∧ ('\\' == '\\') = false) := by simp
        have backslash : '\\' ≠ '|' := by decide
        rw [bareBars, bareBars, inductionHypothesis, if_neg hidden,
          if_neg fun isBar => backslash isBar.1]
      · next plain =>
          have noBar : c ≠ '|' := by
            rintro rfl
            exact plain rfl
          rw [bareBars, inductionHypothesis, if_neg fun isBar => noBar isBar.1]

end Escape

/-! ## Inline content -/

theorem bareBars_replaceChar
    {c : Char}
    (noBar : c ≠ '|')
    (noBackslash : c ≠ '\\')
    (escaped : Bool)
    (text : List Char) :
    bareBars escaped (replaceChar c ['\\', c] text) = bareBars escaped text := by
  induction text generalizing escaped with
  | nil => rfl
  | cons d rest inductionHypothesis =>
      rw [replaceChar] at inductionHypothesis ⊢
      rw [List.flatMap_cons, bareBars_append, inductionHypothesis, bareBars]
      split
      · next same =>
          subst same
          rw [bareBars_eq_zero (by simp [noBar.symm]), if_neg fun isBar => noBar isBar.1]
          rfl
      · rfl

theorem bareBars_linkDestination
    (escaped : Bool)
    (url : List Char) :
    bareBars escaped ('(' :: (linkDestination url ++ [')'])) = bareBars false url := by
  rw [linkDestination]
  split
  · have unescaped : escapesNext escaped ['(', '<'] = false := rfl
    have enclosed := bareBars_enclosed ['(', '<'] ['>', ')'] (by decide) (by decide) unescaped
      (replaceChar '>' ['\\', '>'] (replaceChar '<' ['\\', '<'] url))
    rw [bareBars_replaceChar (by decide) (by decide), bareBars_replaceChar (by decide) (by decide)]
      at enclosed
    simpa using enclosed
  · exact bareBars_enclosed ['('] [')'] (by decide) (by decide) rfl url

theorem bareBars_codeContent (value : List Char) :
    bareBars false (codeContent value) = bareBars false value := by
  rw [codeContent]
  split
  · exact bareBars_enclosed [' '] [' '] (by decide) (by decide) rfl value
  · rfl

theorem bareBars_codeSpan
    (escaped : Bool)
    (value : List Char) :
    bareBars escaped (codeSpan value) = bareBars false value := by
  by_cases none : value = []
  · rw [none]
    rfl
  · have plain : ∀ c ∈ List.replicate (longestRun '\x60' value + 1) '\x60', c = '\x60' :=
      fun c => List.eq_of_mem_replicate
    have noBar : '|' ∉ List.replicate (longestRun '\x60' value + 1) '\x60' :=
      fun member => nomatch plain _ member
    have unescaped : escapesNext escaped (List.replicate (longestRun '\x60' value + 1) '\x60') = false :=
      escapesNext_eq_false (fun empty => nomatch List.replicate_succ.symm.trans empty)
        fun c member => plain c member ▸ by decide
    rw [codeSpan_eq none, bareBars_enclosed _ _ noBar noBar unescaped, bareBars_codeContent]

theorem Spacing.bar_notMem
    {text : List Char}
    (spacing : Spacing text) :
    '|' ∉ text := by
  intro member
  rcases spacing.isBlank_or_eq _ member with blank | backslash
  · cases blank
  · cases backslash

/-- White space around a content leaves its bars as they are. -/
theorem bareBars_padded
    {leading trailing : List Char}
    (blank : ∀ c ∈ leading, isBlank c = true)
    (spacing : Spacing trailing)
    (content : List Char) :
    bareBars false (leading ++ (content ++ trailing)) = bareBars false content := by
  have unescaped : escapesNext false leading = false := by
    refine escapesNext_eq_false (fun _ => rfl) fun c member => ?_
    rintro rfl
    cases blank _ member
  exact bareBars_enclosed _ _ (Spacing.of_blank blank).bar_notMem spacing.bar_notMem unescaped content

theorem OuterSplit.bareBars_body
    {content leading body trailing : List Char}
    (split : OuterSplit content leading body trailing) :
    bareBars false content = bareBars false body := by
  rw [split.content_eq]
  exact bareBars_padded split.leading_blank split.trailing_spacing body

theorem Delimiter.bar_notMem_marker (delimiter : Delimiter) : '|' ∉ delimiter.marker := by
  cases delimiter <;> decide

/-- Delimiter marks around a content leave its bars as they are. -/
theorem bareBars_delimited
    (delimiter : Delimiter)
    (escaped : Bool)
    (content : List Char) :
    bareBars escaped (delimited delimiter content).text = bareBars false content := by
  have split := outerSplit_splitOuterWhitespace content
  rw [split.bareBars_body, delimited]
  generalize splitOuterWhitespace content = pieces at split ⊢
  obtain ⟨leading, body, trailing⟩ := pieces
  have noBarLeading : '|' ∉ leading := (Spacing.of_blank split.leading_blank).bar_notMem
  have noBarTrailing : '|' ∉ trailing := split.trailing_spacing.bar_notMem
  have noBarMarker := delimiter.bar_notMem_marker
  dsimp only
  cases body with
  | nil =>
      rw [List.head?_nil, Span.plain, bareBars_eq_zero (by simp [noBarLeading, noBarTrailing])]
      rfl
  | cons c rest =>
      rw [List.head?_cons, List.getLast?_cons]
      have unescaped : escapesNext escaped (leading ++ delimiter.marker) = false := by
        rw [escapesNext, List.foldl_append]
        exact escapesNext_eq_false (absurd · delimiter.marker_ne_nil)
          fun d member => (Delimiter.of_mem_marker member).2.1
      have enclosed := bareBars_enclosed (leading ++ delimiter.marker)
        (delimiter.marker ++ trailing) (by simp [noBarLeading, noBarMarker])
        (by simp [noBarTrailing, noBarMarker]) unescaped (c :: rest)
      simpa using enclosed

/-! ## Bars of nodes -/

namespace Node

mutual

/-- The number of bars that code, destinations and raw HTML bring into what an inline node writes. -/
def rawBars : Node → Nat
  | .inlineCode value | .html value => bareBars false value.toList
  | .image url _ => bareBars false url.toList
  | .link url inner => allRawBars inner + bareBars false url.toList
  | .strong inner | .emphasis inner | .delete inner => allRawBars inner
  | _ => 0

/-- The number of bars that code, destinations and raw HTML bring into what inline nodes write. -/
def allRawBars : List Node → Nat
  | [] => 0
  | node :: rest => node.rawBars + allRawBars rest

end

mutual

theorem allRawBars_consMerged : ∀ (node : Node) (rest : List Node),
    allRawBars (consMerged node rest) = node.rawBars + allRawBars rest
  | .strong inner, rest | .emphasis inner, rest | .delete inner, rest => by
      have inside := allRawBars_appendMerged inner
      unfold consMerged
      split <;> simp_all [allRawBars, rawBars, Nat.add_assoc]
  | .link url inner, rest => by
      rw [consMerged, allRawBars, rawBars, allRawBars_appendMerged inner, allRawBars,
        Nat.add_zero, rawBars]
  | .heading .., _ | .paragraph _, _ | .list .., _ | .listItem _, _ | .code .., _
  | .blockquote _, _ | .thematicBreak, _ | .text _, _ | .inlineCode _, _ | .lineBreak, _
  | .html _, _ | .image .., _ | .table .., _ | .tableRow _, _ | .tableCell _, _ => by
      rw [consMerged, allRawBars] <;> nofun

theorem allRawBars_appendMerged : ∀ (nodes merged : List Node),
    allRawBars (appendMerged nodes merged) = allRawBars nodes + allRawBars merged
  | [], merged => by rw [appendMerged, allRawBars, Nat.zero_add]
  | node :: rest, merged => by
      rw [appendMerged, allRawBars_consMerged, allRawBars_appendMerged, allRawBars, Nat.add_assoc]

end

/-- A text that brings at most some number of bars with it wherever it stands, and just that number if
it is exact. -/
structure Brings (exact : Bool) (count : Nat) (text : List Char) : Prop where
  le : ∀ escaped, bareBars escaped text ≤ count
  eq : exact = true → ∀ escaped, bareBars escaped text = count

namespace Brings

variable {exact : Bool} {count more : Nat} {text content : List Char}

theorem of_eq (same : ∀ escaped, bareBars escaped text = count) : Brings exact count text :=
  ⟨fun escaped => Nat.le_of_eq (same escaped), fun _ => same⟩

/-- A text around a content brings what the content brings. -/
theorem around
    (brings : Brings exact count content)
    (same : ∀ escaped, bareBars escaped text = bareBars false content) :
    Brings exact count text :=
  ⟨fun escaped => same escaped ▸ brings.le false,
    fun isExact escaped => (same escaped).trans (brings.eq isExact false)⟩

theorem append
    (brings : Brings exact count text)
    (bringsMore : Brings exact more content) :
    Brings exact (count + more) (text ++ content) := by
  refine ⟨fun escaped => ?_, fun isExact escaped => ?_⟩
  · rw [bareBars_append]
    exact Nat.add_le_add (brings.le escaped) (bringsMore.le _)
  · rw [bareBars_append, brings.eq isExact, bringsMore.eq isExact]

theorem encodeFirst
    (brings : Brings exact count text) :
    Brings exact count (Escape.encodeFirst text) :=
  ⟨fun escaped => (Escape.bareBars_encodeFirst escaped text).trans_le (brings.le escaped),
    fun isExact escaped =>
      (Escape.bareBars_encodeFirst escaped text).trans (brings.eq isExact escaped)⟩

theorem encodeLast
    (brings : Brings exact count text) :
    Brings exact count (Escape.encodeLast text) :=
  ⟨fun escaped => (Escape.bareBars_encodeLast escaped text).trans_le (brings.le escaped),
    fun isExact escaped =>
      (Escape.bareBars_encodeLast escaped text).trans (brings.eq isExact escaped)⟩

/-- What nodes write behind a text adds what they bring to what the text brings. -/
theorem joinOnto
    {nodes : List Node}
    (each : ∀ node ∈ nodes, Brings exact node.rawBars (node.span true).text)
    (brings : Brings exact count text)
    (guarded : Bool) :
    Brings exact (count + allRawBars nodes) (Span.joinOnto text guarded (spans true nodes)) := by
  induction nodes generalizing count text guarded with
  | nil => exact brings
  | cons node rest inductionHypothesis =>
      obtain ⟨first, others⟩ := List.forall_mem_cons.mp each
      rw [spans, Span.joinOnto, allRawBars, ← Nat.add_assoc]
      refine inductionHypothesis others (append ?_ ?_) _
      · split
        · exact brings.encodeLast
        · exact brings
      · split
        · exact first.encodeFirst
        · exact first

/-- What nodes write brings what the nodes bring. -/
theorem join
    {nodes : List Node}
    (each : ∀ node ∈ nodes, Brings exact node.rawBars (node.span true).text) :
    Brings exact (allRawBars nodes) (Span.join (spans true nodes)) := by
  have joined : Brings exact (0 + allRawBars nodes) (Span.joinOnto [] false (spans true nodes)) :=
    joinOnto each (of_eq fun _ => rfl) false
  rwa [Nat.zero_add] at joined

end Brings

mutual

theorem brings_span {exact : Bool} : ∀ {node : Node},
    (exact = true → node.isFreeOfHtml = true) → Brings exact node.rawBars (node.span true).text
  | .strong inner, free | .emphasis inner, free | .delete inner, free => by
      rw [isFreeOfHtml] at free
      rw [rawBars, span]
      exact (Brings.join (brings_spans free)).around fun escaped => bareBars_delimited _ escaped _
  | .link url inner, free => by
      rw [isFreeOfHtml] at free
      rw [rawBars, span]
      have label : Brings exact (allRawBars inner) ('[' :: (Span.join (spans true inner) ++ [']'])) :=
        (Brings.join (brings_spans free)).around fun escaped =>
          bareBars_enclosed ['['] _ (by decide) (by decide) rfl _
      simpa [Span.plain] using
        label.append (.of_eq fun escaped => bareBars_linkDestination escaped url.toList)
  | .image url alt, _ => by
      rw [rawBars, span]
      have label : Brings exact 0 ('!' :: '[' :: (Escape.text true alt.toList ++ [']'])) :=
        .of_eq fun escaped =>
          (bareBars_enclosed ['!', '['] _ (by decide) (by decide) rfl _).trans
            (Escape.bareBars_text false alt.toList)
      simpa [Span.plain] using
        label.append (.of_eq fun escaped => bareBars_linkDestination escaped url.toList)
  | .text value, _ => .of_eq fun escaped => Escape.bareBars_text escaped value.toList
  | .inlineCode value, _ => .of_eq fun escaped => bareBars_codeSpan escaped value.toList
  | .html value, free => by
      refine ⟨fun escaped => bareBars_le escaped value.toList, fun isExact => ?_⟩
      cases free isExact
  | .lineBreak, _ => .of_eq fun escaped => bareBars_eq_zero (by decide) escaped
  | .heading .., _ | .paragraph _, _ | .list .., _ | .listItem _, _ | .code .., _
  | .blockquote _, _ | .thematicBreak, _ | .table .., _ | .tableRow _, _ | .tableCell _, _ =>
      .of_eq fun _ => rfl

theorem brings_spans {exact : Bool} : ∀ {nodes : List Node},
    (exact = true → areFreeOfHtml nodes = true) →
      ∀ node ∈ nodes, Brings exact node.rawBars (node.span true).text
  | [], _ => nofun
  | node :: rest, free => by
      simp only [areFreeOfHtml, Bool.and_eq_true] at free
      exact List.forall_mem_cons.mpr
        ⟨brings_span fun isExact => (free isExact).1, brings_spans fun isExact => (free isExact).2⟩

end

/-- The bars of written inline content are those that code, destinations and raw HTML bring into it. A bar
of raw HTML may be hidden by a backslash that is written before it. -/
theorem brings_inlineText
    {exact : Bool}
    {nodes : List Node}
    (free : exact = true → areFreeOfHtml nodes = true) :
    Brings exact (allRawBars nodes) (inlineText true nodes) := by
  have mergedFree (isExact : exact = true) : areFreeOfHtml (mergeRuns nodes) = true := by
    rw [mergeRuns, areFreeOfHtml_appendMerged, free isExact]
    rfl
  have joined := Brings.join (brings_spans mergedFree)
  rwa [mergeRuns, allRawBars_appendMerged, allRawBars, Nat.add_zero] at joined

end Node

end Markdown
end TwinEditor
