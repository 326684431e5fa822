import Mathlib.Data.List.TakeWhile
import TwinEditor.Proofs.Markdown.PlainNode

/-!
# Blocks of raw HTML

Raw HTML is written as it stands. It comes back where its first line begins such a block, and the block
ends with its last line or, for the kinds that do, before the empty line behind it.
-/

namespace TwinEditor
namespace Markdown

open Reader (Block Body HtmlKind)
open Reader.Body (Reads Completes ofHtmlLine)

/-! ## What reads back -/

/-- Whether a line behind the first one of a block of raw HTML belongs to it. -/
def Reader.HtmlKind.holds (kind : HtmlKind) (line : List Char) : Bool :=
  !(kind.endsBeforeBlank && line.all Text.isSpaceOrTab)

/-- Whether some lines that begin a block of raw HTML are the whole of it. -/
def Reader.HtmlKind.spans (kind : HtmlKind) (lines : List (List Char)) : Bool :=
  lines.all kind.holds && lines.dropLast.all (!kind.endsOn ·) &&
    (kind.endsBeforeBlank || lines.getLast?.any kind.endsOn)

/-- Whether raw HTML reads back as one block. -/
def isPlainHtml (value : List Char) : Bool :=
  let lines := Text.lines value
  value.all isKept && value.getLast? != some '\n' &&
    (lines.head?.bind (Reader.htmlKind? false)).any (·.spans lines)

/-! ## Reading -/

namespace Reader
namespace Body

variable {tables : Bool} {closed : List Block} {kind : HtmlKind} {line value : List Char}

theorem isBlank_of_shows
    {cursor : Cursor}
    (shows : cursor.Shows line) :
    cursor.isBlank = line.all Text.isSpaceOrTab := by
  obtain ⟨column, rfl⟩ := shows
  rw [Cursor.isBlank, Cursor.skipBlanks, rest_skipBlanksFrom, Bool.eq_iff_iff, List.isEmpty_iff,
    List.dropWhile_eq_nil_iff, List.all_eq_true]

theorem next_of_html
    (holds : kind.holds line = true)
    {cursor : Cursor}
    (shows : cursor.Shows line)
    (tables : Bool)
    (closed : List Block)
    (value : List Char) :
    (⟨closed, .leaf (.html kind value)⟩ : Body).next tables cursor =
      ofHtmlLine closed kind value line := by
  have stays : (cursor.isBlank && kind.endsBeforeBlank) = false := by
    rw [HtmlKind.holds, Bool.not_eq_true'] at holds
    rw [isBlank_of_shows shows, Bool.and_comm, holds]
  rw [next, OpenBlock.step, stepLeaf, stays]
  obtain ⟨column, rfl⟩ := shows
  rfl

/-- The lines of a block of raw HTML behind those that were read already. -/
theorem reads_html_lines
    {before : List (List Char)}
    (holds : ∀ line ∈ before, kind.holds line = true)
    (goesOn : ∀ line ∈ before, kind.endsOn line = false)
    (lastHolds : kind.holds line = true)
    (tables : Bool)
    (closed : List Block)
    (value : List Char) :
    Reads tables ⟨closed, .leaf (.html kind value)⟩ (before ++ [line])
      (ofHtmlLine closed kind (value ++ before.flatMap (· ++ ['\n'])) line) := by
  induction before generalizing value with
  | nil =>
      rw [List.flatMap_nil, List.append_nil]
      exact .cons _ (fun cursor shows => next_of_html lastHolds shows _ _ _) (fun _ => rfl) (.nil _)
  | cons next others inductionHypothesis =>
      obtain ⟨nextHolds, othersHold⟩ := List.forall_mem_cons.mp holds
      obtain ⟨nextGoesOn, othersGoOn⟩ := List.forall_mem_cons.mp goesOn
      have rest := inductionHypothesis othersHold othersGoOn (value ++ next ++ ['\n'])
      rw [List.flatMap_cons]
      simp only [List.append_assoc] at rest ⊢
      refine .cons _ (fun cursor shows => ?_) (fun _ => rfl) rest
      rw [next_of_html nextHolds shows, ofHtmlLine, nextGoesOn, List.append_assoc]
      rfl

theorem start?_html
    (isHtml : htmlKind? false line = some kind)
    {cursor : Cursor}
    (shows : cursor.Shows line) :
    start? false false cursor = some (.html kind line) := by
  obtain ⟨rest, rfl⟩ := exists_eq_cons_of_htmlKind? isHtml
  rw [start?_of_visible (by decide) (by decide) shows, heading?_eq_none (by decide),
    openingFence?_eq_none (by decide) (by decide), isHtml]

/-- The lines of a block of raw HTML where nothing is open. -/
theorem reads_html
    {before : List (List Char)}
    (isHtml : ∀ first ∈ (before ++ [line]).head?, htmlKind? false first = some kind)
    (holds : ∀ piece ∈ before ++ [line], kind.holds piece = true)
    (goesOn : ∀ piece ∈ before, kind.endsOn piece = false)
    (tables : Bool)
    (closed : List Block) :
    Reads tables ⟨closed, .none⟩ (before ++ [line])
      (ofHtmlLine closed kind (before.flatMap (· ++ ['\n'])) line) := by
  have filled {first : List Char} (isHtml : htmlKind? false first = some kind) : first ≠ [] := by
    obtain ⟨rest, rfl⟩ := exists_eq_cons_of_htmlKind? isHtml
    exact List.cons_ne_nil _ _
  cases before with
  | nil =>
      have isFirst := isHtml line rfl
      refine .cons _ (fun cursor shows => ?_) (absurd · (filled isFirst)) (.nil _)
      rw [next_of_start? (start?_html isFirst shows), begin, List.flatMap_nil]
  | cons next others =>
      have isFirst := isHtml next rfl
      obtain ⟨-, othersHold⟩ := List.forall_mem_cons.mp holds
      obtain ⟨nextGoesOn, othersGoOn⟩ := List.forall_mem_cons.mp goesOn
      obtain ⟨othersHold, lastHolds⟩ := List.forall_mem_append.mp othersHold
      refine .cons _ (fun cursor shows => ?_) (absurd · (filled isFirst))
        (reads_html_lines othersHold othersGoOn (lastHolds _ (.head _)) tables closed _)
      rw [next_of_start? (start?_html isFirst shows), begin, ofHtmlLine, nextGoesOn]
      rfl

/-- A block of raw HTML is complete behind its last line. -/
theorem completes_html
    (ends : kind.endsBeforeBlank = true ∨ kind.endsOn line = true)
    (tables : Bool)
    (closed : List Block)
    (value : List Char) :
    Completes tables (.html (value ++ line ++ ['\n']) :: closed) none
      (ofHtmlLine closed kind value line) := by
  rw [ofHtmlLine]
  by_cases ended : kind.endsOn line = true
  · rw [if_pos ended]
    exact completes_of_closed rfl tables closed
  · have isOpen := ends.resolve_right ended
    -- Without an end mark the block stays open until the empty line.
    rw [if_neg ended]
    refine ⟨rfl, rfl, ⟨.html (value ++ line ++ ['\n']) :: closed, .none⟩, fun cursor shows => ?_,
      trivial, rfl, rfl⟩
    rw [openLeaf, next, OpenBlock.step, stepLeaf, Cursor.isBlank_of_empty shows, isOpen,
      start?_of_rest_eq_nil (congrArg Cursor.rest shows.choose_spec)]
    dsimp only
    rw [ofText, Cursor.isBlank_of_empty shows]
    rfl

end Body
end Reader

/-! ## Raw HTML is recovered -/

variable {options : Options} {value : String}

theorem showsAs_html
    (ends : value.toList.getLast? ≠ some '\n') :
    (Block.html (value.toList ++ ['\n'])).ShowsAs options (.html value) := by
  intro context mayBeTask expanded same
  have whole : Text.trimEnd (· == '\n') (value.toList ++ ['\n']) = value.toList := by
    rw [Text.trimEnd_concat_of_pos rfl]
    refine Text.trimEnd_eq_self fun c isLast => beq_eq_false_iff_ne.mpr ?_
    rintro rfl
    exact ends isLast
  rw [Block.toNodes, whole, String.ofList_toList]

/-- A block of raw HTML is recovered from its lines. -/
theorem recovers_html
    (plain : isPlainHtml value.toList = true) :
    Recovers options (.html value) (.html value) none (Text.lines value.toList) := by
  simp only [isPlainHtml, Bool.and_eq_true, List.all_eq_true, bne_iff_ne, Option.any_eq_true,
    Option.bind_eq_some_iff] at plain
  obtain ⟨⟨kept, ends⟩, kind, ⟨first, isFirst, isHtml⟩, spans⟩ := plain
  have shown := @showsAs_html options value ends
  have linesKept : ∀ line ∈ Text.lines value.toList, ∀ c ∈ line, isKept c = true :=
    fun line isLine c member => kept c ((Text.isInfix_of_mem_lines isLine).subset member)
  rw [← Text.flatMap_lines] at shown
  obtain ⟨before, last, cut⟩ : ∃ before last, Text.lines value.toList = before ++ [last] :=
    ⟨_, _, (List.dropLast_concat_getLast (Text.lines_ne_nil value.toList)).symm⟩
  rw [cut] at isFirst spans shown linesKept ⊢
  simp only [HtmlKind.spans, Bool.and_eq_true, List.all_eq_true, Bool.not_eq_true', Bool.or_eq_true,
    List.dropLast_concat, List.getLast?_concat, Option.any_some] at spans
  obtain ⟨⟨holds, goesOn⟩, closes⟩ := spans
  have allHtml : ∀ line ∈ (before ++ [last]).head?, Reader.htmlKind? false line = some kind := by
    rintro line isLine
    obtain rfl := Option.some.inj (isFirst.symm.trans isLine)
    exact isHtml
  obtain ⟨others, whole⟩ := List.head?_eq_some_iff.mp isFirst
  obtain ⟨rest, rfl⟩ := Reader.exists_eq_cons_of_htmlKind? isHtml
  have opens : Opens none false 0 ('<' :: rest) := by
    refine .of_content? ⟨'<', rest, rfl, by decide⟩ (fun _ => ⟨'<', .head _, by decide⟩)
      fun cursor shows start begins => ?_
    rw [Body.start?_html isHtml shows] at begins
    cases begins
    rfl
  rw [List.flatMap_append, List.flatMap_singleton, ← List.append_assoc] at shown
  exact ⟨⟨_, others, whole, opens⟩, ⟨_, shown, fun closed =>
    ⟨_, Body.reads_html allHtml holds goesOn _ closed, Body.completes_html closes _ closed _,
      (absurd · Bool.false_ne_true)⟩⟩, linesKept⟩

end Markdown
end TwinEditor
