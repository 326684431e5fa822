import TwinEditor.Proofs.Markdown.Marks

/-!
# The nodes of what is read

The pieces of a text are put together, and addresses in them become links; marks stand between texts as
they are. A text that was written line by line is one node again.
-/

namespace TwinEditor
namespace Markdown
namespace Reader

/-! ## Text -/

namespace Inline

theorem consJoined_text
    {others : List Inline}
    (separate : ∀ value rest, others ≠ .text value :: rest)
    (text : List Char) :
    consJoined (.text text) others = if text = [] then others else .text text :: others := by
  by_cases empty : text = []
  · subst empty
    rw [if_pos rfl, consJoined]
    exact fun next rest same => separate next rest same
  · rw [if_neg empty, consJoined]
    · exact fun same => empty (Inline.text.inj same)
    · exact fun _ next rest _ same => separate next rest same

theorem consNode_text_nil (nodes : List Node) : consNode (.text (String.ofList [])) nodes = nodes := by
  cases nodes with
  | nil => rfl
  | cons node rest =>
      cases node with
      | text value => simp [consNode]
      | _ => rfl

theorem consNode_text
    {nodes : List Node}
    (separate : ∀ value rest, nodes ≠ .text value :: rest)
    (text : String) :
    consNode (.text text) nodes = if text.isEmpty then nodes else .text text :: nodes := by
  rw [consNode]
  exact fun next rest same => separate next rest same

theorem consNode_text_append
    (first second : List Char)
    (nodes : List Node) :
    consNode (.text (String.ofList first)) (consNode (.text (String.ofList second)) nodes) =
      consNode (.text (String.ofList (first ++ second))) nodes := by
  by_cases behind : ∃ value rest, nodes = .text value :: rest
  · obtain ⟨value, rest, rfl⟩ := behind
    rw [consNode, consNode, consNode, String.ofList_append, String.append_assoc]
  · have other : ∀ value rest, nodes ≠ .text value :: rest := fun value rest same =>
      behind ⟨value, rest, same⟩
    by_cases empty : second = []
    · subst empty
      rw [consNode_text_nil, List.append_nil]
    · have filled : (String.ofList second).isEmpty = false := by simpa using empty
      have both : (String.ofList (first ++ second)).isEmpty = false := by simp [empty]
      rw [consNode_text other, consNode_text other, filled, both, if_neg Bool.false_ne_true,
        if_neg Bool.false_ne_true, consNode, String.ofList_append]

theorem consJoined_text_nil (nodes : List Inline) : consJoined (.text []) nodes = nodes := by
  cases nodes with
  | nil => rfl
  | cons node rest => cases node <;> rfl

theorem consJoined_text_append
    (first second : List Char)
    (nodes : List Inline) :
    consJoined (.text first) (consJoined (.text second) nodes) =
      consJoined (.text (first ++ second)) nodes := by
  by_cases behind : ∃ value rest, nodes = .text value :: rest
  · obtain ⟨value, rest, rfl⟩ := behind
    rw [consJoined, consJoined, consJoined, List.append_assoc]
  · have other : ∀ value rest, nodes ≠ .text value :: rest := fun value rest same =>
      behind ⟨value, rest, same⟩
    by_cases empty : second = []
    · subst empty
      rw [consJoined_text_nil, List.append_nil]
    · rw [consJoined_text other, consJoined_text other, if_neg empty, if_neg (by simp [empty]),
        consJoined]

theorem joinTexts_texts_append
    (texts : List (List Char))
    (others : List Inline) :
    joinTexts (texts.map .text ++ others) = consJoined (.text texts.flatten) (joinTexts others) := by
  induction texts with
  | nil => exact (consJoined_text_nil _).symm
  | cons text texts inductionHypothesis =>
      rw [List.flatten_cons, ← consJoined_text_append, ← inductionHypothesis]
      rfl

theorem toNodes_texts_append
    (texts : List (List Char))
    (others : List Inline) :
    toNodes (texts.map .text ++ others) =
      consNode (.text (String.ofList texts.flatten)) (toNodes others) := by
  induction texts with
  | nil => exact (consNode_text_nil _).symm
  | cons text texts inductionHypothesis =>
      rw [List.flatten_cons, ← consNode_text_append, ← inductionHypothesis, List.map_cons,
        List.cons_append, toNodes, toNode]

theorem settleAll_append
    (autolink : Bool)
    (first second : List Inline) :
    settleAll autolink (first ++ second) = settleAll autolink first ++ settleAll autolink second := by
  induction first with
  | nil => rfl
  | cons node rest inductionHypothesis =>
      rw [List.cons_append, settleAll, settleAll, inductionHypothesis, List.cons_append]

/-- Without an address in it a text stays one. -/
theorem expandTexts_text_cons
    {autolink : Bool}
    {line : List Char}
    (noAddress : autolink = true → Autolink.find? [] 0 line = none)
    (nodes : List Inline) :
    expandTexts autolink (.text line :: nodes) = .text line :: expandTexts autolink nodes := by
  cases autolink with
  | false => rfl
  | true =>
      have kept : Autolink.expand line = [.text line] := by
        cases line with
        | nil => rfl
        | cons c rest => rw [Autolink.expand, List.length_cons, Autolink.expandWithin, noAddress rfl]
      rw [expandTexts, List.flatMap_cons]
      dsimp only
      rw [if_pos rfl, kept]
      rfl

theorem toNodes_expandTexts_consJoined
    {autolink : Bool}
    {line : List Char}
    (noAddress : autolink = true → Autolink.find? [] 0 line = none)
    {nodes : List Inline}
    (separate : ∀ value rest, nodes ≠ .text value :: rest) :
    toNodes (expandTexts autolink (consJoined (.text line) nodes)) =
      consNode (.text (String.ofList line)) (toNodes (expandTexts autolink nodes)) := by
  rw [consJoined_text separate]
  split
  · next empty => rw [empty, consNode_text_nil]
  · rw [expandTexts_text_cons noAddress, toNodes, toNode]

end Inline

/-- The nodes that are read for lines of text. A line may come in several pieces. -/
inductive IsText : List Inline → List (List Char) → Prop
  | line (texts : List (List Char)) : IsText (texts.map .text) [texts.flatten]
  | cons
      (texts : List (List Char))
      {nodes : List Inline}
      {lines : List (List Char)}
      (rest : IsText nodes lines) :
      IsText (texts.map .text ++ .softBreak :: nodes) (texts.flatten :: lines)

namespace IsText

open Inline

variable {nodes others : List Inline} {lines : List (List Char)} {autolink : Bool}

theorem ne_nil (isText : IsText nodes lines) : lines ≠ [] := by
  cases isText <;> exact List.cons_ne_nil _ _

theorem settleAll_eq
    (isText : IsText nodes lines)
    (autolink : Bool) :
    settleAll autolink nodes = nodes := by
  have pieces (texts : List (List Char)) : settleAll autolink (texts.map .text) = texts.map .text := by
    induction texts with
    | nil => rfl
    | cons text texts inductionHypothesis =>
        exact congrArg (List.cons (Inline.text text)) inductionHypothesis
  induction isText with
  | line texts => exact pieces texts
  | cons texts rest inductionHypothesis =>
      rw [settleAll_append, pieces]
      exact congrArg (fun nodes => texts.map Inline.text ++ .softBreak :: nodes) inductionHypothesis

theorem toNodes_append
    (isText : IsText nodes lines)
    (others : List Inline) :
    toNodes (nodes ++ others) =
      consNode (.text (String.ofList (Text.unlines lines))) (toNodes others) := by
  induction isText with
  | line texts => rw [toNodes_texts_append, Text.unlines_singleton]
  | cons texts rest inductionHypothesis =>
      rw [List.append_assoc, toNodes_texts_append, List.cons_append, toNodes, toNode,
        inductionHypothesis, Text.unlines_cons _ rest.ne_nil]
      have newline : (Node.text "\n") = .text (String.ofList ['\n']) := rfl
      rw [newline, consNode_text_append, consNode_text_append, List.append_assoc, List.singleton_append]

/-- Lines of text without addresses become one node of text. -/
theorem toNodes_expandTexts_append
    (isText : IsText nodes lines)
    (noAddress : autolink = true → ∀ line ∈ lines, Autolink.find? [] 0 line = none)
    (separate : ∀ value rest, joinTexts others ≠ .text value :: rest) :
    toNodes (expandTexts autolink (joinTexts (nodes ++ others))) =
      consNode (.text (String.ofList (Text.unlines lines)))
        (toNodes (expandTexts autolink (joinTexts others))) := by
  induction isText with
  | line texts =>
      rw [joinTexts_texts_append, Text.unlines_singleton,
        toNodes_expandTexts_consJoined (fun on => noAddress on _ (.head _)) separate]
  | @cons texts nodes lines rest inductionHypothesis =>
      have behind := inductionHypothesis fun on line member => noAddress on line (.tail _ member)
      have broken : joinTexts (.softBreak :: nodes ++ others) = .softBreak :: joinTexts (nodes ++ others) :=
        rfl
      have expanded (nodes : List Inline) :
          expandTexts autolink (.softBreak :: nodes) = .softBreak :: expandTexts autolink nodes := rfl
      have newline : (Node.text "\n") = .text (String.ofList ['\n']) := rfl
      rw [List.append_assoc, joinTexts_texts_append, broken,
        toNodes_expandTexts_consJoined (fun on => noAddress on _ (.head _)) (by simp), expanded, toNodes,
        behind, toNode, Text.unlines_cons _ rest.ne_nil, newline, consNode_text_append,
        consNode_text_append, List.append_assoc, List.singleton_append]

/-- The text that lines of text begin with is the first of them. -/
theorem head?_eq_of_joinTexts
    (isText : IsText nodes lines)
    (separate : ∀ value rest, joinTexts others ≠ .text value :: rest)
    {value : List Char}
    {rest : List Inline}
    (begins : joinTexts (nodes ++ others) = .text value :: rest) :
    lines.head? = some value := by
  have first {line : List Char} {behind : List Inline}
      (separate : ∀ value rest, behind ≠ .text value :: rest)
      (begins : consJoined (.text line) behind = .text value :: rest) : line = value := by
    rw [consJoined_text separate] at begins
    split at begins
    · exact absurd begins (separate value rest)
    · exact Inline.text.inj (List.cons.inj begins).1
  cases isText with
  | line texts =>
      rw [joinTexts_texts_append] at begins
      exact congrArg some (first separate begins)
  | cons texts behind =>
      rw [List.append_assoc, joinTexts_texts_append] at begins
      exact congrArg some (first (fun _ _ same => by cases same) begins)

end IsText

/-! ## Marks -/

/-- Whether a node is neither text nor a soft break. -/
def Inline.isMark : Inline → Bool
  | .text _ | .softBreak => false
  | _ => true

/-- The nodes of inline content as they show: addresses are links, except inside a link. -/
def Inline.settled
    (inLink autolink : Bool)
    (nodes : List Inline) :
    List Inline :=
  if inLink then nodes else expandTexts autolink (joinTexts (settleAll autolink nodes))

/-- Lines of text by themselves show as one node with that text, unless an address is in it. -/
theorem IsText.toNodes_settled
    {nodes : List Inline}
    {lines : List (List Char)}
    {autolink : Bool}
    (isText : IsText nodes lines)
    (filled : Text.unlines lines ≠ [])
    (noAddress : autolink = true → ∀ line ∈ lines, Autolink.find? [] 0 line = none) :
    Inline.toNodes (Inline.settled false autolink nodes) =
      [.text (String.ofList (Text.unlines lines))] := by
  have noText : ∀ value rest, Inline.joinTexts [] ≠ .text value :: rest := fun _ _ => nofun
  have shown := isText.toNodes_expandTexts_append noAddress noText
  have single := @Inline.consNode_text [] nofun (String.ofList (Text.unlines lines))
  rw [List.append_nil] at shown
  rw [if_neg (by simpa using filled)] at single
  rw [Inline.settled, if_neg Bool.false_ne_true, isText.settleAll_eq, shown]
  exact single

namespace Inline

variable {inline : Inline} (isMark : inline.isMark = true)
include isMark

theorem isMark_settle (autolink : Bool) : (inline.settle autolink).isMark = true := by
  cases inline <;> first | rfl | cases isMark

theorem consJoined_of_isMark (others : List Inline) : consJoined inline others = inline :: others := by
  cases inline <;> first | rfl | cases isMark

theorem expandTexts_of_isMark
    (autolink : Bool)
    (others : List Inline) :
    expandTexts autolink (inline :: others) = inline :: expandTexts autolink others := by
  cases inline <;> first | rfl | cases isMark

theorem consNode_of_isMark (nodes : List Node) : consNode inline.toNode nodes = inline.toNode :: nodes := by
  cases inline <;> first | (rw [toNode]; rfl) | cases isMark

theorem joinTexts_settleAll_cons
    (autolink : Bool)
    (others : List Inline) :
    joinTexts (settleAll autolink (inline :: others)) =
      inline.settle autolink :: joinTexts (settleAll autolink others) :=
  consJoined_of_isMark (isMark_settle isMark autolink) _

/-- A mark stands before what shows behind it. -/
theorem settled_cons_of_isMark
    (autolink : Bool)
    (others : List Inline) :
    settled false autolink (inline :: others) =
      inline.settle autolink :: settled false autolink others := by
  rw [settled, settled, if_neg Bool.false_ne_true, if_neg Bool.false_ne_true,
    joinTexts_settleAll_cons isMark, expandTexts_of_isMark (isMark_settle isMark autolink)]

end Inline

/-- Nodes that are read show as nodes of a tree. What text they begin with is the first line of the text
that those begin with. -/
structure Shows
    (inLink autolink : Bool)
    (inlines : List Inline)
    (nodes : List Node) : Prop where
  toNodes_eq : Inline.toNodes (Inline.settled inLink autolink inlines) = nodes
  first : ∀ value rest, Inline.joinTexts (Inline.settleAll autolink inlines) = .text value :: rest →
    ∃ text others, nodes = .text text :: others ∧ (Text.lines text.toList).head? = some value

section Shows

open Inline

variable {inLink autolink : Bool} {inlines : List Inline} {nodes : List Node}

theorem shows_nil (inLink autolink : Bool) : Shows inLink autolink [] [] := by
  refine ⟨?_, nofun⟩
  cases inLink <;> rfl

theorem Shows.mark
    (shows : Shows inLink autolink inlines nodes)
    {inline : Inline}
    (isMark : inline.isMark = true)
    {node : Node}
    (shown : (if inLink then inline else inline.settle autolink).toNode = node) :
    Shows inLink autolink (inline :: inlines) (node :: nodes) := by
  constructor
  · have rest := shows.toNodes_eq
    cases inLink with
    | true =>
        rw [settled, if_pos rfl] at rest ⊢
        rw [toNodes, rest, consNode_of_isMark isMark]
        exact congrArg (· :: nodes) shown
    | false =>
        rw [if_neg Bool.false_ne_true] at shown
        rw [settled_cons_of_isMark isMark, toNodes, rest, shown.symm,
          consNode_of_isMark (isMark_settle isMark autolink)]
  · intro value rest begins
    rw [joinTexts_settleAll_cons isMark] at begins
    have stays := isMark_settle isMark autolink
    rw [(List.cons.inj begins).1] at stays
    cases stays

theorem Shows.text
    (shows : Shows inLink autolink inlines nodes)
    {texts : List Inline}
    {value : String}
    (isText : IsText texts (Text.lines value.toList))
    (filled : value ≠ "")
    (noAddress : inLink = false → autolink = true →
      ∀ line ∈ Text.lines value.toList, Autolink.find? [] 0 line = none)
    (separate : ∀ text others, nodes ≠ .text text :: others) :
    Shows inLink autolink (texts ++ inlines) (.text value :: nodes) := by
  have apart : ∀ text rest, joinTexts (settleAll autolink inlines) ≠ .text text :: rest := by
    intro text rest begins
    obtain ⟨other, others, same, -⟩ := shows.first text rest begins
    exact separate other others same
  have settledTexts : settleAll autolink (texts ++ inlines) = texts ++ settleAll autolink inlines := by
    rw [settleAll_append, isText.settleAll_eq]
  have single : consNode (.text value) nodes = .text value :: nodes := by
    rw [consNode_text separate, if_neg (by simpa using filled)]
  constructor
  · have rest := shows.toNodes_eq
    cases inLink with
    | true =>
        rw [settled, if_pos rfl] at rest ⊢
        rw [isText.toNodes_append, rest, Text.unlines_lines, String.ofList_toList, single]
    | false =>
        rw [settled, if_neg Bool.false_ne_true] at rest ⊢
        rw [settledTexts, isText.toNodes_expandTexts_append (noAddress rfl) apart, rest,
          Text.unlines_lines, String.ofList_toList, single]
  · intro text rest begins
    rw [settledTexts] at begins
    exact ⟨value, nodes, rfl, isText.head?_eq_of_joinTexts apart begins⟩

end Shows

/-! ## Reading text -/

/-- What the lines of a text around a line feed in it begin and end with. -/
theorem visible_of_newline
    {first second : List Char}
    (trimmed : ∀ line ∈ Text.lines (first ++ '\n' :: second), IsTrimmed line) :
    (∀ c ∈ first.getLast?, Text.isBlank c = false) ∧ ∀ c ∈ second.head?, Text.isBlank c = false := by
  rw [Text.lines_append_newline] at trimmed
  obtain ⟨before, behind⟩ := List.forall_mem_append.mp trimmed
  constructor
  · intro c isLast
    obtain ⟨line, isLine, isLast⟩ :=
      Text.exists_getLast?_of_lines (fun line isLine => (before line isLine).some) isLast
    exact (before line isLine).last c isLast
  · intro c isFirst
    obtain ⟨line, isLine, isFirst⟩ :=
      Text.exists_head?_of_lines (fun line isLine => (behind line isLine).some) isFirst
    exact (behind line isLine).first c isFirst

theorem separates_of_isSpecial
    {setting : Setting}
    {tail : List Char}
    (special : ∀ c ∈ tail.head?, setting.isSpecial c = true) :
    Separates tail := by
  cases tail with
  | nil => exact ⟨nofun, rfl, rfl⟩
  | cons c rest =>
      have isSpecial := special c rfl
      simp only [Setting.isSpecial, Bool.or_eq_true, Bool.and_eq_true, beq_iff_eq] at isSpecial
      have other : c.isAlphanum = false ∧ c ≠ ';' ∧ c.isAlpha = false ∧ c ≠ '#' := by
        rcases isSpecial with
          (((((((((rfl | rfl) | rfl) | rfl) | rfl) | rfl) | rfl) | rfl) | rfl) | rfl) | ⟨-, rfl⟩
        all_goals decide
      refine ⟨fun d isFirst => ?_, ?_, ?_⟩
      · obtain rfl := Option.some.inj isFirst
        exact ⟨other.1, other.2.1⟩
      · rw [Escape.isReferenceTail, other.2.2.1, Bool.false_and]
        · rintro _ rfl
          exact absurd rfl other.2.2.2
        · rintro _ rfl
          exact absurd rfl other.2.2.2
        · exact other.2.2.2
      · rw [longReference?]
        all_goals
          intro _ same
          exact other.2.2.2 (List.cons.inj same).1

section Lines

variable {setting : Setting} {links : Bool} {write : List Char → List Char}
  {lines : List (List Char)} {before tail : List Char}

/-- Written lines of a text are read as lines of text with their long references replaced, if no line of
the whole has white space at its ends. -/
theorem exists_readsAs_lines
    (spells : ∀ line ∈ lines, Spells (write line) line)
    (some : lines ≠ [])
    (special : ∀ c ∈ tail.head?, setting.isSpecial c = true)
    (noImage : tail.head? = .some '[' → (Text.unlines lines).getLast? ≠ .some '!')
    (trimmed : ∀ line ∈ Text.lines (before.reverse ++ (Text.unlines (lines.map write) ++ tail)),
      IsTrimmed line) :
    ∃ texts, IsText texts (lines.map readLongReferences) ∧
      ReadsAs setting links before (Text.unlines (lines.map write)) tail texts := by
  induction lines generalizing before with
  | nil => exact absurd rfl some
  | cons line rest inductionHypothesis =>
      obtain ⟨isSpelled, areSpelled⟩ := List.forall_mem_cons.mp spells
      have visible {tail : List Char} {second : List Char} (isBreak : tail = '\n' :: second)
          (trimmed : ∀ row ∈ Text.lines (before.reverse ++ (write line ++ tail)), IsTrimmed row) :
          ∀ c ∈ line.getLast?, Text.isAsciiSpace c = false := by
        intro c isLast
        subst isBreak
        rw [← List.append_assoc] at trimmed
        refine Text.isAsciiSpace_eq_false ((visible_of_newline trimmed).1 c ?_)
        rw [List.getLast?_append, isSpelled.getLast?_eq, isLast]
        rfl
      -- A mark may stand behind the last line; behind the others there is a line feed.
      by_cases last : rest = []
      · subst last
        simp only [List.map_singleton, Text.unlines_singleton] at *
        have ends : EndsText setting line tail := by
          refine ⟨special, separates_of_isSpecial special, noImage, fun newline => ?_⟩
          obtain ⟨second, isBreak⟩ := List.head?_eq_some_iff.mp newline
          exact visible isBreak trimmed
        obtain ⟨texts, flat, reads⟩ := exists_readsAs_of_spells isSpelled ends
        exact ⟨_, flat ▸ IsText.line texts, reads⟩
      · have more : rest.map write ≠ [] := by simpa using last
        rw [List.map_cons, Text.unlines_cons _ more] at trimmed
        rw [List.map_cons, List.map_cons, Text.unlines_cons _ more]
        have noImageBehind : tail.head? = .some '[' → (Text.unlines rest).getLast? ≠ .some '!' := by
          intro isBracket isLast
          apply noImage isBracket
          rw [Text.unlines_cons _ last, List.getLast?_append, List.getLast?_cons, isLast]
          rfl
        rw [List.append_assoc, List.cons_append] at trimmed
        have lineVisible := visible rfl trimmed
        have ends : EndsText setting line ('\n' :: (Text.unlines (rest.map write) ++ tail)) :=
          ⟨fun c isFirst => by obtain rfl := Option.some.inj isFirst; rfl,
            EndsLine.separates fun c isFirst => (Option.some.inj isFirst).symm, nofun,
            fun _ => lineVisible⟩
        obtain ⟨texts, flat, reads⟩ :=
          @exists_readsAs_of_spells setting links before _ _ _ isSpelled ends
        rw [← List.append_assoc] at trimmed
        obtain ⟨behindVisible, nextVisible⟩ := visible_of_newline trimmed
        have noSpace : ((write line).reverse ++ before).head? ≠ .some ' ' := by
          intro isSpace
          have isLast : (before.reverse ++ write line).getLast? = .some ' ' := by
            rw [← isSpace, List.getLast?_eq_head?_reverse, List.reverse_append, List.reverse_reverse]
          cases behindVisible ' ' isLast
        have breaks := @readsAs_softBreak setting links _ (Text.unlines (rest.map write) ++ tail) noSpace
          fun c isFirst => Text.isSpaceOrTab_eq_false (nextVisible c isFirst)
        obtain ⟨nodes, isText, readsRest⟩ := @inductionHypothesis
          ('\n' :: ((write line).reverse ++ before)) areSpelled last noImageBehind
          (by simpa using trimmed)
        exact ⟨_, flat ▸ .cons texts isText, reads.append (breaks.append readsRest)⟩

end Lines

/-! ## Inline texts -/

section Content

variable {context : Block.Context} {written : List Char} {inlines : List Inline} {mayBeTask : Bool}
  {text : List Char}

/-- What inline content is read as in a document, where no task marker is dropped from its start. -/
theorem inlineNodes_of_reads
    (reads : ReadsAs context.setting true [] written [] inlines)
    (noTask : (mayBeTask && context.options.tasklist) = true → ∀ value rest,
      Inline.joinTexts (Inline.settleAll context.options.autolink inlines) = .text value :: rest →
        Inline.dropTaskMarker value = value)
    (isWritten : Text.trimEnd Text.isAsciiSpace text = written)
    (expanded : Nat) :
    Block.inlineNodes context mayBeTask expanded text =
      (Inline.toNodes (Inline.settled false context.options.autolink inlines), expanded) := by
  obtain ⟨pieces, next, resolves, advances, -, reading⟩ :=
    reads (.start expanded) ⟨rfl, fun _ => rfl⟩ nofun
  rw [List.append_nil, readFrom] at reading
  have noOpeners : next.openers = [] := List.map_eq_nil_iff.mp advances.openers
  have finished : next.finish = inlines := by
    rw [Progress.finish, noOpeners, Progress.allPieces, advances.pieces,
      Progress.start, List.append_nil, List.reverse_reverse]
    exact resolves.pair_eq
  have kept : (if mayBeTask && context.options.tasklist then
      Inline.dropTask (Inline.joinTexts (Inline.settleAll context.options.autolink inlines))
      else Inline.joinTexts (Inline.settleAll context.options.autolink inlines)) =
        Inline.joinTexts (Inline.settleAll context.options.autolink inlines) := by
    refine ite_eq_right_iff.mpr fun on => ?_
    have noMarker := noTask on
    generalize Inline.joinTexts (Inline.settleAll context.options.autolink inlines) = joined at noMarker ⊢
    cases joined with
    | nil => rfl
    | cons inline rest =>
        cases inline with
        | text value => rw [Inline.dropTask, noMarker value rest rfl]
        | _ => rfl
  rw [Block.inlineNodes, readInlines, isWritten, reading]
  dsimp only
  rw [finished, kept, advances.expanded]
  rfl

/-- What inline content is read as in a document, where it begins with no task marker. -/
theorem inlineNodes_of_shows
    {children : List Node}
    (reads : ReadsAs context.setting true [] written [] inlines)
    (shows : Shows false context.options.autolink inlines children)
    (noTask : (mayBeTask && context.options.tasklist) = true → ∀ value rest,
      children = .text value :: rest →
        ∀ line ∈ (Text.lines value.toList).head?, Inline.dropTaskMarker line = line)
    (isWritten : Text.trimEnd Text.isAsciiSpace text = written)
    (expanded : Nat) :
    Block.inlineNodes context mayBeTask expanded text = (children, expanded) := by
  rw [inlineNodes_of_reads reads (fun on value rest begins => ?_) isWritten expanded, shows.toNodes_eq]
  obtain ⟨text, others, same, isFirst⟩ := shows.first value rest begins
  exact noTask on text others same value isFirst

end Content

theorem inlineNodes_nil
    (context : Block.Context)
    (expanded : Nat) :
    Block.inlineNodes context false expanded [] = ([], expanded) :=
  inlineNodes_of_shows readsAs_nil (shows_nil false _) (by simp) rfl expanded

/-- A text whose lines spell those of another is read as one node with that text and its long references
replaced, unless what is read holds an address or begins with a task marker. -/
theorem inlineNodes_of_spells
    {context : Block.Context}
    {write : List Char → List Char}
    {value : String}
    (spells : ∀ line ∈ Text.lines value.toList, Spells (write line) line)
    (trimmed : ∀ line ∈ Text.lines value.toList, IsTrimmed line)
    (noAddress : context.options.autolink = true →
      ∀ line ∈ Text.lines value.toList, Autolink.find? [] 0 (readLongReferences line) = none)
    {mayBeTask : Bool}
    (noTask : (mayBeTask && context.options.tasklist) = true →
      ∀ line ∈ (Text.lines value.toList).head?,
        Inline.dropTaskMarker (readLongReferences line) = readLongReferences line)
    {text : List Char}
    (isWritten : Text.trimEnd Text.isAsciiSpace text =
      Text.unlines ((Text.lines value.toList).map write))
    (expanded : Nat) :
    Block.inlineNodes context mayBeTask expanded text =
      ([.text (String.ofList (readLongReferences value.toList))], expanded) := by
  have rows : Text.lines (Text.unlines ((Text.lines value.toList).map write)) =
      (Text.lines value.toList).map write := by
    refine Text.lines_unlines (by simpa using Text.lines_ne_nil value.toList) ?_
    rw [List.forall_mem_map]
    exact fun line isLine => (spells line isLine).newline_notMem
  have rowsTrimmed : ∀ row ∈ Text.lines (([] : List Char).reverse ++
      (Text.unlines ((Text.lines value.toList).map write) ++ [])), IsTrimmed row := by
    rw [List.reverse_nil, List.nil_append, List.append_nil, rows, List.forall_mem_map]
    exact fun line isLine => (spells line isLine).isTrimmed (trimmed line isLine)
  obtain ⟨texts, isText, reads⟩ := @exists_readsAs_lines context.setting true write _ [] [] spells
    (Text.lines_ne_nil _) nofun nofun rowsTrimmed
  have whole := readLongReferences_unlines (Text.lines_ne_nil value.toList)
  rw [Text.unlines_lines] at whole
  have filled : readLongReferences value.toList ≠ [] := fun empty => by
    rw [readLongReferences_eq_nil_iff] at empty
    rw [empty] at trimmed
    exact (trimmed [] (.head _)).some rfl
  rw [inlineNodes_of_reads reads (fun on first rest begins => ?_) isWritten expanded]
  · rw [isText.toNodes_settled (whole ▸ filled) fun on => List.forall_mem_map.mpr (noAddress on), whole]
  · rw [isText.settleAll_eq, ← List.append_nil texts] at begins
    have noText : ∀ value rest, Inline.joinTexts [] ≠ .text value :: rest := fun _ _ => nofun
    have isFirst := isText.head?_eq_of_joinTexts noText begins
    rw [List.head?_map] at isFirst
    obtain ⟨line, isLine, rfl⟩ := Option.map_eq_some_iff.mp isFirst
    exact noTask on line isLine

end Reader
end Markdown
end TwinEditor
