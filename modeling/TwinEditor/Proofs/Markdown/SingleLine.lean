import TwinEditor.Proofs.Markdown.MarkedTree
import TwinEditor.Proofs.Markdown.SoundInline

/-!
# Paragraphs of one line

A document of one paragraph on one line is read as a paragraph again, whatever the inline content of the
line is. What is read first of a line stays first: later steps add pieces behind it, and neither
pairing nor the search for addresses puts anything in front.
-/

namespace TwinEditor
namespace Markdown

open Reader (Setting Progress Piece Inline Opener)

/-! ## The line of a paragraph -/

/-- A line that is a paragraph of its own and is written as it is. -/
structure IsLoneLine (line : List Char) : Prop where
  isQuiet : Reader.IsQuiet line
  isTrimmed : Reader.IsTrimmed line
  started : Escape.lineStart line = line
  noDefinition : Reader.definition? (line ++ ['\n']) = none
  single : '\n' ∉ line
  kept : ∀ c ∈ line, isKept c = true
  noMark : ∀ c ∈ line.head?, c.toNat ≠ 0xFEFF

/-- A line that begins with a bracket or with backticks, as long as these are no fence. -/
theorem isLoneLine_cons
    {c d : Char}
    {rest : List Char}
    (isMarkup : c = '[' ∨ c = '\x60')
    (noFence : Reader.openingFence? (c :: rest) = none)
    (noDefinition : Reader.definition? (c :: rest ++ ['\n']) = none)
    (isLast : (c :: rest).getLast? = some d)
    (visible : Text.isBlank d = false)
    (single : '\n' ∉ rest)
    (kept : ∀ c ∈ rest, isKept c = true) :
    IsLoneLine (c :: rest) := by
  have quiet : isQuietLine (c :: rest) = true := by
    rw [isQuietLine, noFence]
    rcases isMarkup with rfl | rfl
    all_goals
      rw [Reader.heading?_eq_none (by decide), Reader.htmlKind?_eq_none (by decide),
        Reader.isRule_eq_false (by decide) (by decide) (by decide),
        Reader.underlineDepth?_eq_none (by decide) (by decide)]
      rfl
  have trimmed : Reader.IsTrimmed (c :: rest) := by
    refine ⟨List.cons_ne_nil c rest, fun e isFirst => ?_, fun e last => ?_⟩
    · obtain rfl := Option.some.inj isFirst
      rcases isMarkup with rfl | rfl <;> rfl
    · obtain rfl := Option.some.inj (isLast.symm.trans last)
      exact visible
  refine ⟨isQuiet_of_isQuietLine quiet, trimmed, ?_, noDefinition, ?_, ?_, fun e isFirst => ?_⟩
  · rcases isMarkup with rfl | rfl <;> rfl
  · rcases isMarkup with rfl | rfl <;> simp [single]
  · refine List.forall_mem_cons.mpr ⟨?_, kept⟩
    rcases isMarkup with rfl | rfl <;> rfl
  · obtain rfl := Option.some.inj isFirst
    rcases isMarkup with rfl | rfl <;> decide

/-- A paragraph on such a line is read as a paragraph with what is read of the line. -/
theorem exists_ofMarkdown_toMarkdown_eq
    (options : Options)
    {children : List Node}
    {line : List Char}
    (written : Node.inlineText false children = line)
    (isLine : IsLoneLine line) :
    ∃ context : Reader.Block.Context, context.IsFor options ∧ context.setting.definitions = [] ∧
      Tree.ofMarkdown options (Tree.mk [.paragraph children]).toMarkdown =
        ⟨[.paragraph (Reader.Block.inlineNodes context false 0 line).1]⟩ := by
  have cut := Text.lines_of_notMem isLine.single
  have paragraph : paragraphText children = line := by
    rw [paragraphText_eq (by rw [written, cut]; exact List.forall_mem_singleton.mpr isLine.isTrimmed),
      written, Escape.lineStarts, cut, List.map_singleton, isLine.started, Text.unlines_singleton]
  have source : (Tree.mk [.paragraph children]).toMarkdown.toList = line ++ ['\n'] := by
    have body : blocksText false [.paragraph children] = line := by
      simp [blocksText, Node.siblingTexts, Node.blockText, SiblingState.start, paragraph]
    rw [Tree.toMarkdown, body, if_neg (by simpa using isLine.isTrimmed.some), String.toList_ofList]
  have blocks : Reader.readBlocks options.tables (line ++ ['\n']) = [.paragraph (line ++ ['\n'])] := by
    have reads := @Reader.Body.reads_paragraph options.tables line []
      (List.forall_mem_singleton.mpr isLine.isQuiet) (fun _ _ member => by cases member) []
    rw [List.flatMap_singleton, ← cut] at reads
    obtain ⟨c, rest, same, visible⟩ := isLine.isQuiet.isSolid
    have noMark : ∀ d ∈ (line ++ ['\n']).head?, d.toNat ≠ 0xFEFF := fun d isFirst =>
      isLine.noMark d (by rwa [same] at isFirst ⊢)
    have noNewline : c ≠ '\n' := fun isNewline => isLine.single (by simp [same, isNewline])
    have noDefinition := isLine.noDefinition
    rw [same, List.cons_append] at noDefinition
    have completes := Reader.Body.completes_paragraph noDefinition visible noNewline options.tables []
      false
    rw [← List.cons_append, ← same] at completes
    exact readBlocks_eq reads completes (by rw [cut]; exact List.forall_mem_singleton.mpr isLine.kept)
      noMark
  have trimmed (context : Reader.Block.Context) :
      Reader.Block.inlineNodes context false 0 (line ++ ['\n']) =
        Reader.Block.inlineNodes context false 0 line := by
    rw [Reader.Block.inlineNodes, Reader.Block.inlineNodes, Reader.readInlines, Reader.readInlines,
      Text.trimEnd_concat_of_pos rfl]
  refine ⟨⟨options, ⟨options.strikethrough, [],
    max (Tree.mk [.paragraph children]).toMarkdown.utf8ByteSize Tree.expansionFloor⟩⟩, ⟨rfl, rfl⟩, rfl, ?_⟩
  rw [Tree.ofMarkdown, source, blocks]
  rw [Reader.Block.blockNodes, Reader.Block.toNodes, trimmed]
  rfl

namespace Reader

/-! ## What is read first -/

/-- The pieces before all open brackets, in reverse. -/
def Progress.outermost (pieces : List Piece) : List Opener → List Piece
  | [] => pieces
  | opener :: outer => outermost opener.before outer

section Steps

variable {strikethrough : Bool} {progress next : Progress} {node : Inline}

theorem Progress.outermost_suffix
    {pieces more : List Piece}
    (suffix : pieces <:+ more)
    (openers : List Opener) :
    outermost pieces openers <:+ outermost more openers := by
  cases openers with
  | nil => exact suffix
  | cons opener outer => exact List.suffix_rfl

/-- A step only adds to what stands before all open brackets. -/
theorem Progress.Step.outermost_suffix
    (step : progress.Step strikethrough next) :
    outermost progress.pieces progress.openers <:+ outermost next.pieces next.openers := by
  cases step with
  | push isSound ticks => exact Progress.outermost_suffix (List.suffix_cons _ _) _
  | openBracket isImage source =>
      rw [Progress.openBracket, outermost]
      cases progress.openers with
      | nil => exact List.suffix_rfl
      | cons opener outer => exact List.suffix_rfl
  | @giveUp opener outer isOpen =>
      rw [isOpen]
      refine Progress.outermost_suffix ?_ outer
      exact (List.suffix_cons _ _).trans ((List.suffix_append _ _).trans (List.suffix_cons _ _))
  | @complete opener outer isOpen destination expanded =>
      rw [isOpen]
      exact @Progress.outermost_suffix opener.before _ (List.suffix_cons _ _) outer

theorem Progress.outermost_suffix_allPieces
    (pieces : List Piece)
    (openers : List Opener) :
    outermost pieces openers <:+ allPieces pieces openers := by
  induction openers generalizing pieces with
  | nil => exact List.suffix_rfl
  | cons opener outer inductionHypothesis =>
      exact (Progress.outermost_suffix ((List.suffix_cons _ _).trans (List.suffix_append _ _)) outer).trans
        (inductionHypothesis _)

/-- What stands before an opening run begins with a node if all before the closing one does, since the
opening run is none. -/
theorem Piece.suffix_below
    {closer opener : Run}
    {left between below : List Piece}
    (found : findOpener closer left = some (between, opener, below))
    (first : [.node node] <:+ left) :
    [.node node] <:+ below := by
  rw [eq_of_findOpener found] at first
  obtain ⟨before, same⟩ := first
  rcases List.eq_nil_or_concat below with rfl | ⟨more, piece, rfl⟩
  · cases (List.append_inj' same rfl).2
  · rw [List.concat_eq_append, ← List.cons_append, ← List.append_assoc] at same
    rw [List.concat_eq_append, (List.append_inj' same rfl).2]
    exact List.suffix_append _ _

/-- Pairing runs leaves the first piece where it is if it is a node. -/
theorem Piece.exists_pairFrom_eq_cons
    {left : List Piece}
    (first : [.node node] <:+ left)
    (pieces : List Piece) :
    ∃ others, pairFrom left pieces = node :: others := by
  have kept (run : Run) {below : List Piece} (first : [.node node] <:+ below) (inline : Inline) :
      [.node node] <:+ .node inline :: consRun run below := by
    rw [consRun]
    split
    · exact first.trans (List.suffix_cons _ _)
    · exact first.trans ((List.suffix_cons _ _).trans (List.suffix_cons _ _))
  fun_induction pairFrom left pieces with
  | case1 left =>
      obtain ⟨before, rfl⟩ := first
      exact ⟨_, by rw [List.reverse_append, List.map_append]; rfl⟩
  | case5 left closer rest canClose between opener below found misfit =>
      obtain ⟨before, rfl⟩ := first
      exact ⟨_, by rw [List.reverse_append, List.append_assoc, List.map_append]; rfl⟩
  | case3 left closer rest canClose between opener below found fits width wrapped passed isDone
      inductionHypothesis
  | case4 left closer rest canClose between opener below found fits width wrapped passed isOpen
      inductionHypothesis => exact inductionHypothesis (kept _ (suffix_below found first) _)
  | case2 left inline rest inductionHypothesis
  | case6 left closer rest canClose noOpener canOpen inductionHypothesis
  | case8 left closer rest cannotClose inductionHypothesis
  | case7 left closer rest canClose noOpener cannotOpen inductionHypothesis =>
      exact inductionHypothesis (first.trans (List.suffix_cons _ _))

end Steps

/-- A node that is read before all else is the first one. -/
theorem exists_finish_eq_cons
    {setting : Setting}
    {progress : Progress}
    {node : Inline}
    (first : [.node node] <:+ Progress.outermost progress.pieces progress.openers)
    (before text : List Char) :
    ∃ others, (readFrom setting before text progress).finish = node :: others := by
  have kept := @readFrom_induction setting progress
    (fun next => [Piece.node node] <:+ Progress.outermost next.pieces next.openers)
    (fun _ _ first step => first.trans step.outermost_suffix) first before text
  obtain ⟨more, whole⟩ := kept.trans (Progress.outermost_suffix_allPieces _ _)
  rw [Progress.finish, ← whole, List.reverse_append, Piece.pair, List.reverse_singleton,
    List.singleton_append, Piece.pairFrom]
  exact Piece.exists_pairFrom_eq_cons List.suffix_rfl more.reverse

theorem exists_readInlines_eq_cons
    {setting : Setting}
    {expanded : Nat}
    {text before behind : List Char}
    {progress : Progress}
    {node : Inline}
    (trimmed : Text.trimEnd Text.isAsciiSpace text = text)
    (reads : readFrom setting [] text (.start expanded) = readFrom setting before behind progress)
    (first : [.node node] <:+ Progress.outermost progress.pieces progress.openers) :
    ∃ others, (readInlines setting expanded text).1 = node :: others := by
  rw [readInlines, trimmed, reads]
  exact exists_finish_eq_cons first before behind

/-! ## Addresses behind text -/

namespace Autolink

/-- Whether a character belongs to no address whose first mark stands behind it. -/
def isApart (c : Char) : Bool :=
  !isMailboxChar c && c != ':' && c != '@'

variable {c : Char} (apart : isApart c = true)
include apart

theorem mailbox_append_le
    (front back : List Char)
    (named slashed : Bool) :
    (mailbox named slashed (front ++ c :: back)).1 ≤ front.length := by
  rw [isApart, Bool.and_eq_true, Bool.and_eq_true, Bool.not_eq_true', bne_iff_ne] at apart
  induction front generalizing named slashed with
  | nil =>
      rw [List.nil_append, mailbox, apart.1.1, if_neg Bool.false_ne_true, if_neg apart.1.2]
      exact Nat.le_refl 0
  | cons d front inductionHypothesis =>
      rw [List.cons_append, mailbox]
      dsimp only
      split
      · exact Nat.succ_le_succ (inductionHypothesis _ _)
      · split
        · split
          · exact Nat.succ_le_succ (inductionHypothesis _ _)
          · split
            · exact Nat.succ_le_succ (inductionHypothesis _ _)
            · exact Nat.zero_le _
        · exact Nat.zero_le _

/-- No address reaches back to a character that belongs to none. -/
theorem reach_le
    {front text : List Char}
    {found : Found}
    (isFound : web? (front ++ [c]) text = some found ∨ url? (front ++ [c]) text = some found ∨
      mail? (front ++ [c]) text = some found) :
    found.reach ≤ front.length := by
  rcases isFound with isWeb | isUrl | isMail
  · rw [web?] at isWeb
    dsimp only at isWeb
    split at isWeb
    · cases isWeb
      exact Nat.zero_le _
    · cases isWeb
  · have stops : ∀ d ∈ [c].head?, Char.isAlpha d = false := by
      rintro d ⟨⟩
      simp only [isApart, isMailboxChar, Char.isAlphanum, Bool.and_eq_true, Bool.not_eq_true',
        Bool.or_eq_false_iff] at apart
      exact apart.1.1.1.1.1.1.1
    have scheme : ((front ++ [c]).takeWhile Char.isAlpha).reverse.length ≤ front.length := by
      rw [takeWhile_append_of_head stops, List.length_reverse]
      exact (List.takeWhile_prefix _).length_le
    unfold url? at isUrl
    split at isUrl
    · dsimp only at isUrl
      split at isUrl
      · cases isUrl
        exact scheme
      · cases isUrl
    · cases isUrl
  · have reach := @mailbox_append_le c apart front [] false false
    unfold mail? at isMail
    split at isMail
    · dsimp only at isMail
      split at isMail
      · cases isMail
      · obtain ⟨domain, -, isMail⟩ := Option.bind_eq_some_iff.mp isMail
        split at isMail
        · split at isMail
          · cases isMail
          · cases isMail
            exact reach
        · cases isMail
    · cases isMail

theorem ne_nil_of_find?_append
    {front text before rest : List Char}
    {depth : Int}
    {found : Found}
    (isFound : find? (front ++ [c]) depth text = some (before, found, rest)) :
    before ≠ [] := by
  induction text generalizing front depth with
  | nil => cases isFound
  | cons d text inductionHypothesis =>
      rw [find?] at isFound
      split at isFound
      · next address isAddress =>
          have reach : address.reach ≤ front.length := by
            refine @reach_le c apart front (d :: text) address ?_
            obtain ⟨-, isAddress⟩ := Option.ite_none_left_eq_some.mp isAddress
            split at isAddress
            · exact .inr (.inl isAddress)
            · split at isAddress
              · exact .inl isAddress
              · split at isAddress
                · exact .inr (.inr isAddress)
                · cases isAddress
          obtain ⟨rfl, -⟩ := Prod.mk.inj (Option.some.inj isFound)
          rw [ne_eq, List.drop_eq_nil_iff, List.length_append, List.length_singleton]
          omega
      · exact @inductionHypothesis (d :: front) _ isFound

/-- Text stands before the first address in a text that begins with such a character. -/
theorem ne_nil_of_find?
    {text before rest : List Char}
    {found : Found}
    (isFound : find? [] 0 (c :: text) = some (before, found, rest)) :
    before ≠ [] := by
  have noFind (depth : Int) : (if 0 < depth then none
      else if c = ':' then url? [] (c :: text)
      else if c = 'w' then web? [] (c :: text)
      else if c = '@' then mail? [] (c :: text)
      else none) = none := by
    have noColon : c ≠ ':' := by rintro rfl; cases apart
    have noLetter : c ≠ 'w' := by rintro rfl; cases apart
    have noSign : c ≠ '@' := by rintro rfl; cases apart
    rw [if_neg noColon, if_neg noLetter, if_neg noSign, ite_self]
  rw [find?, noFind] at isFound
  exact @ne_nil_of_find?_append c apart [] _ _ _ _ _ isFound

end Autolink

/-! ## The first node -/

namespace Inline

variable {first : List Char} (some : first ≠ [])
include some

theorem exists_consJoined_eq (nodes : List Inline) :
    ∃ more others, consJoined (.text first) nodes = .text (first ++ more) :: others := by
  by_cases behind : ∃ value rest, nodes = .text value :: rest
  · obtain ⟨value, rest, rfl⟩ := behind
    exact ⟨value, rest, by rw [consJoined]⟩
  · rw [consJoined_text fun value rest same => behind ⟨value, rest, same⟩, if_neg some]
    exact ⟨[], nodes, by rw [List.append_nil]⟩

theorem exists_toNodes_eq (inlines : List Inline) :
    ∃ value nodes, toNodes (.text first :: inlines) = .text value :: nodes := by
  rw [toNodes, toNode]
  by_cases behind : ∃ value rest, toNodes inlines = .text value :: rest
  · obtain ⟨value, rest, same⟩ := behind
    rw [same, consNode]
    exact ⟨_, rest, rfl⟩
  · rw [consNode_text fun value rest same => behind ⟨value, rest, same⟩, if_neg (by simpa using some)]
    exact ⟨_, _, rfl⟩

end Inline

theorem inlineNodes_eq
    (context : Block.Context)
    (expanded : Nat)
    (text : List Char) :
    (Block.inlineNodes context false expanded text).1 =
      Inline.toNodes (Inline.settled false context.options.autolink
        (readInlines context.setting expanded text).1) :=
  rfl

section First

variable {context : Block.Context} {expanded : Nat} {text : List Char} {others : List Inline}

/-- If what is read begins with a mark, the nodes begin with it. -/
theorem exists_inlineNodes_eq_cons_of_isMark
    {inline : Inline}
    (isMark : inline.isMark = true)
    (first : (readInlines context.setting expanded text).1 = inline :: others) :
    ∃ nodes, (Block.inlineNodes context false expanded text).1 =
      (inline.settle context.options.autolink).toNode :: nodes := by
  rw [inlineNodes_eq, first, Inline.settled_cons_of_isMark isMark, Inline.toNodes,
    Inline.consNode_of_isMark (Inline.isMark_settle isMark _)]
  exact ⟨_, rfl⟩

/-- If what is read begins with text, the nodes begin with text, as long as no address comes first. -/
theorem exists_inlineNodes_eq_text_cons
    {c : Char}
    (apart : Autolink.isApart c = true)
    {rest : List Char}
    (first : (readInlines context.setting expanded text).1 = .text (c :: rest) :: others) :
    ∃ value nodes, (Block.inlineNodes context false expanded text).1 = .text value :: nodes := by
  obtain ⟨more, joined, isJoined⟩ := Inline.exists_consJoined_eq (List.cons_ne_nil c rest)
    (Inline.joinTexts (Inline.settleAll context.options.autolink others))
  have settled : Inline.settled false context.options.autolink (.text (c :: rest) :: others) =
      Inline.expandTexts context.options.autolink (.text (c :: (rest ++ more)) :: joined) := by
    rw [Inline.settled, if_neg Bool.false_ne_true, ← List.cons_append, ← isJoined]
    rfl
  rw [inlineNodes_eq, first, settled]
  cases isOn : context.options.autolink with
  | false => exact Inline.exists_toNodes_eq (List.cons_ne_nil _ _) _
  | true =>
      rw [Inline.expandTexts, List.flatMap_cons]
      dsimp only
      rw [if_pos rfl, Autolink.expand, List.length_cons, Autolink.expandWithin]
      split
      · next before found behind isFound =>
          have some := Autolink.ne_nil_of_find? apart isFound
          exact Inline.exists_toNodes_eq (mt List.reverse_eq_nil_iff.mp some) _
      · exact Inline.exists_toNodes_eq (List.cons_ne_nil _ _) _

end First

end Reader

end Markdown
end TwinEditor
