import TwinEditor.Proofs.Markdown.LineStart
import TwinEditor.Proofs.Markdown.PlainText

/-!
# Reading marks

Inline content is read part by part. A part is read as some nodes if it adds pieces that pair among
themselves to those nodes, whatever has been read before and whatever stands behind: text, code, tags,
links and images, and content between two runs that can only open and only close.
-/

namespace TwinEditor
namespace Markdown
namespace Reader

/-! ## Pieces that pair among themselves -/

/-- Some pieces become some nodes, whatever stands around them. -/
def Resolves
    (pieces : List Piece)
    (nodes : List Inline) : Prop :=
  ∀ left rest, Piece.pairFrom left (pieces ++ rest) =
    Piece.pairFrom ((nodes.map Piece.node).reverse ++ left) rest

theorem resolves_nil : Resolves [] [] :=
  fun _ _ => rfl

theorem resolves_node (node : Inline) : Resolves [.node node] [node] := by
  intro left rest
  rw [List.singleton_append, Piece.pairFrom]
  rfl

theorem Resolves.append
    {first second : List Piece}
    {nodes others : List Inline}
    (resolves : Resolves first nodes)
    (follows : Resolves second others) :
    Resolves (first ++ second) (nodes ++ others) := by
  intro left rest
  rw [List.append_assoc, resolves, follows, List.map_append, List.reverse_append, List.append_assoc]

theorem resolves_nodes (nodes : List Inline) : Resolves (nodes.map .node) nodes := by
  induction nodes with
  | nil => exact resolves_nil
  | cons node nodes inductionHypothesis => exact (resolves_node node).append inductionHypothesis

theorem Resolves.pair_eq
    {pieces : List Piece}
    {nodes : List Inline}
    (resolves : Resolves pieces nodes) :
    Piece.pair pieces = nodes := by
  have whole := resolves [] []
  rw [List.append_nil, List.append_nil, Piece.pairFrom, List.reverse_reverse] at whole
  rw [Piece.pair, whole, List.map_map]
  exact List.map_id _

/-- The run that opens content with so many characters and can do nothing else. -/
def openingRun
    (char : Char)
    (length : Nat) :
    Run :=
  ⟨char, length, length, true, false⟩

/-- The run that closes content with so many characters and can do nothing else. -/
def closingRun
    (char : Char)
    (length : Nat) :
    Run :=
  ⟨char, length, length, false, true⟩

theorem findOpener_nodes
    {closer opener : Run}
    (opens : opener.opens closer = true)
    (nodes : List Inline)
    (below : List Piece) :
    Piece.findOpener closer (nodes.map Piece.node ++ .pending opener :: below) =
      some (nodes.map .node, opener, below) := by
  induction nodes with
  | nil =>
      rw [List.map_nil, List.nil_append, Piece.findOpener, if_pos opens]
  | cons node nodes inductionHypothesis =>
      rw [List.map_cons, List.cons_append, Piece.findOpener, inductionHypothesis]
      · rfl
      · exact nofun

/-- The node for content between two runs of a length. -/
def wrapped
    (char : Char)
    (length : Nat)
    (nodes : List Inline) :
    Inline :=
  (openingRun char length).wrap (closingRun char length) nodes

/-- Two runs of one length around content that pairs among itself pair with each other. -/
theorem Resolves.wrapped
    {pieces : List Piece}
    {nodes : List Inline}
    (resolves : Resolves pieces nodes)
    {char : Char}
    {length : Nat}
    (short : length = 1 ∨ length = 2) :
    Resolves (.pending (openingRun char length) :: pieces ++ [.pending (closingRun char length)])
      [Reader.wrapped char length nodes] := by
  intro left rest
  have opens : (openingRun char length).opens (closingRun char length) = true := by
    simp [Run.opens, openingRun, closingRun]
  have width : (openingRun char length).pairWidth (closingRun char length) = length := by
    rcases short with rfl | rfl <;> rfl
  have fits : (openingRun char length).fits (closingRun char length) = true := by
    rw [Run.fits, width]
    simp [openingRun, closingRun]
  have found := findOpener_nodes opens nodes.reverse left
  have usedUp : Piece.consRun ((openingRun char length).use length) left = left := by
    rw [Piece.consRun, Run.use]
    exact if_pos (Nat.sub_self length)
  -- Nothing pending is left between the two runs, so the closing run finds the opening one.
  rw [List.cons_append, List.cons_append, Piece.pairFrom, if_neg (by exact Bool.false_ne_true),
    List.append_assoc, resolves, List.singleton_append, Piece.pairFrom, if_pos (by rfl),
    ← List.map_reverse, found]
  dsimp only
  rw [if_pos fits, width, if_pos (show (closingRun char length).left ≤ length from Nat.le_refl length),
    usedUp, ← List.map_reverse, List.reverse_reverse,
    List.map_map]
  simp only [Function.comp_def, Piece.finish, List.map_id']
  rfl

/-! ## Parts of inline content -/

/-- A bracket, whatever has been opened behind it. -/
def Opener.unfollowed (opener : Opener) : Opener :=
  { opener with isFollowed := false }

/-- A hard break that has just been read is not followed by white space, which would go. -/
def Progress.Awaits
    (progress : Progress)
    (rest : List Char) : Prop :=
  progress.endsInHardBreak = true → ∀ c ∈ rest.head?, Text.isAsciiSpace c = false

/-- Reading may go on. No search for backticks has failed, and where links may come, no bracket is
open. -/
structure Progress.IsReady
    (links : Bool)
    (progress : Progress) : Prop where
  ticks : progress.ticks.reachedEnd = false
  openers : links = true → progress.openers = []

/-- Some pieces more have been read. Without links among them nothing else changes. -/
structure Progress.Advances
    (links : Bool)
    (progress next : Progress)
    (pieces : List Piece) : Prop where
  pieces : next.pieces = pieces.reverse ++ progress.pieces
  openers : next.openers.map Opener.unfollowed = progress.openers.map Opener.unfollowed
  ticks : next.ticks.reachedEnd = false
  expanded : next.expanded = progress.expanded
  blocked : links = false → next.linksBlocked = progress.linksBlocked

theorem Progress.Advances.isReady
    {links : Bool}
    {progress next : Progress}
    {pieces : List Piece}
    (advances : progress.Advances links next pieces)
    (ready : progress.IsReady links) :
    next.IsReady links := by
  refine ⟨advances.ticks, fun on => ?_⟩
  have same := advances.openers
  rw [ready.openers on, List.map_nil, List.map_eq_nil_iff] at same
  exact same

theorem Progress.Advances.append
    {links : Bool}
    {progress next last : Progress}
    {pieces more : List Piece}
    (advances : progress.Advances links next pieces)
    (follows : next.Advances links last more) :
    progress.Advances links last (pieces ++ more) := by
  refine ⟨?_, follows.openers.trans advances.openers, follows.ticks,
    follows.expanded.trans advances.expanded,
    fun off => (follows.blocked off).trans (advances.blocked off)⟩
  rw [follows.pieces, advances.pieces, List.reverse_append, List.append_assoc]

/-- A written part is read as some nodes between what stands before it, in reverse, and behind it. -/
def ReadsAs
    (setting : Setting)
    (links : Bool)
    (before written tail : List Char)
    (nodes : List Inline) : Prop :=
  ∀ progress : Progress, progress.IsReady links → progress.Awaits (written ++ tail) →
    ∃ pieces next, Resolves pieces nodes ∧ progress.Advances links next pieces ∧ next.Awaits tail ∧
      readFrom setting before (written ++ tail) progress =
        readFrom setting (written.reverse ++ before) tail next

section Parts

variable {setting : Setting} {links : Bool} {before tail : List Char}

theorem readsAs_nil : ReadsAs setting links before [] tail [] :=
  fun progress ready awaits => ⟨[], progress, resolves_nil,
    ⟨rfl, rfl, ready.ticks, rfl, fun _ => rfl⟩, awaits, rfl⟩

/-- Two parts are read one after another. -/
theorem ReadsAs.append
    {first second : List Char}
    {nodes others : List Inline}
    (reads : ReadsAs setting links before first (second ++ tail) nodes)
    (follows : ReadsAs setting links (first.reverse ++ before) second tail others) :
    ReadsAs setting links before (first ++ second) tail (nodes ++ others) := by
  intro progress ready awaits
  rw [List.append_assoc] at awaits
  obtain ⟨pieces, next, resolves, advances, nextAwaits, reading⟩ := reads progress ready awaits
  obtain ⟨more, last, resolves', advances', lastAwaits, reading'⟩ :=
    follows next (advances.isReady ready) nextAwaits
  refine ⟨pieces ++ more, last, resolves.append resolves', advances.append advances', lastAwaits, ?_⟩
  rw [List.append_assoc, reading, reading', List.reverse_append, List.append_assoc]

/-- A character with some of those behind it is read at once. -/
theorem readFrom_of_readNext_eq
    {c : Char}
    {rest : List Char}
    {progress next : Progress}
    (reads : readNext setting before c (rest ++ tail) progress = (rest.length, next)) :
    readFrom setting before (c :: rest ++ tail) progress =
      readFrom setting ((c :: rest).reverse ++ before) tail next := by
  rw [List.cons_append, readFrom, reads]
  dsimp only
  rw [List.take_left, List.drop_left, List.reverse_cons, List.append_assoc, List.singleton_append]

/-- A part that is read at once as one node. -/
theorem readsAs_node
    {c : Char}
    {rest : List Char}
    {node : Inline}
    (behind : node = .hardBreak → ∀ d ∈ tail.head?, Text.isAsciiSpace d = false)
    (reads : ∀ progress : Progress, progress.ticks.reachedEnd = false →
      ∃ ticks : TickMemory, ticks.reachedEnd = false ∧
        readNext setting before c (rest ++ tail) progress =
          (rest.length, Progress.pushNode node { progress with ticks := ticks })) :
    ReadsAs setting links before (c :: rest) tail [node] := by
  intro progress ready awaits
  obtain ⟨ticks, unended, reading⟩ := reads progress ready.ticks
  refine ⟨[.node node], Progress.pushNode node { progress with ticks := ticks }, resolves_node node,
    ⟨rfl, rfl, unended, rfl, fun _ => rfl⟩, fun isBreak => behind ?_, readFrom_of_readNext_eq reading⟩
  cases node with
  | hardBreak => rfl
  | _ => cases isBreak

/-! ## Text and breaks -/

theorem Spells.written_eq_nil
    {written : List Char}
    (spells : Spells written []) :
    written = [] := by
  cases spells
  rfl

/-- White space does not begin what a line without it at its start is written as. -/
theorem Spells.isAsciiSpace_eq_false
    {written line : List Char}
    (spells : Spells written line)
    (begins : ∀ c ∈ written.head?, Text.isAsciiSpace c = false) :
    ∀ c ∈ line.head?, Text.isAsciiSpace c = false := by
  cases spells with
  | nil => exact nofun
  | @escaped d written line punctuation noLong rest =>
      intro c isFirst
      obtain rfl := Option.some.inj isFirst
      rw [← Bool.not_eq_true]
      simp only [Text.isAsciiPunctuation, Text.isAsciiSpace, Bool.or_eq_true, Bool.and_eq_true,
        decide_eq_true_eq, beq_iff_eq] at punctuation ⊢
      omega
  | _ => exact begins

theorem endsInHardBreak_pushNodes_text
    {texts : List (List Char)}
    (some : texts ≠ [])
    (progress : Progress) :
    (progress.pushNodes (texts.map .text)).endsInHardBreak = false := by
  obtain ⟨start, text, rfl⟩ := List.eq_nil_or_concat texts |>.resolve_left some
  simp [Progress.endsInHardBreak, Progress.pushNodes]

/-- Text is read as pieces of it, with its long references replaced. -/
theorem exists_readsAs_of_spells
    {written line : List Char}
    (spells : Spells written line)
    (ends : EndsText setting line tail) :
    ∃ texts : List (List Char), texts.flatten = readLongReferences line ∧
      ReadsAs setting links before written tail (texts.map .text) := by
  by_cases empty : line = []
  · subst empty
    obtain rfl := spells.written_eq_nil
    exact ⟨[], rfl, readsAs_nil⟩
  · obtain ⟨texts, flat, reads⟩ := exists_isReadAs_of_spells spells setting
    have some : texts ≠ [] := by
      rintro rfl
      exact empty (readLongReferences_eq_nil_iff.mp flat.symm)
    have written_ne_nil := spells.ne_nil empty
    refine ⟨texts, flat, fun progress ready awaits =>
      ⟨_, progress.pushNodes (texts.map .text), resolves_nodes _,
        ⟨?_, rfl, ready.ticks, rfl, fun _ => rfl⟩, fun isBreak => ?_,
        reads before tail progress ends fun isBreak => spells.isAsciiSpace_eq_false fun c isFirst =>
          awaits isBreak c ?_⟩⟩
    · rw [Progress.pushNodes]
    · rw [endsInHardBreak_pushNodes_text some] at isBreak
      cases isBreak
    · rw [List.head?_append, isFirst]
      rfl

/-- Between lines of text a line feed is a soft break. -/
theorem readFrom_newline
    {setting : Setting}
    {before after : List Char}
    (visible : before.head? ≠ some ' ')
    (first : ∀ c ∈ after.head?, Text.isSpaceOrTab c = false)
    (progress : Progress) :
    readFrom setting before ('\n' :: after) progress =
      readFrom setting ('\n' :: before) after (progress.pushNode .softBreak) := by
  have unskipped : after.takeWhile Text.isSpaceOrTab = [] := by
    cases after with
    | nil => rfl
    | cons c rest => exact List.takeWhile_cons_of_neg (by simp [first c rfl])
  have isLineFeed : readNext setting before '\n' after progress = readLineFeed before after progress :=
    rfl
  refine readFrom_of_readNext ?_
  rw [isLineFeed, readLineFeed, unskipped]
  · rfl
  · rintro _ rfl
    exact visible rfl

/-- A line feed is a soft break, unless two spaces stand before it. White space behind it would go. -/
theorem readsAs_softBreak
    (visible : before.head? ≠ some ' ')
    (first : ∀ c ∈ tail.head?, Text.isSpaceOrTab c = false) :
    ReadsAs setting links before ['\n'] tail [.softBreak] :=
  fun progress ready _ => ⟨[.node .softBreak], progress.pushNode .softBreak,
    resolves_node .softBreak, ⟨rfl, rfl, ready.ticks, rfl, fun _ => rfl⟩, nofun,
    readFrom_newline visible first progress⟩

theorem readsAs_hardBreak
    (behind : ∀ c ∈ tail.head?, Text.isAsciiSpace c = false) :
    ReadsAs setting links before ['\\', '\n'] tail [.hardBreak] :=
  readsAs_node (fun _ => behind) fun progress unended => ⟨progress.ticks, unended, rfl⟩

/-- Raw HTML is read as it stands, unless it is an address. -/
theorem readsAs_html
    {inside : List Char}
    (noUri : bracketedUri? (inside ++ tail) = none)
    (noMail : bracketedMail? (inside ++ tail) = none)
    (isHtml : inlineHtml? (inside ++ tail) = some tail) :
    ReadsAs setting links before ('<' :: inside) tail [.html ('<' :: inside)] := by
  refine readsAs_node nofun fun progress unended => ⟨progress.ticks, unended, ?_⟩
  have isAngle : readNext setting before '<' (inside ++ tail) progress =
      readAngleBracket (inside ++ tail) progress := rfl
  have length : (inside ++ tail).length - tail.length = inside.length := by
    rw [List.length_append, Nat.add_sub_cancel]
  rw [isAngle, readAngleBracket, noUri, noMail, isHtml]
  dsimp only
  rw [length, List.take_left]

/-! ## Runs -/

/-- The run of a delimiter at a place in a text, given what stands before it in reverse and behind it.
Where tildes delete, they are passed over. -/
def runBetween
    (strikethrough : Bool)
    (char : Char)
    (length : Nat)
    (before behind : List Char) :
    Run :=
  let isSide (c : Char) : Bool := !(strikethrough && c == '~')
  Run.ofSides char length (before.find? isSide) (behind.find? isSide)

/-- Whether a character is a delimiter. -/
def Setting.delimits (setting : Setting) (c : Char) : Bool :=
  c == '*' || c == '_' || (setting.strikethrough && c == '~')

theorem readsAs_run
    {char : Char}
    (delimits : setting.delimits char = true)
    {length : Nat}
    (positive : 0 < length)
    (ends : tail.head? ≠ some char)
    (active : (runBetween setting.strikethrough char length before tail).canOpen = true ∨
      (runBetween setting.strikethrough char length before tail).canClose = true)
    (progress : Progress) :
    readFrom setting before (List.replicate length char ++ tail) progress =
      readFrom setting ((List.replicate length char).reverse ++ before) tail
        (progress.push (.pending (runBetween setting.strikethrough char length before tail))) := by
  obtain ⟨more, rfl⟩ := Nat.exists_eq_add_of_le' positive
  rw [List.replicate_succ]
  refine readFrom_of_readNext_eq ?_
  have isRun : readNext setting before char (List.replicate more char ++ tail) progress =
      readRun setting before char (List.replicate more char ++ tail) progress := by
    simp only [Setting.delimits, Bool.or_eq_true, Bool.and_eq_true, beq_iff_eq] at delimits
    rcases delimits with (rfl | rfl) | ⟨on, rfl⟩
    · rfl
    · rfl
    · simp [readNext, on]
  rw [isRun, readRun, takeWhile_replicate_append ends, dropWhile_replicate_append ends,
    List.length_replicate]
  exact if_pos (Bool.or_eq_true_iff.mpr active)

/-- Content between a run that can only open and one that can only close. -/
theorem ReadsAs.wrapped
    {char : Char}
    (delimits : setting.delimits char = true)
    {length : Nat}
    (short : length = 1 ∨ length = 2)
    {written : List Char}
    {nodes : List Inline}
    (first : written.head?.any (· != char) = true)
    (ends : tail.head? ≠ some char)
    (opens : runBetween setting.strikethrough char length before
      (written ++ (List.replicate length char ++ tail)) = openingRun char length)
    (closes : runBetween setting.strikethrough char length
      (written.reverse ++ ((List.replicate length char).reverse ++ before)) tail =
        closingRun char length)
    (reads : ReadsAs setting links ((List.replicate length char).reverse ++ before) written
      (List.replicate length char ++ tail) nodes) :
    ReadsAs setting links before
      (List.replicate length char ++ (written ++ List.replicate length char)) tail
      [Reader.wrapped char length nodes] := by
  have positive : 0 < length := by omega
  intro progress ready _
  have contentEnds : (written ++ (List.replicate length char ++ tail)).head? ≠ some char := by
    cases written with
    | nil => cases first
    | cons c rest =>
        have other : c ≠ char := by simpa using first
        exact fun same => other (Option.some.inj same)
  have opening := readsAs_run delimits positive contentEnds (.inl (congrArg Run.canOpen opens)) progress
  obtain ⟨pieces, next, resolves, advances, nextAwaits, reading⟩ :=
    reads (progress.push (.pending (openingRun char length))) ⟨ready.ticks, ready.openers⟩ nofun
  have closing := readsAs_run delimits positive ends (.inr (congrArg Run.canClose closes)) next
  refine ⟨_, next.push (.pending (closingRun char length)), resolves.wrapped short,
    ⟨?_, advances.openers, advances.ticks, advances.expanded, advances.blocked⟩, nofun, ?_⟩
  · rw [Progress.push, advances.pieces, Progress.push]
    simp
  · rw [List.append_assoc, List.append_assoc, opening, opens, reading, closing, closes,
      List.reverse_append, List.reverse_append, List.append_assoc, List.append_assoc]

/-! ## Links and images -/

/-- A right bracket with a target behind it completes what the last bracket opened. -/
theorem readNext_closeBracket
    {opener : Opener}
    {outer : List Opener}
    {after rest destination : List Char}
    {progress : Progress}
    (isOpen : progress.openers = opener :: outer)
    (admitted : (progress.linksBlocked && !opener.isImage) = false)
    (isTarget : parenthesizedTarget? after = some (destination, rest)) :
    readNext setting before ']' after progress =
      (after.length - rest.length, progress.complete opener outer destination) := by
  have isBracket : readNext setting before ']' after progress =
      readCloseBracket setting after progress := rfl
  rw [isBracket, readCloseBracket, isOpen]
  dsimp only
  rw [admitted, if_neg Bool.false_ne_true, isTarget]

/-- Where there are no definitions a right bracket without a target behind it is text. -/
theorem readNext_closeBracket_of_noTarget
    {opener : Opener}
    {outer : List Opener}
    {after : List Char}
    {progress : Progress}
    (isOpen : progress.openers = opener :: outer)
    (noDefinition : setting.definitions = [])
    (noTarget : parenthesizedTarget? after = none) :
    readNext setting before ']' after progress = (0, (progress.giveUp opener outer).pushText [']']) := by
  have isBracket : readNext setting before ']' after progress =
      readCloseBracket setting after progress := rfl
  have noLookup (label : List Char) : setting.lookup progress.expanded label = none := by
    rw [Setting.lookup, noDefinition]
    rfl
  rw [isBracket, readCloseBracket, isOpen]
  dsimp only
  split
  · rfl
  · rw [noTarget]
    dsimp only
    split
    · rfl
    · rw [noLookup]

section Brackets

variable {written target destination : List Char} {nodes : List Inline}

/-- What is read between a bracket and the one that closes it becomes a link or an image, in front of
what was read before it. -/
theorem exists_complete
    {isImage : Bool}
    {source : List Char}
    {progress : Progress}
    (unended : progress.ticks.reachedEnd = false)
    (isTarget : parenthesizedTarget? (target ++ tail) = some (destination, tail))
    (reads : ReadsAs setting false before written (']' :: target ++ tail) nodes) :
    ∃ next : Progress,
      next.pieces =
        .node (if isImage then .image destination nodes else .link destination nodes) ::
          progress.pieces ∧
      next.openers.map Opener.unfollowed = progress.openers.map Opener.unfollowed ∧
      next.ticks.reachedEnd = false ∧ next.expanded = progress.expanded ∧
      (isImage = true → next.linksBlocked = progress.linksBlocked) ∧
      readFrom setting before (written ++ (']' :: target ++ tail)) (progress.openBracket isImage source) =
        readFrom setting ((']' :: target).reverse ++ (written.reverse ++ before)) tail next := by
  obtain ⟨pieces, next, resolves, advances, -, reading⟩ :=
    reads (progress.openBracket isImage source) ⟨unended, nofun⟩ nofun
  obtain ⟨opener, outer, isOpen, isOpener, same⟩ : ∃ opener outer, next.openers = opener :: outer ∧
      opener.unfollowed = ⟨isImage, false, source, progress.pieces⟩ ∧
        outer.map Opener.unfollowed = progress.openers.map Opener.unfollowed := by
    obtain ⟨opener, outer, isOpen, isOpener, same⟩ := List.map_eq_cons_iff.mp advances.openers
    refine ⟨opener, outer, isOpen, isOpener, same.trans ?_⟩
    cases progress.openers with
    | nil => rfl
    | cons other others => rfl
  have kind : opener.isImage = isImage := congrArg Opener.isImage isOpener
  have below : opener.before = progress.pieces := congrArg Opener.before isOpener
  have blocked : next.linksBlocked = (progress.linksBlocked && isImage) := advances.blocked rfl
  have admitted : (next.linksBlocked && !opener.isImage) = false := by
    rw [blocked, kind, Bool.and_assoc, Bool.and_not_self, Bool.and_false]
  have content : Piece.pair next.pieces.reverse = nodes := by
    rw [advances.pieces, Progress.openBracket, List.append_nil, List.reverse_reverse]
    exact resolves.pair_eq
  have closing := @readNext_closeBracket setting (written.reverse ++ before) _ _ _ _ _ _ isOpen admitted
    isTarget
  rw [List.length_append, Nat.add_sub_cancel] at closing
  refine ⟨next.complete opener outer destination, ?_, same, advances.ticks, advances.expanded, ?_,
    reading.trans (readFrom_of_readNext_eq closing)⟩
  · rw [Progress.complete, content, kind, below]
  · rintro rfl
    rw [Progress.complete, blocked, kind, Bool.and_true, Bool.not_true, Bool.or_false]

theorem ReadsAs.link
    (isTarget : parenthesizedTarget? (target ++ tail) = some (destination, tail))
    (reads : ReadsAs setting false ('[' :: before) written (']' :: target ++ tail) nodes) :
    ReadsAs setting true before ('[' :: (written ++ ']' :: target)) tail
      [.link destination nodes] := by
  intro progress ready _
  obtain ⟨next, pieces, openers, ticks, expanded, -, reading⟩ :=
    @exists_complete setting ('[' :: before) tail written target destination nodes false
      (written ++ (']' :: target ++ tail)) progress ready.ticks isTarget reads
  have opening : readFrom setting before ('[' :: (written ++ (']' :: target ++ tail))) progress =
      readFrom setting ('[' :: before) (written ++ (']' :: target ++ tail))
        (progress.openBracket false (written ++ (']' :: target ++ tail))) :=
    readFrom_of_readNext rfl
  refine ⟨[.node (.link destination nodes)], next, resolves_node _,
    ⟨pieces, openers, ticks, expanded, nofun⟩, fun isBreak => ?_, ?_⟩
  · rw [Progress.endsInHardBreak, pieces] at isBreak
    cases isBreak
  · rw [List.cons_append, List.append_assoc, opening, reading]
    simp

theorem ReadsAs.image
    (noNote : (written ++ [']']).head? ≠ some '^')
    (isTarget : parenthesizedTarget? (target ++ tail) = some (destination, tail))
    (reads : ReadsAs setting false ('[' :: '!' :: before) written (']' :: target ++ tail) nodes) :
    ReadsAs setting links before ('!' :: '[' :: (written ++ ']' :: target)) tail
      [.image destination nodes] := by
  intro progress ready _
  obtain ⟨next, pieces, openers, ticks, expanded, blocked, reading⟩ :=
    @exists_complete setting ('[' :: '!' :: before) tail written target destination nodes true
      (written ++ (']' :: target ++ tail)) progress ready.ticks isTarget reads
  have opening : readFrom setting before ('!' :: ['['] ++ (written ++ (']' :: target ++ tail)))
      progress = readFrom setting ('[' :: '!' :: before) (written ++ (']' :: target ++ tail))
        (progress.openBracket true (written ++ (']' :: target ++ tail))) := by
    refine readFrom_of_readNext_eq ?_
    have plain : ∀ rest, written ++ (']' :: target ++ tail) ≠ '^' :: rest := by
      intro rest same
      apply noNote
      cases written with
      | nil => cases same
      | cons c others => exact congrArg some (List.cons.inj same).1
    generalize written ++ (']' :: target ++ tail) = source at plain ⊢
    simp [readNext]
  refine ⟨[.node (.image destination nodes)], next, resolves_node _,
    ⟨pieces, openers, ticks, expanded, fun _ => blocked rfl⟩, fun isBreak => ?_, ?_⟩
  · rw [Progress.endsInHardBreak, pieces] at isBreak
    cases isBreak
  · rw [List.cons_append, List.cons_append, List.append_assoc]
    refine opening.trans (reading.trans ?_)
    simp

end Brackets

end Parts

end Reader
end Markdown
end TwinEditor
