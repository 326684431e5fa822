import TwinEditor.Markdown.Reader.Document

/-!
# Deleted text only where it is asked for

Tildes are read as delimiter runs only when the reader is told to look for them. What is read without
them holds no deleted text at any depth, whatever the runs of other characters are paired to.
-/

namespace TwinEditor
namespace Markdown
namespace Reader

namespace Inline

mutual

/-- Whether a node holds deleted text only if that is admitted. -/
def isSound (strikethrough : Bool) : Inline → Bool
  | .text _ | .softBreak | .hardBreak | .code _ | .html _ => true
  | .delete children => strikethrough && areSound strikethrough children
  | .emphasis children | .strong children | .link _ children | .image _ children =>
      areSound strikethrough children

/-- Whether every one of some nodes is such a node. -/
def areSound (strikethrough : Bool) : List Inline → Bool
  | [] => true
  | node :: rest => node.isSound strikethrough && areSound strikethrough rest

end

theorem areSound_iff
    {strikethrough : Bool}
    {nodes : List Inline} :
    areSound strikethrough nodes = true ↔ ∀ node ∈ nodes, node.isSound strikethrough = true := by
  induction nodes with
  | nil => simp [areSound]
  | cons node rest inductionHypothesis => simp [areSound, inductionHypothesis]

end Inline

variable {strikethrough : Bool}

/-! ## Pairing runs -/

namespace Run

/-- Whether a run is one of tildes only if deleted text is admitted. -/
def isSound
    (strikethrough : Bool)
    (run : Run) :
    Bool :=
  run.char != '~' || strikethrough

theorem isSound_wrap
    {opener : Run}
    (sound : opener.isSound strikethrough = true)
    (closer : Run)
    {children : List Inline}
    (inside : Inline.areSound strikethrough children = true) :
    (opener.wrap closer children).isSound strikethrough = true := by
  rw [wrap]
  split
  · next isTilde =>
      simp only [isSound, isTilde, bne_self_eq_false, Bool.false_or] at sound
      rw [Inline.isSound, inside, sound]
      rfl
  · split <;> exact inside

end Run

namespace Piece

/-- Whether a piece can only become sound content. -/
def isSound (strikethrough : Bool) : Piece → Bool
  | .node inline => inline.isSound strikethrough
  | .pending run => run.isSound strikethrough

/-- Whether some pieces can only become sound content. -/
def AreSound
    (strikethrough : Bool)
    (pieces : List Piece) : Prop :=
  ∀ piece ∈ pieces, piece.isSound strikethrough = true

theorem isSound_finish
    {piece : Piece}
    (sound : piece.isSound strikethrough = true) :
    piece.finish.isSound strikethrough = true := by
  cases piece with
  | node inline => exact sound
  | pending run => rfl

theorem AreSound.finish
    {pieces : List Piece}
    (sound : AreSound strikethrough pieces) :
    Inline.areSound strikethrough (pieces.map Piece.finish) = true := by
  rw [Inline.areSound_iff]
  intro node isNode
  obtain ⟨piece, isPiece, rfl⟩ := List.mem_map.mp isNode
  exact isSound_finish (sound piece isPiece)

theorem AreSound.cons
    {piece : Piece}
    {pieces : List Piece}
    (first : piece.isSound strikethrough = true)
    (rest : AreSound strikethrough pieces) :
    AreSound strikethrough (piece :: pieces) :=
  List.forall_mem_cons.mpr ⟨first, rest⟩

theorem AreSound.append
    {before after : List Piece}
    (first : AreSound strikethrough before)
    (rest : AreSound strikethrough after) :
    AreSound strikethrough (before ++ after) :=
  List.forall_mem_append.mpr ⟨first, rest⟩

theorem AreSound.reverse
    {pieces : List Piece}
    (sound : AreSound strikethrough pieces) :
    AreSound strikethrough pieces.reverse :=
  fun piece isPiece => sound piece (List.mem_reverse.mp isPiece)

/-- An opening run is found among the pieces before the one it is looked for. -/
theorem eq_of_findOpener
    {closer opener : Run}
    {left between below : List Piece}
    (found : findOpener closer left = some (between, opener, below)) :
    left = between ++ .pending opener :: below := by
  induction left generalizing between with
  | nil => cases found
  | cons piece before inductionHypothesis =>
      cases piece with
      | node inline =>
          obtain ⟨_, isFound, same⟩ := Option.map_eq_some_iff.mp found
          cases same
          rw [inductionHypothesis isFound, List.cons_append]
      | pending run =>
          rw [findOpener] at found
          split at found
          · cases found
            rfl
          · obtain ⟨_, isFound, same⟩ := Option.map_eq_some_iff.mp found
            cases same
            rw [inductionHypothesis isFound, List.cons_append]

theorem AreSound.consRun
    {run : Run}
    (sound : run.isSound strikethrough = true)
    {pieces : List Piece}
    (rest : AreSound strikethrough pieces) :
    AreSound strikethrough (consRun run pieces) := by
  rw [Piece.consRun]
  split
  · exact rest
  · exact rest.cons sound

/-- What stands before a closing run is sound once the content between the pair is made a node. -/
theorem AreSound.pair
    {closer opener : Run}
    {left between below : List Piece}
    (passed : AreSound strikethrough left)
    (found : findOpener closer left = some (between, opener, below)) :
    AreSound strikethrough
      (.node (opener.wrap closer (between.reverse.map Piece.finish)) ::
        Piece.consRun (opener.use (opener.pairWidth closer)) below) := by
  rw [eq_of_findOpener found] at passed
  obtain ⟨inside, outside⟩ := List.forall_mem_append.mp passed
  obtain ⟨isRun, before⟩ := List.forall_mem_cons.mp outside
  have content : AreSound strikethrough between := inside
  have remains : (opener.use (opener.pairWidth closer)).isSound strikethrough = true := isRun
  exact AreSound.cons (Run.isSound_wrap isRun closer content.reverse.finish)
    (AreSound.consRun remains before)

/-- Pairing makes sound content of sound pieces. -/
theorem areSound_pairFrom
    {left pieces : List Piece}
    (passed : AreSound strikethrough left)
    (ahead : AreSound strikethrough pieces) :
    Inline.areSound strikethrough (pairFrom left pieces) = true := by
  fun_induction pairFrom left pieces with
  | case1 left => exact passed.reverse.finish
  | case2 left inline rest inductionHypothesis =>
      obtain ⟨first, others⟩ := List.forall_mem_cons.mp ahead
      exact inductionHypothesis (passed.cons first) others
  | case3 left closer rest canClose between opener below found fits width node now isDone
      inductionHypothesis =>
      obtain ⟨-, others⟩ := List.forall_mem_cons.mp ahead
      exact inductionHypothesis (passed.pair found) others
  | case4 left closer rest canClose between opener below found fits width node now isOpen
      inductionHypothesis =>
      obtain ⟨first, others⟩ := List.forall_mem_cons.mp ahead
      exact inductionHypothesis (passed.pair found) (AreSound.cons first others)
  | case5 left closer rest canClose between opener below found misfit =>
      exact (passed.reverse.append ahead).finish
  | case6 left closer rest canClose noOpener canOpen inductionHypothesis
  | case8 left closer rest cannotClose inductionHypothesis =>
      obtain ⟨first, others⟩ := List.forall_mem_cons.mp ahead
      exact inductionHypothesis (passed.cons first) others
  | case7 left closer rest canClose noOpener cannotOpen inductionHypothesis =>
      obtain ⟨-, others⟩ := List.forall_mem_cons.mp ahead
      exact inductionHypothesis (passed.cons rfl) others

end Piece

/-! ## Reading from left to right -/

namespace Progress

open Piece (AreSound)

/-- What has been read can only become sound content. -/
structure IsSound
    (strikethrough : Bool)
    (progress : Progress) : Prop where
  pieces : AreSound strikethrough progress.pieces
  openers : ∀ opener ∈ progress.openers, AreSound strikethrough opener.before

variable {progress : Progress}

theorem isSound_start (expanded : Nat) : (start expanded).IsSound strikethrough :=
  ⟨nofun, nofun⟩

theorem IsSound.pushText
    (sound : progress.IsSound strikethrough)
    (text : List Char) :
    (progress.pushText text).IsSound strikethrough :=
  ⟨sound.pieces.cons rfl, sound.openers⟩

theorem IsSound.openBracket
    (sound : progress.IsSound strikethrough)
    (isImage : Bool)
    (source : List Char) :
    (progress.openBracket isImage source).IsSound strikethrough := by
  refine ⟨nofun, List.forall_mem_cons.mpr ⟨sound.pieces, ?_⟩⟩
  have openers := sound.openers
  cases isOpen : progress.openers with
  | nil => exact nofun
  | cons opener outer =>
      rw [isOpen] at openers
      obtain ⟨first, others⟩ := List.forall_mem_cons.mp openers
      exact List.forall_mem_cons.mpr ⟨first, others⟩

section Closing

variable {opener : Opener} {outer : List Opener}

theorem IsSound.of_openers
    (sound : progress.IsSound strikethrough)
    (isOpen : progress.openers = opener :: outer) :
    AreSound strikethrough opener.before ∧ ∀ opener ∈ outer, AreSound strikethrough opener.before :=
  List.forall_mem_cons.mp (isOpen ▸ sound.openers)

theorem IsSound.giveUp
    (sound : progress.IsSound strikethrough)
    (isOpen : progress.openers = opener :: outer) :
    (progress.giveUp opener outer).IsSound strikethrough := by
  obtain ⟨before, others⟩ := sound.of_openers isOpen
  exact ⟨sound.pieces.append (before.cons rfl), others⟩

theorem IsSound.complete
    (sound : progress.IsSound strikethrough)
    (isOpen : progress.openers = opener :: outer)
    (destination : List Char) :
    (progress.complete opener outer destination).IsSound strikethrough := by
  obtain ⟨before, others⟩ := sound.of_openers isOpen
  have inside : Inline.areSound strikethrough (Piece.pair progress.pieces.reverse) = true :=
    Piece.areSound_pairFrom nofun sound.pieces.reverse
  refine ⟨before.cons ?_, others⟩
  rw [Piece.isSound]
  split <;> exact inside

end Closing

theorem areSound_allPieces
    {pieces : List Piece}
    {openers : List Opener}
    (sound : AreSound strikethrough pieces)
    (before : ∀ opener ∈ openers, AreSound strikethrough opener.before) :
    AreSound strikethrough (allPieces pieces openers) := by
  induction openers generalizing pieces with
  | nil => exact sound
  | cons opener outer inductionHypothesis =>
      obtain ⟨first, others⟩ := List.forall_mem_cons.mp before
      exact inductionHypothesis (sound.append (first.cons rfl)) others

theorem IsSound.finish (sound : progress.IsSound strikethrough) :
    Inline.areSound strikethrough progress.finish = true :=
  Piece.areSound_pairFrom nofun (areSound_allPieces sound.pieces sound.openers).reverse

end Progress

/-! ## Steps of reading -/

/-- What reading a character does to what has been read: it adds a piece, opens a bracket, gives one up,
or completes a link or an image. -/
inductive Progress.Step
    (strikethrough : Bool)
    (progress : Progress) :
    Progress → Prop
  | push
      {piece : Piece}
      (sound : piece.isSound strikethrough = true)
      (ticks : TickMemory) :
      Step strikethrough progress (Progress.push piece { progress with ticks := ticks })
  | openBracket
      (isImage : Bool)
      (source : List Char) :
      Step strikethrough progress (progress.openBracket isImage source)
  | giveUp
      {opener : Opener}
      {outer : List Opener}
      (isOpen : progress.openers = opener :: outer) :
      Step strikethrough progress ((progress.giveUp opener outer).pushText [']'])
  | complete
      {opener : Opener}
      {outer : List Opener}
      (isOpen : progress.openers = opener :: outer)
      (destination : List Char)
      (expanded : Nat) :
      Step strikethrough progress
        { progress.complete opener outer destination with expanded := expanded }

section Reading

variable {setting : Setting} {progress : Progress}

theorem step_pushNode
    {inline : Inline}
    (sound : inline.isSound strikethrough = true) :
    Progress.Step strikethrough progress (progress.pushNode inline) :=
  @Progress.Step.push strikethrough progress (.node inline) sound progress.ticks

theorem step_readCloseBracket (after : List Char) :
    Progress.Step strikethrough progress (readCloseBracket setting after progress).2 := by
  rw [readCloseBracket]
  split
  · exact step_pushNode rfl
  · next opener outer isOpen =>
      dsimp only
      split
      · exact .giveUp isOpen
      · split
        · exact .complete isOpen _ progress.expanded
        · split
          · exact .giveUp isOpen
          · split
            · exact .giveUp isOpen
            · exact .complete isOpen _ _

theorem step_readAngleBracket (after : List Char) :
    Progress.Step strikethrough progress (readAngleBracket after progress).2 := by
  rw [readAngleBracket]
  split
  all_goals exact step_pushNode rfl

theorem step_readBackticks (after : List Char) :
    Progress.Step strikethrough progress (readBackticks after progress).2 := by
  simp only [readBackticks]
  split
  · exact step_pushNode rfl
  · split
    · exact .push rfl _
    · exact .push rfl _

theorem step_readRun
    (before : List Char)
    {c : Char}
    (isRun : c ≠ '~' ∨ setting.strikethrough = true)
    (after : List Char) :
    Progress.Step setting.strikethrough progress (readRun setting before c after progress).2 := by
  have char (length : Nat) (left right : Option Char) :
      (Run.ofSides c length left right).char = c := by
    rw [Run.ofSides]
    split <;> rfl
  simp only [readRun]
  split
  · refine .push ?_ progress.ticks
    simpa [Piece.isSound, Run.isSound, char] using isRun
  · exact step_pushNode rfl

theorem step_readBackslash (after : List Char) :
    Progress.Step strikethrough progress (readBackslash after progress).2 := by
  cases after with
  | nil => exact step_pushNode rfl
  | cons c rest =>
      rw [readBackslash]
      split
      · exact step_pushNode rfl
      · split <;> exact step_pushNode rfl

theorem step_readLineFeed (before after : List Char) :
    Progress.Step strikethrough progress (readLineFeed before after progress).2 := by
  unfold readLineFeed
  split <;> exact step_pushNode rfl

/-- Whatever a character begins, reading it is a step. -/
theorem step_readNext
    (before : List Char)
    (c : Char)
    (after : List Char) :
    Progress.Step setting.strikethrough progress (readNext setting before c after progress).2 := by
  unfold readNext
  split
  · exact step_readLineFeed before after
  split
  · exact step_readBackticks after
  split
  · exact step_readBackslash after
  split
  · split <;> exact step_pushNode rfl
  split
  · exact step_readAngleBracket after
  split
  · exact .openBracket _ _
  split
  · split
    · exact step_pushNode rfl
    · exact .openBracket _ _
    · exact step_pushNode rfl
  split
  · exact step_readCloseBracket after
  split
  · next isRun =>
      refine step_readRun before ?_ after
      rcases isRun with rfl | rfl | ⟨on, -⟩
      · exact .inl (by decide)
      · exact .inl (by decide)
      · exact .inr on
  · exact step_pushNode rfl

/-- What every step keeps is true of all that is read. -/
theorem readFrom_induction
    {invariant : Progress → Prop}
    (keeps : ∀ progress next, invariant progress →
      Progress.Step setting.strikethrough progress next → invariant next)
    (holds : invariant progress)
    (before text : List Char) :
    invariant (readFrom setting before text progress) := by
  fun_induction readFrom setting before text progress with
  | case1 before progress => exact holds
  | case2 before c after progress more next isNext inductionHypothesis =>
      have step := @step_readNext setting progress before c after
      rw [isNext] at step
      exact inductionHypothesis (keeps progress next holds step)

end Reading

/-- A step keeps what has been read sound. -/
theorem Progress.IsSound.step
    {progress next : Progress}
    (sound : progress.IsSound strikethrough)
    (step : progress.Step strikethrough next) :
    next.IsSound strikethrough := by
  cases step with
  | push isSound ticks => exact ⟨sound.pieces.cons isSound, sound.openers⟩
  | openBracket isImage source => exact sound.openBracket isImage source
  | giveUp isOpen => exact (sound.giveUp isOpen).pushText [']']
  | complete isOpen destination expanded =>
      have completed := sound.complete isOpen destination
      exact ⟨completed.pieces, completed.openers⟩

/-- What is read of a text holds deleted text only if that is admitted. -/
theorem areSound_readInlines
    (setting : Setting)
    (expanded : Nat)
    (text : List Char) :
    Inline.areSound setting.strikethrough (readInlines setting expanded text).1 = true :=
  (readFrom_induction (fun _ _ sound step => sound.step step) (Progress.isSound_start expanded) [] _).finish

end Reader
end Markdown
end TwinEditor
