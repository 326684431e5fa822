import TwinEditor.Proofs.Markdown.Leaves
import TwinEditor.Proofs.Markdown.Marks
import TwinEditor.Proofs.Markdown.WrittenLines

/-!
# Reading code

Code is written between runs of backticks that are longer than every run inside it, so that reading finds
the run that closes it. Spaces are added where backticks or spaces stand at the ends of the code.
-/

namespace TwinEditor

namespace Text

theorem longestRun_go_space
    {target : Char}
    (other : ' ' ≠ target)
    (longest current : Nat)
    (text : List Char) :
    longestRun.go target longest current (text ++ [' ']) = longestRun.go target longest current text := by
  fun_induction longestRun.go target longest current text with
  | case1 longest current => simp [longestRun.go, other]
  | case2 longest current rest inductionHypothesis =>
      rw [List.cons_append, longestRun.go, if_pos rfl, inductionHypothesis]
  | case3 longest current c rest different inductionHypothesis =>
      rw [List.cons_append, longestRun.go, if_neg different, inductionHypothesis]

/-- Spaces around a text do not change its runs of another character. -/
theorem longestRun_spaces
    {target : Char}
    (other : ' ' ≠ target)
    (text : List Char) :
    longestRun target (' ' :: (text ++ [' '])) = longestRun target text := by
  rw [longestRun, longestRun.go, if_neg other, longestRun_go_space other, longestRun]

end Text

namespace Markdown
namespace Reader

section Ticks

variable {setting : Setting} {links : Bool} {before tail : List Char}

/-! ## Runs of backticks -/

theorem reachedEnd_see
    (memory : TickMemory)
    (length distance : Nat) :
    (memory.see length distance).reachedEnd = memory.reachedEnd := by
  rw [TickMemory.see]
  split <;> rfl

/-- A text with a backtick in it begins with a text without one and a whole run of them. -/
theorem exists_eq_replicate_append
    {text : List Char}
    (member : '\x60' ∈ text) :
    ∃ plain length rest, text = plain ++ (List.replicate (length + 1) '\x60' ++ rest) ∧
      '\x60' ∉ plain ∧ rest.head? ≠ some '\x60' := by
  induction text with
  | nil => cases member
  | cons c text inductionHypothesis =>
      by_cases isTick : c = '\x60'
      · subst isTick
        refine ⟨[], (text.takeWhile (· == '\x60')).length, text.dropWhile (· == '\x60'), ?_,
          List.not_mem_nil, fun isTick => ?_⟩
        · have run : text.takeWhile (· == '\x60') =
              List.replicate (text.takeWhile (· == '\x60')).length '\x60' :=
            List.eq_replicate_iff.mpr ⟨rfl, fun c member =>
              eq_of_beq (List.all_eq_true.mp List.all_takeWhile c member)⟩
          rw [List.replicate_succ, ← run, List.nil_append, List.cons_append,
            List.takeWhile_append_dropWhile]
        · have other := List.head?_dropWhile_not (· == '\x60') text
          rw [isTick] at other
          cases other
      · obtain ⟨plain, length, rest, rfl, noTick, ends⟩ :=
          inductionHypothesis ((List.mem_cons.mp member).resolve_left (Ne.symm isTick))
        exact ⟨c :: plain, length, rest, rfl, by simp [noTick, Ne.symm isTick], ends⟩

/-- The text up to the first run of backticks, and what a search does there. -/
theorem search_eq_of_run
    {plain rest : List Char}
    (noTick : '\x60' ∉ plain)
    (ends : rest.head? ≠ some '\x60')
    (length run bound : Nat)
    (passed : List Char)
    (memory : TickMemory) :
    TickMemory.search length (bound + 1) passed
        (plain ++ (List.replicate (run + 1) '\x60' ++ rest)) memory =
      let memory := memory.see (run + 1) (List.replicate (run + 1) '\x60' ++ rest).length
      if run + 1 = length then (some (passed ++ plain, rest), memory)
      else TickMemory.search length bound
        (passed ++ plain ++ List.replicate (run + 1) '\x60') rest memory := by
  have isPlain : ∀ c ∈ plain, (c != '\x60') = true := fun c member => by
    simpa using fun same : c = '\x60' => noTick (same ▸ member)
  have before : (plain ++ (List.replicate (run + 1) '\x60' ++ rest)).takeWhile (· != '\x60') =
      plain := by
    rw [List.takeWhile_append_of_pos isPlain, List.replicate_succ, List.cons_append,
      List.takeWhile_cons_of_neg (by decide), List.append_nil]
  have after : (plain ++ (List.replicate (run + 1) '\x60' ++ rest)).dropWhile (· != '\x60') =
      List.replicate (run + 1) '\x60' ++ rest := by
    rw [List.dropWhile_append_of_pos isPlain, List.replicate_succ, List.cons_append,
      List.dropWhile_cons_of_neg (by decide)]
  have filled : (List.replicate (run + 1) '\x60' ++ rest).isEmpty = false := rfl
  rw [TickMemory.search, before, after, filled, if_neg Bool.false_ne_true,
    takeWhile_replicate_append ends, dropWhile_replicate_append ends]
  dsimp only
  rw [List.length_replicate]

/-- A search for a run of backticks finds the first one of its length behind a text that has none of
that length. -/
theorem exists_search_eq
    {length : Nat}
    {content : List Char}
    (other : ∀ run, List.replicate run '\x60' <:+: content → run < length)
    (last : content.getLast? ≠ some '\x60')
    (ends : tail.head? ≠ some '\x60')
    (positive : 0 < length)
    {bound : Nat}
    (enough : content.length < bound)
    (passed : List Char)
    {memory : TickMemory}
    (unended : memory.reachedEnd = false) :
    ∃ ticks : TickMemory, ticks.reachedEnd = false ∧
      TickMemory.search length bound passed (content ++ (List.replicate length '\x60' ++ tail)) memory =
        (some (passed ++ content, tail), ticks) := by
  induction bound generalizing content passed memory with
  | zero => cases enough
  | succ bound inductionHypothesis =>
      obtain ⟨fence, rfl⟩ := Nat.exists_eq_add_of_le' positive
      by_cases member : '\x60' ∈ content
      · obtain ⟨plain, run, rest, rfl, noTick, nextEnds⟩ := exists_eq_replicate_append member
        have shorter := other (run + 1)
          ⟨plain, rest, by rw [List.append_assoc]⟩
        have some : rest ≠ [] := by
          rintro rfl
          apply last
          simp [List.replicate_succ']
        have restLast : rest.getLast? ≠ .some '\x60' := by
          intro isLast
          apply last
          rw [List.getLast?_append, List.getLast?_append, isLast]
          rfl
        have afterEnds : (rest ++ (List.replicate (fence + 1) '\x60' ++ tail)).head? ≠ .some '\x60' := by
          obtain ⟨c, others, rfl⟩ := List.exists_cons_of_ne_nil some
          exact nextEnds
        have fewer : rest.length < bound := by
          simp only [List.length_append, List.length_replicate] at enough
          omega
        obtain ⟨ticks, unended', found⟩ := inductionHypothesis
          (fun more isRun => other more (isRun.trans
            ((List.suffix_append _ rest).trans (List.suffix_append _ _)).isInfix))
          restLast fewer (passed ++ plain ++ List.replicate (run + 1) '\x60')
          ((reachedEnd_see memory (run + 1) (List.replicate (run + 1) '\x60' ++
            (rest ++ (List.replicate (fence + 1) '\x60' ++ tail))).length).trans unended)
        refine ⟨ticks, unended', ?_⟩
        rw [List.append_assoc, List.append_assoc, search_eq_of_run noTick afterEnds]
        dsimp only
        rw [if_neg (Nat.ne_of_lt shorter), found]
        simp only [List.append_assoc]
      · refine ⟨_, (reachedEnd_see memory (fence + 1)
          (List.replicate (fence + 1) '\x60' ++ tail).length).trans unended, ?_⟩
        rw [search_eq_of_run member ends]
        dsimp only
        rw [if_pos rfl]

/-- Code between runs of backticks that are longer than all inside it. -/
theorem readsAs_code
    {length : Nat}
    {content : List Char}
    (other : ∀ run, List.replicate run '\x60' <:+: content → run < length)
    (first : content.head? ≠ some '\x60')
    (last : content.getLast? ≠ some '\x60')
    (some : content ≠ [])
    (ends : tail.head? ≠ .some '\x60')
    (positive : 0 < length)
    (short : length ≤ TickMemory.maxRun) :
    ReadsAs setting links before
      (List.replicate length '\x60' ++ (content ++ List.replicate length '\x60')) tail
      [.code (cleanCode content)] := by
  obtain ⟨more, rfl⟩ := Nat.exists_eq_add_of_le' positive
  rw [List.replicate_succ, List.cons_append, ← List.replicate_succ]
  refine readsAs_node nofun fun progress unended => ?_
  have contentEnds : (content ++ (List.replicate (more + 1) '\x60' ++ tail)).head? ≠ .some '\x60' := by
    obtain ⟨c, others, rfl⟩ := List.exists_cons_of_ne_nil some
    exact first
  obtain ⟨ticks, unended', found⟩ := exists_search_eq other last ends positive
    (show content.length < (content ++ (List.replicate (more + 1) '\x60' ++ tail)).length + 1 by
      rw [List.length_append]
      omega) [] unended
  refine ⟨ticks, unended', ?_⟩
  have isTick (after : List Char) : readNext setting before '\x60' after progress =
      readBackticks after progress := rfl
  have hopeful (distance : Nat) : progress.ticks.isHopeless (more + 1) distance = false := by
    rw [TickMemory.isHopeless, unended, decide_eq_false (Nat.not_lt.mpr short)]
    rfl
  rw [isTick, readBackticks, List.append_assoc, List.append_assoc,
    takeWhile_replicate_append contentEnds, dropWhile_replicate_append contentEnds,
    List.length_replicate, hopeful, if_neg Bool.false_ne_true]
  dsimp only
  rw [found]
  dsimp only
  rw [List.nil_append]
  congr 1
  simp only [List.length_append, List.length_replicate]
  omega

end Ticks

end Reader

/-! ## Written code -/

/-- Whether code comes back from what is written for it. Code of spaces and other white space between
them does not, and a fence may not be too long. -/
def isPlainCode (value : List Char) : Bool :=
  !value.isEmpty && !value.contains '\n' && Text.longestRun '\x60' value < Reader.TickMemory.maxRun &&
    !(value.head? == some ' ' && value.getLast? == some ' ' && value.all Text.isBlank &&
      !value.all (· == ' '))

/-- Whether code is written with a space at both ends. -/
def isPadded (value : List Char) : Bool :=
  value.head? == some '\x60' || value.getLast? == some '\x60' ||
    (value.head? == some ' ' && value.getLast? == some ' ' && !value.all Text.isBlank)

/-- Whether code is white space that begins and ends with a space but is not all spaces. It is written
without spaces around it, and reading takes its own off. -/
def isStripped (value : List Char) : Bool :=
  value.head? == some ' ' && value.getLast? == some ' ' && value.all Text.isBlank &&
    !value.all (· == ' ')

/-- What stands between the fences of written code. -/
def codeContent (value : List Char) : List Char :=
  if isPadded value then ' ' :: (value ++ [' ']) else value

section Code

variable {value : List Char}

theorem isPlainCode_iff :
    isPlainCode value = true ↔ value ≠ [] ∧ '\n' ∉ value ∧
      Text.longestRun '\x60' value < Reader.TickMemory.maxRun ∧ isStripped value = false := by
  rw [isPlainCode, ← isStripped]
  simp [and_assoc]

theorem codeSpan_eq
    (some : value ≠ []) :
    codeSpan value = List.replicate (Text.longestRun '\x60' value + 1) '\x60' ++
      (codeContent value ++ List.replicate (Text.longestRun '\x60' value + 1) '\x60') := by
  rw [codeSpan, if_neg (by simpa using some), codeContent]
  by_cases padded : isPadded value = true
  · rw [if_pos padded]
    exact (if_pos padded).trans (by simp)
  · rw [if_neg padded]
    exact (if_neg padded).trans (by simp)

theorem codeContent_ne_nil
    (some : value ≠ []) :
    codeContent value ≠ [] := by
  rw [codeContent]
  split
  · exact List.cons_ne_nil _ _
  · exact some

theorem head?_codeContent_ne : (codeContent value).head? ≠ some '\x60' := by
  rw [codeContent]
  split
  · simp
  · next plain =>
      intro isTick
      rw [isPadded, isTick] at plain
      exact plain rfl

theorem getLast?_codeContent_ne : (codeContent value).getLast? ≠ some '\x60' := by
  rw [codeContent]
  split
  · rw [← List.cons_append, List.getLast?_concat]
    decide
  · next plain =>
      intro isTick
      rw [isPadded, isTick] at plain
      exact plain (by simp)

/-- The fences are longer than every run between them. -/
theorem lt_of_isInfix_codeContent
    (run : Nat)
    (isRun : List.replicate run '\x60' <:+: codeContent value) :
    run < Text.longestRun '\x60' value + 1 := by
  have bound := Text.le_longestRun isRun
  have same : Text.longestRun '\x60' (codeContent value) = Text.longestRun '\x60' value := by
    rw [codeContent]
    split
    · exact Text.longestRun_spaces (by decide) value
    · rfl
  omega

theorem exists_ne_of_isPadded
    (padded : isPadded value = true) :
    ∃ c ∈ value, c ≠ ' ' := by
  simp only [isPadded, Bool.or_eq_true, beq_iff_eq, Bool.and_eq_true, Bool.not_eq_true',
    List.all_eq_false] at padded
  rcases padded with (first | last) | ⟨-, c, member, visible⟩
  · exact ⟨_, List.mem_of_head? first, by decide⟩
  · exact ⟨_, List.mem_of_getLast? last, by decide⟩
  · refine ⟨c, member, ?_⟩
    rintro rfl
    exact visible rfl

theorem cleanCode_eq
    (single : '\n' ∉ value) :
    Reader.cleanCode value =
      if value.head? = some ' ' ∧ value.getLast? = some ' ' ∧ ¬ value.all (· == ' ') then
        (value.drop 1).dropLast
      else value := by
  have oneLine : (value.map fun c => if c = '\n' then ' ' else c) = value :=
    Text.onOneLine_eq_self single
  rw [Reader.cleanCode, oneLine]

/-- Reading takes the spaces off again that writing has added, and no others. -/
theorem cleanCode_codeContent
    (single : '\n' ∉ value)
    (kept : isStripped value = false) :
    Reader.cleanCode (codeContent value) = value := by
  rw [codeContent]
  by_cases padded : isPadded value = true
  · obtain ⟨c, member, other⟩ := exists_ne_of_isPadded padded
    have visible : ¬ (' ' :: (value ++ [' '])).all (· == ' ') = true := by
      rw [List.all_eq_true]
      exact fun all => other (eq_of_beq (all c (by simp [member])))
    have last : (' ' :: (value ++ [' '])).getLast? = some ' ' := by
      rw [← List.cons_append, List.getLast?_concat]
    rw [if_pos padded, cleanCode_eq (by simp [single]), if_pos ⟨rfl, last, visible⟩, List.drop_one,
      List.tail_cons, List.dropLast_concat]
  · rw [if_neg padded, cleanCode_eq single, if_neg]
    rintro ⟨first, last, visible⟩
    rw [Bool.not_eq_true] at visible
    rw [isStripped, first, last, visible] at kept
    have someVisible : value.all Text.isBlank = false := by
      rwa [beq_self_eq_true, Bool.true_and, Bool.true_and, Bool.not_false, Bool.and_true] at kept
    rw [isPadded, first, last, someVisible] at padded
    exact padded rfl

/-- Reading takes the spaces off white space that was written without spaces around it. -/
theorem cleanCode_codeContent_ne
    (single : '\n' ∉ value)
    (stripped : isStripped value = true) :
    Reader.cleanCode (codeContent value) ≠ value := by
  rw [isStripped, Bool.and_eq_true, Bool.and_eq_true, Bool.and_eq_true, beq_iff_eq, beq_iff_eq,
    Bool.not_eq_true'] at stripped
  obtain ⟨⟨⟨first, last⟩, blank⟩, visible⟩ := stripped
  have plain : isPadded value = false := by
    rw [isPadded, first, last, blank]
    rfl
  have some : 0 < value.length := List.length_pos_iff.mpr (by rintro rfl; cases first)
  rw [codeContent, plain, if_neg Bool.false_ne_true, cleanCode_eq single,
    if_pos ⟨first, last, by simp [visible]⟩]
  intro same
  have length := congrArg List.length same
  rw [List.length_dropLast, List.length_drop] at length
  omega

/-- Written code is read as the code. -/
theorem readsAs_codeSpan
    {setting : Reader.Setting}
    {before tail : List Char}
    (plain : isPlainCode value = true)
    (links : Bool)
    (ends : tail.head? ≠ some '\x60') :
    Reader.ReadsAs setting links before (codeSpan value) tail [.code value] := by
  have reads := @Reader.readsAs_code setting links before tail
    (Text.longestRun '\x60' value + 1) (codeContent value) lt_of_isInfix_codeContent
    head?_codeContent_ne getLast?_codeContent_ne
  obtain ⟨some, single, short, kept⟩ := isPlainCode_iff.mp plain
  rw [cleanCode_codeContent single kept] at reads
  rw [codeSpan_eq some]
  exact reads (codeContent_ne_nil some) ends (Nat.succ_pos _) short

end Code

end Markdown
end TwinEditor
