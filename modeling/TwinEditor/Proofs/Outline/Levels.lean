import Mathlib.Algebra.Ring.Nat
import TwinEditor.Proofs.Outline.Nesting

/-!
# Levels of an outline

An outline counts its headings by the levels from one to three and names the counts in its
summary. An extraction leaves out what is deeper than three, but not what is less deep than one:
a heading of depth zero, which no text has but a tree from outside may have, is listed and belongs
to none of the counts. The counts are complete exactly if no heading at the top of the document
has depth zero.
-/

namespace TwinEditor
namespace Outline

/-! ## Counting -/

/-- Of levels up to three, those that are not zero are the first three. -/
theorem length_eq_sum_counts
    (levels : List UInt8)
    (within : ∀ level ∈ levels, level ≤ 3) :
    levels.length = levels.count 0 + (levels.count 1 + levels.count 2 + levels.count 3) := by
  induction levels with
  | nil => rfl
  | cons level rest inductionHypothesis =>
      have restCounted := inductionHypothesis fun other member =>
        within other (List.mem_cons_of_mem level member)
      have cases : level = 0 ∨ level = 1 ∨ level = 2 ∨ level = 3 := by
        have bound : level ≤ 3 := within level List.mem_cons_self
        grind
      rcases cases with rfl | rfl | rfl | rfl <;>
        simp [restCounted] <;> omega

/-- The levels of all headings in document order. -/
def levels (outline : Outline) : List UInt8 :=
  outline.flatten.map (·.2.entry.level)

theorem countAt_eq_count
    (outline : Outline)
    (level : UInt8) :
    outline.countAt level = outline.levels.count level := by
  rw [countAt, levels, List.count, List.countP_map]
  rfl

theorem length_levels (outline : Outline) :
    outline.levels.length = outline.headingCount :=
  List.length_map _

theorem sum_levelCounts_eq (outline : Outline) :
    outline.levelCounts.sum =
      outline.levels.count 1 + outline.levels.count 2 + outline.levels.count 3 := by
  simp only [levelCounts, countAt_eq_count, List.sum_cons, List.sum_nil]
  omega

/-- An outline without deep headings counts all but those of level zero. -/
theorem headingCount_eq
    (outline : Outline)
    (within : ∀ level ∈ outline.levels, level ≤ 3) :
    outline.headingCount = outline.levels.count 0 + outline.levelCounts.sum := by
  rw [← length_levels, length_eq_sum_counts outline.levels within, sum_levelCounts_eq]

theorem isEmpty_iff_headingCount_eq_zero (outline : Outline) :
    outline.isEmpty = true ↔ outline.headingCount = 0 := by
  obtain ⟨headings⟩ := outline
  match headings with
  | [] => exact iff_of_true rfl rfl
  | .mk entry children :: rest =>
      refine iff_of_false (by simp [isEmpty]) ?_
      simp [headingCount, flatten, Heading.flattenAll, Heading.flatten]

/-! ## Summaries -/

/-- What a summary says about a level with a number of headings. -/
def summaryPart (level count : Nat) : List String :=
  if count = 0 then [] else [toString count ++ " H" ++ toString level]

/-- What a summary says about all levels. -/
def summaryParts (outline : Outline) : List String :=
  summaryPart 1 (outline.levels.count 1) ++
    (summaryPart 2 (outline.levels.count 2) ++ summaryPart 3 (outline.levels.count 3))

theorem summary_eq (outline : Outline) :
    outline.summary =
      if outline.summaryParts = [] then "No headings" else ", ".intercalate outline.summaryParts := by
  have parts : (outline.levelCounts.mapIdx fun index count =>
      summaryPart (index + 1) count).flatten = outline.summaryParts := by
    simp [levelCounts, countAt_eq_count, summaryParts]
  unfold summary
  dsimp only
  split
  next none => exact (if_pos (parts.symm.trans none)).symm
  next some => exact (congrArg _ parts).trans (if_neg (parts ▸ some)).symm

theorem summaryParts_eq_nil_iff (outline : Outline) :
    outline.summaryParts = [] ↔ outline.levelCounts.sum = 0 := by
  have part (level count : Nat) : summaryPart level count = [] ↔ count = 0 := by
    rw [summaryPart]
    split <;> simp_all
  rw [summaryParts, List.append_eq_nil_iff, List.append_eq_nil_iff, part, part, part,
    sum_levelCounts_eq]
  omega

/-- Whether a text begins with a digit. -/
def beginsWithDigit (text : List Char) : Bool :=
  text.head?.any Char.isDigit

theorem beginsWithDigit_append
    {text : List Char}
    (begins : beginsWithDigit text = true)
    (more : List Char) :
    beginsWithDigit (text ++ more) = true := by
  cases text with
  | nil => cases begins
  | cons c rest => exact begins

theorem beginsWithDigit_toDigits (number : Nat) :
    beginsWithDigit (Nat.toDigits 10 number) = true := by
  cases digits : Nat.toDigits 10 number with
  | nil => exact absurd digits Nat.toDigits_ne_nil
  | cons digit rest =>
      exact Nat.isDigit_of_mem_toDigits (n := number) (by decide) (by decide)
        (digits ▸ List.mem_cons_self)

theorem beginsWithDigit_of_mem_summaryPart
    {level count : Nat}
    {part : String}
    (member : part ∈ summaryPart level count) :
    beginsWithDigit part.toList = true := by
  rw [summaryPart] at member
  split at member
  · cases member
  · rw [List.mem_singleton.mp member, String.toList_append, String.toList_append]
    apply beginsWithDigit_append
    apply beginsWithDigit_append
    show beginsWithDigit count.repr.toList = true
    rw [Nat.toList_repr]
    exact beginsWithDigit_toDigits count

/-- A summary that says something begins with a count. -/
theorem beginsWithDigit_summary
    {outline : Outline}
    (some : outline.summaryParts ≠ []) :
    beginsWithDigit outline.summary.toList = true := by
  have begins : ∀ part ∈ outline.summaryParts, beginsWithDigit part.toList = true := by
    intro part member
    simp only [summaryParts, List.mem_append] at member
    rcases member with first | second | third
    · exact beginsWithDigit_of_mem_summaryPart first
    · exact beginsWithDigit_of_mem_summaryPart second
    · exact beginsWithDigit_of_mem_summaryPart third
  rw [summary_eq, if_neg some, String.toList_intercalate]
  cases parts : outline.summaryParts with
  | nil => exact absurd parts some
  | cons part rest =>
      have first := begins part (parts ▸ List.mem_cons_self)
      cases rest with
      | nil => simpa using first
      | cons next others =>
          rw [List.map_cons, List.map_cons, List.intercalate_cons_cons, List.append_assoc]
          exact beginsWithDigit_append first _

/-- A summary says that there are no headings exactly if it has counted none. -/
theorem summary_eq_no_headings_iff (outline : Outline) :
    outline.summary = "No headings" ↔ outline.levelCounts.sum = 0 := by
  rw [← summaryParts_eq_nil_iff]
  constructor
  · intro same
    by_contra some
    have begins := beginsWithDigit_summary some
    rw [same] at begins
    revert begins
    decide
  · intro none
    rw [summary_eq, if_pos none]

/-! ## Extraction -/

/-- Whether a block is a heading of depth zero. -/
def isUnleveled : Markdown.Node → Bool
  | .heading depth _ => depth == 0
  | _ => false

namespace Extractor

/-- The levels of an outline are the depths of the listed blocks. -/
theorem levels_extract
    (extractor : Extractor)
    (tree : Markdown.Tree) :
    (extractor.extract tree).1.levels = (tree.children.filterMap listed?).map (·.1) := by
  have entries := congrArg (List.map (·.level)) (entries_flatten (extractor.extract tree).1)
  rw [entries_extract, List.map_map] at entries
  rw [← extractor.number_map (tree.children.filterMap listed?), List.map_map]
  exact entries

theorem le_of_mem_levels_extract
    (extractor : Extractor)
    (tree : Markdown.Tree) :
    ∀ level ∈ (extractor.extract tree).1.levels, level ≤ 3 := by
  intro level member
  rw [levels_extract] at member
  obtain ⟨⟨_, text⟩, listed, rfl⟩ := List.mem_map.mp member
  obtain ⟨node, _, found⟩ := List.mem_filterMap.mp listed
  cases node with
  | heading depth children =>
      rw [listed?] at found
      split at found
      · next shallow =>
          cases found
          exact shallow
      · cases found
  | _ => cases found

theorem zero_mem_levels_extract_iff
    (extractor : Extractor)
    (tree : Markdown.Tree) :
    0 ∈ (extractor.extract tree).1.levels ↔ tree.children.any isUnleveled = true := by
  rw [levels_extract, List.any_eq_true]
  constructor
  · intro member
    obtain ⟨⟨_, text⟩, listed, rfl⟩ := List.mem_map.mp member
    obtain ⟨node, inside, found⟩ := List.mem_filterMap.mp listed
    refine ⟨node, inside, ?_⟩
    cases node with
    | heading depth children =>
        rw [listed?] at found
        split at found
        · cases found
          rfl
        · cases found
    | _ => cases found
  · rintro ⟨node, inside, unleveled⟩
    cases node with
    | heading depth children =>
        obtain rfl : depth = 0 := by simpa [isUnleveled] using unleveled
        exact List.mem_map.mpr ⟨(0, _), List.mem_filterMap.mpr ⟨_, inside, rfl⟩, rfl⟩
    | _ => cases unleveled

/-- The counts of an outline add up to the number of its headings, every listed heading has a level
from one to three, and the summary says that there are no headings exactly if there are none: all
this holds exactly of the documents without a heading of depth zero at the top. -/
theorem levels_counted_iff
    (extractor : Extractor)
    (tree : Markdown.Tree) :
    ((extractor.extract tree).1.levelCounts.sum = (extractor.extract tree).1.headingCount ∧
      (∀ listed ∈ (extractor.extract tree).1.flatten,
        1 ≤ listed.2.entry.level ∧ listed.2.entry.level ≤ 3) ∧
      ((extractor.extract tree).1.summary = "No headings" ↔
        (extractor.extract tree).1.isEmpty = true)) ↔
    tree.children.any isUnleveled = false := by
  have counted := headingCount_eq _ (le_of_mem_levels_extract extractor tree)
  have unleveled := zero_mem_levels_extract_iff extractor tree
  have within : ∀ listed ∈ (extractor.extract tree).1.flatten,
      listed.2.entry.level ∈ (extractor.extract tree).1.levels :=
    fun listed member => List.mem_map_of_mem member
  constructor
  · rintro ⟨sum, _, _⟩
    have none : (extractor.extract tree).1.levels.count 0 = 0 := by omega
    rw [← Bool.not_eq_true, ← unleveled]
    exact List.count_eq_zero.mp none
  · intro leveled
    have absent : 0 ∉ (extractor.extract tree).1.levels := by
      rw [unleveled, leveled]
      exact Bool.false_ne_true
    have sum : (extractor.extract tree).1.levelCounts.sum =
        (extractor.extract tree).1.headingCount := by
      rw [counted, List.count_eq_zero.mpr absent, Nat.zero_add]
    refine ⟨sum, ?_, ?_⟩
    · intro listed member
      refine ⟨?_, le_of_mem_levels_extract extractor tree _ (within listed member)⟩
      have positive : listed.2.entry.level ≠ 0 := by
        intro zero
        exact absent (zero ▸ within listed member)
      grind
    · rw [summary_eq_no_headings_iff, sum, isEmpty_iff_headingCount_eq_zero]

/-- A heading of depth zero is listed and not counted, so that the summary denies it. -/
theorem depth_zero_listed_not_counted :
    ((start.extract ⟨[.heading 0 [.text "A"]]⟩).1.headingCount = 1 ∧
      (start.extract ⟨[.heading 0 [.text "A"]]⟩).1.levelCounts = [0, 0, 0] ∧
      (start.extract ⟨[.heading 0 [.text "A"]]⟩).1.flatten.map (·.2.entry.level) = [0] ∧
      (start.extract ⟨[.heading 0 [.text "A"]]⟩).1.summary = "No headings" ∧
      (start.extract ⟨[.heading 0 [.text "A"]]⟩).1.isEmpty = false) := by
  decide

end Extractor
end Outline
end TwinEditor
