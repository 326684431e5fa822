import Mathlib.Algebra.Ring.Nat
import Mathlib.Data.List.Nodup
import TwinEditor.Proofs.Outline.Nesting

/-!
# Identifiers of headings

An extractor numbers headings in the order of the documents from one on, across all extractions
since it began or was reset. As long as its counter does not run over, no two headings of an
outline share an identifier, so that looking one up finds the heading that has it.
-/

namespace TwinEditor
namespace Outline

/-- Different numbers have different identifiers, since a number can be read off its digits. -/
theorem identifier_injective : Function.Injective identifier := by
  intro first second same
  have digits : Nat.toDigits 10 first = Nat.toDigits 10 second :=
    String.ofList_injective ((String.append_right_inj "heading-").mp same)
  have value (number : Nat) : Nat.ofDigitChars 10 (Nat.toDigits 10 number) 0 = number :=
    Nat.ofDigitChars_toDigits (by decide) (by decide)
  rw [← value first, digits, value]

/-- The entry of a listed block with a number. -/
def Entry.ofNumbered (numbered : (UInt8 × String) × Nat) : Entry where
  id := "heading-" ++ toString numbered.2
  text := numbered.1.2
  level := numbered.1.1

/-- The entries of blocks in a row that are numbered from a first number on. -/
def entriesFrom (first : Nat) (blocks : List (UInt8 × String)) : List Entry :=
  (blocks.zipIdx first).map Entry.ofNumbered

theorem entriesFrom_append
    (first : Nat)
    (blocks later : List (UInt8 × String)) :
    entriesFrom first (blocks ++ later) =
      entriesFrom first blocks ++ entriesFrom (first + blocks.length) later := by
  rw [entriesFrom, List.zipIdx_append, List.map_append]
  rfl

theorem length_entriesFrom
    (first : Nat)
    (blocks : List (UInt8 × String)) :
    (entriesFrom first blocks).length = blocks.length := by
  rw [entriesFrom, List.length_map, List.length_zipIdx]

/-- Blocks with different numbers have different identifiers. -/
theorem nodup_entriesFrom
    (first : Nat)
    (blocks : List (UInt8 × String)) :
    ((entriesFrom first blocks).map (·.id)).Nodup := by
  have ids : (entriesFrom first blocks).map (·.id) =
      (List.range' first blocks.length).map identifier := by
    rw [entriesFrom, List.map_map, ← List.zipIdx_map_snd first blocks, List.map_map]
    rfl
  rw [ids]
  exact (List.nodup_range' 1).map identifier_injective

/-! ## Looking up identifiers -/

/-- When no two headings share an identifier, each is found by its own and nothing else is found. -/
theorem find?_of_nodup
    {outline : Outline}
    (distinct : (outline.flatten.map (·.2.entry.id)).Nodup) :
    (∀ listed ∈ outline.flatten, outline.find? listed.2.entry.id = some listed.2) ∧
      ∀ id, id ∉ outline.flatten.map (·.2.entry.id) → outline.find? id = none := by
  constructor
  · intro listed member
    have present : listed.2 ∈ outline.flatten.map (·.2) := List.mem_map_of_mem member
    have distinctHeadings : ((outline.flatten.map (·.2)).map (·.entry.id)).Nodup := by
      rwa [List.map_map]
    cases found : outline.find? listed.2.entry.id with
    | none =>
        have absent := List.find?_eq_none.mp found listed.2 present
        exact absurd (beq_self_eq_true _) absent
    | some heading =>
        have foundMember : heading ∈ outline.flatten.map (·.2) := List.mem_of_find?_eq_some found
        have sameId : heading.entry.id = listed.2.entry.id := by
          simpa using List.find?_some found
        exact congrArg some
          (List.inj_on_of_nodup_map distinctHeadings foundMember present sameId)
  · intro id absent
    apply List.find?_eq_none.mpr
    intro heading member same
    obtain ⟨listed, listedMember, rfl⟩ := List.mem_map.mp member
    apply absent
    exact List.mem_map.mpr ⟨listed, listedMember, by simpa using same⟩

/-! ## Extractions -/

namespace Extractor

/-- A counter that does not run over issues the next number. -/
theorem issued_issue
    {extractor : Extractor}
    (few : extractor.issued + 1 < UInt64.size) :
    extractor.issue.2.issued = extractor.issued + 1 ∧
      extractor.issue.1 = identifier (extractor.issued + 1) := by
  have next : (extractor.counter + 1).toNat = extractor.counter.toNat + 1 := by
    rw [UInt64.toNat_add]
    exact Nat.mod_eq_of_lt few
  exact ⟨next, congrArg identifier next⟩

/-- A counter that does not run over numbers blocks one after another. -/
theorem number_eq
    (extractor : Extractor)
    (blocks : List (UInt8 × String))
    (few : extractor.issued + blocks.length < UInt64.size) :
    (extractor.number blocks).1 = entriesFrom (extractor.issued + 1) blocks ∧
      (extractor.number blocks).2.issued = extractor.issued + blocks.length := by
  induction blocks generalizing extractor with
  | nil => exact ⟨rfl, rfl⟩
  | cons block rest inductionHypothesis =>
      rw [List.length_cons] at few ⊢
      obtain ⟨issuedEq, idEq⟩ := @issued_issue extractor (by omega)
      obtain ⟨entriesEq, counterEq⟩ := inductionHypothesis extractor.issue.2
        (by rw [issuedEq]; omega)
      rw [issuedEq] at entriesEq counterEq
      refine ⟨?_, ?_⟩
      · rw [number, entriesEq, idEq]
        rfl
      · rw [number, counterEq]
        omega

/-- The blocks of a document that are listed in its outline. -/
def blocks (tree : Markdown.Tree) : List (UInt8 × String) :=
  tree.children.filterMap listed?

/-- An outline has the listed blocks of its document for entries, numbered from the one after the
last identifier that was issued before. -/
theorem entries_extract_of_few
    {extractor : Extractor}
    {tree : Markdown.Tree}
    (few : extractor.issued + (blocks tree).length < UInt64.size) :
    (extractor.extract tree).1.flatten.map (·.2.entry) =
        entriesFrom (extractor.issued + 1) (blocks tree) ∧
      (extractor.extract tree).2.issued = extractor.issued + (blocks tree).length := by
  obtain ⟨entriesEq, counterEq⟩ := extractor.number_eq (blocks tree) few
  rw [entries_flatten, entries_extract, ← counterEq]
  exact ⟨entriesEq, congrArg issued (foldl_visit tree.children (extractor, .empty)).1⟩

/-- What an extractor is asked for. -/
inductive Call
  | extract (tree : Markdown.Tree)
  | reset

/-- How many identifiers a call needs. -/
def Call.size : Call → Nat
  | .extract tree => (blocks tree).length
  | .reset => 0

/-- An extractor with all that has been made by it. -/
structure Series where
  extractor : Extractor
  /-- The documents whose outlines were made since the extractor began or was reset last, with
  these outlines, in order. -/
  current : List (Markdown.Tree × Outline)
  /-- The outlines that were made before that. -/
  former : List Outline

namespace Series

/-- A new extractor. -/
def start : Series :=
  ⟨.start, [], []⟩

/-- All outlines that have been made. -/
def outlines (series : Series) : List Outline :=
  series.former ++ series.current.map (·.2)

/-- Answer a call. -/
def perform (series : Series) : Call → Series
  | .extract tree =>
      { series with
        extractor := (series.extractor.extract tree).2
        current := series.current ++ [(tree, (series.extractor.extract tree).1)] }
  | .reset => ⟨series.extractor.reset, [], series.outlines⟩

/-- Answer calls one after another. -/
def follow (series : Series) (calls : List Call) : Series :=
  calls.foldl perform series

/-- The entries of the outlines made since the last reset. -/
def entries (series : Series) : List Entry :=
  series.current.flatMap fun made => made.2.flatten.map (·.2.entry)

/-- The listed blocks of the documents taken since the last reset. -/
def blocks (series : Series) : List (UInt8 × String) :=
  series.current.flatMap fun made => Extractor.blocks made.1

/-- What holds of an extractor whose counter has not run over. -/
structure Sound (series : Series) : Prop where
  entries_eq : series.entries = entriesFrom 1 series.blocks
  issued_eq : series.extractor.issued = series.blocks.length
  numbered : ∀ outline ∈ series.outlines, ∃ first blocks,
    outline.flatten.map (·.2.entry) = entriesFrom first blocks

theorem sound_start : start.Sound where
  entries_eq := rfl
  issued_eq := rfl
  numbered _ member := by cases member

variable {series : Series}

theorem Sound.reset (sound : series.Sound) : (series.perform .reset).Sound where
  entries_eq := rfl
  issued_eq := rfl
  numbered outline member := by
    rw [outlines, perform, List.map_nil, List.append_nil] at member
    exact sound.numbered outline member

theorem Sound.extract
    (sound : series.Sound)
    {tree : Markdown.Tree}
    (few : series.extractor.issued + (Extractor.blocks tree).length < UInt64.size) :
    (series.perform (.extract tree)).Sound := by
  obtain ⟨entriesEq, counterEq⟩ := entries_extract_of_few few
  have moreBlocks : (series.perform (.extract tree)).blocks =
      series.blocks ++ Extractor.blocks tree := by
    simp only [blocks, perform, List.flatMap_append, List.flatMap_singleton]
  have moreEntries : (series.perform (.extract tree)).entries =
      series.entries ++ entriesFrom (series.extractor.issued + 1) (Extractor.blocks tree) := by
    simp only [entries, perform, List.flatMap_append, List.flatMap_singleton, entriesEq]
  refine ⟨?_, ?_, ?_⟩
  · rw [moreEntries, moreBlocks, entriesFrom_append, ← sound.entries_eq, sound.issued_eq,
      Nat.add_comm]
  · rw [moreBlocks, List.length_append, ← sound.issued_eq]
    exact counterEq
  · intro outline member
    simp only [outlines, perform, List.map_append, ← List.append_assoc] at member
    rcases List.mem_append.mp member with older | new
    · exact sound.numbered outline older
    · obtain rfl := List.mem_singleton.mp new
      exact ⟨_, _, entriesEq⟩

/-- A call whose numbers are at hand keeps an extractor sound and issues no more than it needs. -/
theorem Sound.perform
    (sound : series.Sound)
    (call : Call)
    (few : series.extractor.issued + call.size < UInt64.size) :
    (series.perform call).Sound ∧
      (series.perform call).extractor.issued ≤ series.extractor.issued + call.size := by
  cases call with
  | extract tree => exact ⟨sound.extract few, (entries_extract_of_few few).2.le⟩
  | reset => exact ⟨sound.reset, Nat.zero_le _⟩

theorem Sound.follow
    (calls : List Call)
    {series : Series}
    (sound : series.Sound)
    (few : series.extractor.issued + (calls.map Call.size).sum < UInt64.size) :
    (series.follow calls).Sound := by
  induction calls generalizing series with
  | nil => exact sound
  | cons call rest inductionHypothesis =>
      rw [List.map_cons, List.sum_cons] at few
      obtain ⟨performed, issued_le⟩ := sound.perform call (by omega)
      exact inductionHypothesis performed (by omega)

/-- Whatever an extractor is asked for, the headings of the documents taken since it began or was
reset last are numbered from one on in the order of the documents, and as many identifiers have
been issued. In every outline that it has made no two headings share an identifier, each heading is
found by its own, and nothing is found by any other text. -/
theorem headings_numbered_and_found
    (calls : List Call)
    (few : (calls.map Call.size).sum < UInt64.size) :
    ((start.follow calls).current.flatMap fun made => made.2.flatten.map (·.2.entry)) =
      (((start.follow calls).current.flatMap fun made =>
        made.1.children.filterMap listed?).zipIdx 1).map Entry.ofNumbered ∧
    (start.follow calls).extractor.issued =
      ((start.follow calls).current.flatMap fun made => made.2.flatten).length ∧
    ∀ outline ∈ (start.follow calls).outlines,
      (outline.flatten.map (·.2.entry.id)).Nodup ∧
      (∀ listed ∈ outline.flatten, outline.find? listed.2.entry.id = some listed.2) ∧
      ∀ id, id ∉ outline.flatten.map (·.2.entry.id) → outline.find? id = none := by
  have sound : (start.follow calls).Sound := by
    apply sound_start.follow
    rwa [show start.extractor.issued = 0 from rfl, Nat.zero_add]
  refine ⟨sound.entries_eq, ?_, ?_⟩
  · have count := congrArg List.length sound.entries_eq
    rwa [entries, ← List.map_flatMap, List.length_map, length_entriesFrom, ← sound.issued_eq,
      eq_comm] at count
  · intro outline member
    obtain ⟨first, blocks, entriesEq⟩ := sound.numbered outline member
    have distinct : (outline.flatten.map (·.2.entry.id)).Nodup := by
      have nodup := nodup_entriesFrom first blocks
      rwa [← entriesEq, List.map_map] at nodup
    exact ⟨distinct, find?_of_nodup distinct⟩

/-- Calls with a reset between extractions. -/
def callsWithReset : List Call :=
  [.extract ⟨[.heading 1 [.text "A"], .paragraph [.text "B"], .heading 2 [.text "C"]]⟩,
    .reset,
    .extract ⟨[.heading 2 [.text "D"], .heading 4 [.text "E"], .heading 1 [.text "F"]]⟩,
    .extract ⟨[.heading 3 []]⟩]

/-- Numbers begin anew after a reset and go on from one outline to the next. -/
theorem headings_numbered_and_found_of_reset :
    (callsWithReset.map Call.size).sum < UInt64.size ∧
      ((start.follow callsWithReset).current.flatMap fun made =>
        made.2.flatten.map (·.2.entry)) =
        [⟨"heading-1", "D", 2⟩, ⟨"heading-2", "F", 1⟩, ⟨"heading-3", "", 3⟩] ∧
      ∀ outline ∈ (start.follow callsWithReset).outlines,
        (outline.flatten.map (·.2.entry.id)).Nodup := by
  have few : (callsWithReset.map Call.size).sum < UInt64.size := by decide
  obtain ⟨entriesEq, -, found⟩ := headings_numbered_and_found callsWithReset few
  refine ⟨few, entriesEq.trans ?_, ?_⟩
  · decide
  · intro outline made
    exact (found outline made).1

end Series
end Extractor
end Outline
end TwinEditor
