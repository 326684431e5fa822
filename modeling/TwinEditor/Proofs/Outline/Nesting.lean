import Mathlib.Data.List.TakeWhile
import TwinEditor.Outline

/-!
# Headings stand in the nearest smaller one

An outline lists the headings that take part in document order. A heading stands in the latest
one before it whose level is smaller, and it is a root if there is none. A forest that is still
being made is read as if every open heading ended now: completing a heading changes nothing of
that reading, and adding one puts a place behind all others. The entries of the open headings
are those that a later heading can still stand in.
-/

namespace TwinEditor
namespace Outline

/-- A heading of a forest with the headings that it stands in, the innermost first. -/
structure Place where
  around : List Entry
  entry : Entry
  deriving DecidableEq

namespace Heading

mutual

/-- The places of a heading and of all beneath it in document order, given what it stands in. -/
def places (around : List Entry) : Heading → List Place
  | .mk entry children => ⟨around, entry⟩ :: placesAll (entry :: around) children

/-- The places of a forest in document order, given what it stands in. -/
def placesAll (around : List Entry) : List Heading → List Place
  | [] => []
  | heading :: rest => heading.places around ++ placesAll around rest

end

theorem placesAll_append
    (around : List Entry)
    (forest later : List Heading) :
    placesAll around (forest ++ later) = placesAll around forest ++ placesAll around later := by
  induction forest with
  | nil => rfl
  | cons heading rest inductionHypothesis =>
      rw [List.cons_append, placesAll, placesAll, inductionHypothesis, List.append_assoc]

theorem placesAll_singleton
    (around : List Entry)
    (heading : Heading) :
    placesAll around [heading] = heading.places around := by
  rw [placesAll, placesAll, List.append_nil]

mutual

/-- The nesting depth of a heading is the number of headings that it stands in. -/
theorem flatten_eq_places
    (around : List Entry) :
    (heading : Heading) →
    (heading.flatten around.length).map (fun listed => (listed.1, listed.2.entry)) =
      (heading.places around).map fun place => (place.around.length, place.entry)
  | .mk entry children => by
      rw [flatten, places, List.map_cons, List.map_cons]
      exact congrArg _ (flattenAll_eq_placesAll (entry :: around) children)

theorem flattenAll_eq_placesAll
    (around : List Entry) :
    (forest : List Heading) →
    (flattenAll around.length forest).map (fun listed => (listed.1, listed.2.entry)) =
      (placesAll around forest).map fun place => (place.around.length, place.entry)
  | [] => rfl
  | heading :: rest => by
      rw [flattenAll, placesAll, List.map_append, List.map_append,
        flatten_eq_places around heading, flattenAll_eq_placesAll around rest]

end

end Heading

/-- The places of all headings in document order. -/
def places (outline : Outline) : List Place :=
  Heading.placesAll [] outline.headings

theorem flatten_eq_places (outline : Outline) :
    outline.flatten.map (fun listed => (listed.1, listed.2.entry)) =
      outline.places.map fun place => (place.around.length, place.entry) :=
  Heading.flattenAll_eq_placesAll [] outline.headings

theorem entries_flatten (outline : Outline) :
    outline.flatten.map (·.2.entry) = outline.places.map (·.entry) := by
  have entries := congrArg (List.map Prod.snd) outline.flatten_eq_places
  rwa [List.map_map, List.map_map] at entries

/-! ## Entries that a later heading can stand in -/

/-- Of entries in a row, the latest first, those that an entry after them can stand in. -/
def enclosing : List Entry → List Entry
  | [] => []
  | entry :: earlier => entry :: (enclosing earlier).dropWhile (entry.level ≤ ·.level)

/-- An entry that is passed over hides no smaller one. -/
theorem find?_dropWhile_of_le
    {level bound : UInt8}
    (below : level ≤ bound)
    (entries : List Entry) :
    (entries.dropWhile (bound ≤ ·.level)).find? (·.level < level) =
      entries.find? (·.level < level) := by
  induction entries with
  | nil => rfl
  | cons entry rest inductionHypothesis =>
      by_cases passed : bound ≤ entry.level
      · have notSmaller : ¬ entry.level < level :=
          UInt8.not_lt.mpr (UInt8.le_trans below passed)
        rw [List.dropWhile_cons_of_pos (by simpa using passed), inductionHypothesis,
          List.find?_cons_of_neg (by simpa using notSmaller)]
      · rw [List.dropWhile_cons_of_neg (by simpa using passed)]

/-- The nearest smaller entry is among those that a later one can stand in. -/
theorem find?_enclosing
    (level : UInt8)
    (earlier : List Entry) :
    (enclosing earlier).find? (·.level < level) = earlier.find? (·.level < level) := by
  induction earlier with
  | nil => rfl
  | cons entry rest inductionHypothesis =>
      rw [enclosing]
      by_cases smaller : entry.level < level
      · rw [List.find?_cons_of_pos (by simpa using smaller),
          List.find?_cons_of_pos (by simpa using smaller)]
      · rw [List.find?_cons_of_neg (by simpa using smaller),
          List.find?_cons_of_neg (by simpa using smaller),
          find?_dropWhile_of_le (UInt8.not_lt.mp smaller), inductionHypothesis]

/-- In a row of falling levels, what is left behind the greater ones is smaller. -/
theorem lt_of_mem_dropWhile
    {level : UInt8}
    {entries : List Entry}
    (falling : entries.Pairwise fun inner outer => outer.level < inner.level)
    {entry : Entry}
    (member : entry ∈ entries.dropWhile (level ≤ ·.level)) :
    entry.level < level := by
  induction entries with
  | nil => cases member
  | cons first rest inductionHypothesis =>
      obtain ⟨below, fallingRest⟩ := List.pairwise_cons.mp falling
      by_cases passed : level ≤ first.level
      · rw [List.dropWhile_cons_of_pos (by simpa using passed)] at member
        exact inductionHypothesis fallingRest member
      · have firstSmaller := UInt8.not_le.mp passed
        rw [List.dropWhile_cons_of_neg (by simpa using passed)] at member
        rcases List.mem_cons.mp member with rfl | further
        · exact firstSmaller
        · exact UInt8.lt_trans (below entry further) firstSmaller

/-- Levels fall strictly from the innermost entry outwards. -/
theorem pairwise_enclosing (earlier : List Entry) :
    (enclosing earlier).Pairwise fun inner outer => outer.level < inner.level := by
  induction earlier with
  | nil => exact List.Pairwise.nil
  | cons entry rest inductionHypothesis =>
      rw [enclosing]
      refine List.pairwise_cons.mpr ⟨?_, ?_⟩
      · intro outer member
        exact lt_of_mem_dropWhile inductionHypothesis member
      · exact inductionHypothesis.sublist (List.dropWhile_sublist _)

/-! ## A forest that is being made -/

namespace Nesting

/-- The places of the open headings and of all beneath them in document order. -/
def openedPlaces : List Heading → List Place
  | [] => []
  | heading :: outer => openedPlaces outer ++ heading.places (outer.map Heading.entry)

/-- The places of all headings in document order, as if every open one ended now. -/
def places (nesting : Nesting) : List Place :=
  Heading.placesAll [] nesting.roots ++ openedPlaces nesting.opened

/-- The entries of the open headings, the innermost first. -/
def openedEntries (nesting : Nesting) : List Entry :=
  nesting.opened.map Heading.entry

theorem openedEntries_close (nesting : Nesting) :
    nesting.close.openedEntries = nesting.openedEntries.tail := by
  obtain ⟨roots, opened⟩ := nesting
  match opened with
  | [] => rfl
  | [_] => rfl
  | _ :: .mk _ _ :: _ => rfl

/-- Completing a heading leaves every place as it is. -/
theorem places_close (nesting : Nesting) :
    nesting.close.places = nesting.places := by
  obtain ⟨roots, opened⟩ := nesting
  match opened with
  | [] => rfl
  | [done] =>
      simp only [close, places, openedPlaces, Heading.placesAll_append,
        Heading.placesAll_singleton, List.map_nil, List.nil_append, List.append_nil]
  | done :: .mk entry children :: outer =>
      simp only [close, places, openedPlaces, Heading.places, Heading.placesAll_append,
        Heading.placesAll_singleton, Heading.entry, List.map_cons, List.append_assoc,
        List.cons_append]

theorem openedEntries_closeInnermost
    (count : Nat)
    (nesting : Nesting) :
    (nesting.closeInnermost count).openedEntries = nesting.openedEntries.drop count := by
  induction count generalizing nesting with
  | zero => rfl
  | succ count inductionHypothesis =>
      rw [closeInnermost, inductionHypothesis, openedEntries_close, List.drop_tail]

theorem places_closeInnermost
    (count : Nat)
    (nesting : Nesting) :
    (nesting.closeInnermost count).places = nesting.places := by
  induction count generalizing nesting with
  | zero => rfl
  | succ count inductionHypothesis =>
      rw [closeInnermost, inductionHypothesis, places_close]

/-- The forest after the last heading has the places read all along. -/
theorem placesAll_finish (nesting : Nesting) :
    Heading.placesAll [] nesting.finish = nesting.places := by
  have closed : (nesting.closeInnermost nesting.opened.length).opened = [] := by
    apply List.map_eq_nil_iff.mp
    show (nesting.closeInnermost nesting.opened.length).openedEntries = []
    rw [openedEntries_closeInnermost]
    apply List.drop_eq_nil_of_le
    rw [openedEntries, List.length_map]
  rw [← places_closeInnermost nesting.opened.length nesting, places, closed, openedPlaces,
    List.append_nil, finish]

/-- The entries that a heading with a level is put into, the innermost first. -/
def around (nesting : Nesting) (level : UInt8) : List Entry :=
  nesting.openedEntries.dropWhile (level ≤ ·.level)

/-- The headings that end before a new one are those that it does not stand in. -/
theorem openedEntries_of_ended
    (nesting : Nesting)
    (level : UInt8) :
    (nesting.closeInnermost
      (nesting.opened.takeWhile (level ≤ ·.entry.level)).length).openedEntries =
        nesting.around level := by
  have ended : (nesting.opened.takeWhile (level ≤ ·.entry.level)).length =
      (nesting.openedEntries.takeWhile (level ≤ ·.level)).length := by
    rw [openedEntries, List.takeWhile_map, List.length_map]
    rfl
  have dropped : (nesting.openedEntries.takeWhile (level ≤ ·.level) ++
      nesting.around level).drop (nesting.openedEntries.takeWhile (level ≤ ·.level)).length =
        nesting.around level :=
    List.drop_left
  rw [openedEntries_closeInnermost, ended]
  rwa [around, List.takeWhile_append_dropWhile] at dropped

/-- A new heading is put behind all others, in the entries that it does not end. -/
theorem places_add
    (nesting : Nesting)
    (entry : Entry) :
    (nesting.add entry).places = nesting.places ++ [⟨nesting.around entry.level, entry⟩] := by
  rw [← openedEntries_of_ended, ← places_closeInnermost
    (nesting.opened.takeWhile (entry.level ≤ ·.entry.level)).length nesting]
  simp only [add, places, openedPlaces, openedEntries, Heading.places, Heading.placesAll,
    List.append_assoc]

theorem openedEntries_add
    (nesting : Nesting)
    (entry : Entry) :
    (nesting.add entry).openedEntries = entry :: nesting.around entry.level := by
  rw [← openedEntries_of_ended]
  rfl

end Nesting

/-- A place behind other ones is that of a heading that stands in the nearest smaller one. -/
structure Place.IsNearest (place : Place) (earlier : List Place) : Prop where
  parent : place.around.head? =
    (earlier.map (·.entry)).reverse.find? (·.level < place.entry.level)
  /-- A heading is around another one with all that is around itself. -/
  lineage : ∀ parent outer, place.around = parent :: outer → ⟨outer, parent⟩ ∈ earlier
  falling : (place.entry :: place.around).Pairwise fun inner outer => outer.level < inner.level

namespace Nesting

/-- What holds of a forest that is being made. The entries of the open headings are those that a
later heading can stand in, and each of them is listed with what is around it. -/
structure Sound (nesting : Nesting) : Prop where
  opened_eq : nesting.openedEntries = enclosing (nesting.places.map (·.entry)).reverse
  opened_mem : ∀ entry outer, entry :: outer <:+ nesting.openedEntries →
    ⟨outer, entry⟩ ∈ nesting.places
  nearest : ∀ index, (inside : index < nesting.places.length) →
    nesting.places[index].IsNearest (nesting.places.take index)

theorem sound_empty : empty.Sound where
  opened_eq := rfl
  opened_mem _ _ suffix := by cases List.suffix_nil.mp suffix
  nearest _ inside := by cases inside

/-- A heading that is added stands in the nearest smaller one. -/
theorem Sound.isNearest
    {nesting : Nesting}
    (sound : nesting.Sound)
    (entry : Entry) :
    Place.IsNearest ⟨nesting.around entry.level, entry⟩ nesting.places where
  parent := by
    have smaller : (fun other : Entry => decide (other.level < entry.level)) =
        fun other => !decide (entry.level ≤ other.level) := by
      funext other
      rw [← decide_not]
      simp only [UInt8.not_le]
    show (nesting.around entry.level).head? = _
    rw [← find?_enclosing, ← sound.opened_eq, smaller, List.find?_not_eq_head?_dropWhile, around]
  lineage parent outer same := by
    apply sound.opened_mem
    rw [← same]
    exact List.dropWhile_suffix _
  falling := by
    have falling := pairwise_enclosing (entry :: (nesting.places.map (·.entry)).reverse)
    rwa [enclosing, ← sound.opened_eq] at falling

/-- Adding a heading keeps a forest sound. -/
theorem Sound.add
    {nesting : Nesting}
    (sound : nesting.Sound)
    (entry : Entry) :
    (nesting.add entry).Sound where
  opened_eq := by
    rw [openedEntries_add, places_add, List.map_append, List.reverse_append, around,
      sound.opened_eq]
    rfl
  opened_mem other outer suffix := by
    rw [places_add]
    rw [openedEntries_add] at suffix
    rcases List.suffix_cons_iff.mp suffix with same | older
    · obtain ⟨rfl, rfl⟩ := List.cons.inj same
      exact List.mem_append_right _ List.mem_cons_self
    · apply List.mem_append_left
      exact sound.opened_mem other outer (older.trans (List.dropWhile_suffix _))
  nearest index inside := by
    simp only [places_add] at inside ⊢
    rw [List.length_append, List.length_singleton] at inside
    rcases Nat.lt_succ_iff_lt_or_eq.mp inside with older | rfl
    · rw [List.getElem_append_left older, List.take_append_of_le_length (Nat.le_of_lt older)]
      exact sound.nearest index older
    · rw [List.getElem_concat_length rfl, List.take_left]
      exact sound.isNearest entry

end Nesting

/-! ## Extraction -/

/-- The level and the text of a block that is listed in an outline. -/
def listed? : Markdown.Node → Option (UInt8 × String)
  | .heading depth children =>
      if depth ≤ 3 then some (depth, headingText (.heading depth children)) else none
  | _ => none

namespace Extractor

/-- A block that is not listed changes nothing. One that is listed gets the next identifier and is
added. -/
theorem visit_eq
    (state : Extractor × Nesting)
    (node : Markdown.Node) :
    visit state node =
      match listed? node with
      | none => state
      | some (level, text) =>
          (state.1.issue.2, state.2.add ⟨state.1.issue.1, text, level⟩) := by
  cases node with
  | heading depth children =>
      have visited : visit state (.heading depth children) =
          if maxLevel < depth then state
          else (state.1.issue.2, state.2.add
            ⟨state.1.issue.1, headingText (.heading depth children), depth⟩) := rfl
      rw [visited, listed?]
      by_cases deep : maxLevel < depth
      · have notListed : ¬ depth ≤ 3 := UInt8.not_le.mpr deep
        rw [if_pos deep, if_neg notListed]
      · have listed : depth ≤ 3 := UInt8.not_lt.mp deep
        rw [if_neg deep, if_pos listed]
  | _ => rfl

/-- What adding a heading keeps is kept by visiting blocks. -/
theorem visit_induction
    {invariant : Nesting → Prop}
    (kept : ∀ {nesting} entry, invariant nesting → invariant (nesting.add entry))
    (nodes : List Markdown.Node)
    {state : Extractor × Nesting}
    (holds : invariant state.2) :
    invariant (nodes.foldl visit state).2 := by
  induction nodes generalizing state with
  | nil => exact holds
  | cons node rest inductionHypothesis =>
      rw [List.foldl_cons]
      apply inductionHypothesis
      rw [visit_eq]
      split
      · exact holds
      · exact kept _ holds

/-- The entries of listed blocks, numbered from the next identifier on, and the counter after
them. -/
def number (extractor : Extractor) : List (UInt8 × String) → List Entry × Extractor
  | [] => ([], extractor)
  | (level, text) :: rest =>
      let numbered := extractor.issue.2.number rest
      (⟨extractor.issue.1, text, level⟩ :: numbered.1, numbered.2)

theorem number_map
    (extractor : Extractor)
    (listed : List (UInt8 × String)) :
    (extractor.number listed).1.map (fun entry => (entry.level, entry.text)) = listed := by
  induction listed generalizing extractor with
  | nil => rfl
  | cons first rest inductionHypothesis =>
      rw [number, List.map_cons, inductionHypothesis]

/-- Visiting blocks numbers those that are listed, in document order, and puts them behind the
others. -/
theorem foldl_visit
    (nodes : List Markdown.Node)
    (state : Extractor × Nesting) :
    (nodes.foldl visit state).1 = (state.1.number (nodes.filterMap listed?)).2 ∧
      (nodes.foldl visit state).2.places.map (·.entry) =
        state.2.places.map (·.entry) ++ (state.1.number (nodes.filterMap listed?)).1 := by
  induction nodes generalizing state with
  | nil => exact ⟨rfl, (List.append_nil _).symm⟩
  | cons node rest inductionHypothesis =>
      obtain ⟨counterEq, entriesEq⟩ := inductionHypothesis (visit state node)
      rw [List.foldl_cons, counterEq, entriesEq, visit_eq]
      cases found : listed? node with
      | none =>
          rw [List.filterMap_cons_none found]
          exact ⟨rfl, rfl⟩
      | some block =>
          obtain ⟨level, text⟩ := block
          rw [List.filterMap_cons_some found, number]
          refine ⟨rfl, ?_⟩
          rw [Nesting.places_add, List.map_append, List.append_assoc]
          rfl

theorem places_extract
    (extractor : Extractor)
    (tree : Markdown.Tree) :
    (extractor.extract tree).1.places =
      (tree.children.foldl visit (extractor, .empty)).2.places :=
  Nesting.placesAll_finish _

/-- The entries of an outline are the listed blocks of the document, numbered in its order. -/
theorem entries_extract
    (extractor : Extractor)
    (tree : Markdown.Tree) :
    (extractor.extract tree).1.places.map (·.entry) =
      (extractor.number (tree.children.filterMap listed?)).1 := by
  rw [places_extract, (foldl_visit tree.children (extractor, .empty)).2]
  rfl

theorem sound_extract
    (extractor : Extractor)
    (tree : Markdown.Tree) :
    (tree.children.foldl visit (extractor, .empty)).2.Sound :=
  visit_induction (fun entry sound => sound.add entry) tree.children Nesting.sound_empty

/-- An outline lists the headings of depth at most three that stand at the top of the document, in
its order, each with its depth as level. Every heading stands in the latest one before it whose
level is smaller, together with all that this one stands in, and it is a root if there is none.
So levels rise strictly on every way inwards, and the nesting depth is the number of headings on
the way. -/
theorem extract_nests_headings
    (extractor : Extractor)
    (tree : Markdown.Tree) :
    (extractor.extract tree).1.flatten.map
        (fun listed => (listed.2.entry.level, listed.2.entry.text)) =
      tree.children.filterMap listed? ∧
    (extractor.extract tree).1.flatten.map (fun listed => (listed.1, listed.2.entry)) =
      (extractor.extract tree).1.places.map (fun place => (place.around.length, place.entry)) ∧
    ∀ index, (inside : index < (extractor.extract tree).1.places.length) →
      (extractor.extract tree).1.places[index].IsNearest
        ((extractor.extract tree).1.places.take index) := by
  refine ⟨?_, flatten_eq_places _, ?_⟩
  · rw [← extractor.number_map (tree.children.filterMap listed?), ← entries_extract,
      ← entries_flatten, List.map_map]
    rfl
  · simp only [places_extract]
    exact (sound_extract extractor tree).nearest

/-- A heading with no smaller one before it is a root, whatever levels are left out. -/
example :
    (start.extract ⟨[.heading 3 [.text "A"], .heading 1 [.text "B"], .heading 3 [.text "C"],
      .heading 2 [.text "D"], .heading 3 [.text "E"]]⟩).1.flatten.map
        (fun listed => (listed.1, listed.2.entry.text)) =
      [(0, "A"), (0, "B"), (1, "C"), (1, "D"), (2, "E")] := by
  decide

end Extractor
end Outline
end TwinEditor
