import Mathlib.Data.List.Induction
import TwinEditor.Markdown.Reader.Document
import TwinEditor.Proofs.Markdown.Lines

/-!
# Lists kept apart

Lists that follow one another are kept apart by their markers. A list gets its marker from the siblings
before it: the markers take turns along lists of one kind that stand one directly after another, whether
or not these write anything, and any other sibling begins anew. So two neighbouring lists always differ.
Two lists with siblings between them that write nothing differ exactly if an odd number of turns lies
between them, and a paragraph without content lets two lists run into one.
-/

namespace TwinEditor
namespace Markdown

/-! ## Siblings one by one -/

namespace Node

/-- The text of a list with a marker. -/
def listText (ordered : Bool) (marker : Char) (items : List Node) : List Char :=
  Text.unlines (itemTexts ordered marker 1 items)

/-- Whether a node is a list of a kind. -/
def isListOf (ordered : Bool) : Node → Bool
  | .list otherOrdered _ => otherOrdered == ordered
  | _ => false

/-- Whether a node is a list. -/
def isList : Node → Bool
  | .list .. => true
  | _ => false

end Node

namespace SiblingState

/-- The marker for a list of a kind. -/
def marker (state : SiblingState) (ordered : Bool) : Char :=
  state.markers.next ordered (state.followsList ordered)

/-- What the next sibling writes. -/
def textOf (state : SiblingState) : Node → List Char
  | .list ordered items => Node.listText ordered (state.marker ordered) items
  | node => node.blockText

/-- What stands between the siblings so far and the text of the next one. -/
def gap (state : SiblingState) (inItem : Bool) (node : Node) : List Char :=
  if (state.textOf node).isEmpty || !state.started then []
  else if inItem && node.isList && state.followsParagraph &&
      !startsWithBareMarker (state.textOf node) then ['\n']
  else ['\n', '\n']

/-- What is remembered behind the next sibling. -/
def after (state : SiblingState) (node : Node) : SiblingState where
  markers :=
    match node with
    | .list ordered _ => state.markers.record ordered (state.marker ordered)
    | _ => state.markers
  previous := some node
  started := state.started || !(state.textOf node).isEmpty

/-- What is remembered behind some siblings. -/
def afterAll (state : SiblingState) (nodes : List Node) : SiblingState :=
  nodes.foldl after state

@[simp] theorem afterAll_nil (state : SiblingState) : state.afterAll [] = state :=
  rfl

theorem afterAll_append
    (state : SiblingState)
    (before nodes : List Node) :
    state.afterAll (before ++ nodes) = (state.afterAll before).afterAll nodes :=
  List.foldl_append

theorem afterAll_concat
    (state : SiblingState)
    (before : List Node)
    (node : Node) :
    state.afterAll (before ++ [node]) = (state.afterAll before).after node :=
  afterAll_append state before [node]

@[simp] theorem followsList_after
    (state : SiblingState)
    (node : Node)
    (ordered : Bool) :
    (state.after node).followsList ordered = node.isListOf ordered := by
  cases node <;> rfl

end SiblingState

namespace Node

/-- Siblings are written one by one, each with what is remembered of those before. -/
theorem siblingTexts_cons
    (inItem : Bool)
    (state : SiblingState)
    (node : Node)
    (rest : List Node) :
    siblingTexts inItem state (node :: rest) =
      state.gap inItem node ++ state.textOf node ++
        siblingTexts inItem (state.after node) rest := by
  cases node with
  | list ordered items =>
      rw [siblingTexts, SiblingState.gap, isList, Bool.and_true]
      rfl
  | _ =>
      rw [siblingTexts, SiblingState.gap, isList, Bool.and_false, Bool.false_and, Bool.false_and]
      · rfl
      all_goals nofun

theorem siblingTexts_append
    (inItem : Bool)
    (state : SiblingState)
    (before nodes : List Node) :
    siblingTexts inItem state (before ++ nodes) =
      siblingTexts inItem state before ++ siblingTexts inItem (state.afterAll before) nodes := by
  induction before generalizing state with
  | nil => rw [List.nil_append, siblingTexts, List.nil_append, SiblingState.afterAll_nil]
  | cons node before inductionHypothesis =>
      rw [List.cons_append, siblingTexts_cons, siblingTexts_cons, inductionHypothesis,
        List.append_assoc, List.append_assoc, List.append_assoc]
      rfl

/-! ## Siblings that write nothing -/

theorem itemText_ne_nil
    {marker : List Char}
    (some : marker ≠ [])
    (body : List Char) :
    itemText marker body ≠ [] := by
  rw [itemText]
  split
  · exact some
  · split
    · exact some
    · exact Text.unlines_ne_nil (List.append_ne_nil_of_left_ne_nil some _) _

theorem itemMarker_ne_nil
    (ordered : Bool)
    (marker : Char)
    (number : Nat) :
    itemMarker ordered marker number ≠ [] := by
  cases ordered <;> simp [itemMarker]

/-- A list writes nothing exactly if it has no items. -/
theorem listText_eq_nil_iff
    {ordered : Bool}
    {marker : Char}
    {items : List Node} :
    listText ordered marker items = [] ↔ items = [] := by
  refine ⟨fun none => ?_, fun none => none ▸ rfl⟩
  cases items with
  | nil => rfl
  | cons item rest =>
      rw [listText, itemTexts] at none
      exact absurd none (Text.unlines_ne_nil (itemText_ne_nil (itemMarker_ne_nil ordered marker 1) _) _)

theorem blockText_eq_textOf (node : Node) : node.blockText = SiblingState.start.textOf node := by
  cases node with
  | list ordered items =>
      rw [blockText]
      rfl
  | _ => rfl

end Node

namespace SiblingState

theorem textOf_eq_nil_iff
    (state : SiblingState)
    (node : Node) :
    state.textOf node = [] ↔ node.blockText = [] := by
  rw [node.blockText_eq_textOf]
  cases node with
  | list ordered items => rw [textOf, textOf, Node.listText_eq_nil_iff, Node.listText_eq_nil_iff]
  | _ => rfl

/-- Siblings that write nothing leave no trace in the text. -/
theorem siblingTexts_of_silent
    {nodes : List Node}
    (silent : ∀ node ∈ nodes, node.blockText = [])
    (inItem : Bool)
    (state : SiblingState) :
    Node.siblingTexts inItem state nodes = [] ∧ (state.afterAll nodes).started = state.started := by
  induction nodes generalizing state with
  | nil => exact ⟨by rw [Node.siblingTexts], rfl⟩
  | cons node rest inductionHypothesis =>
      obtain ⟨first, others⟩ := List.forall_mem_cons.mp silent
      have noText : state.textOf node = [] := (state.textOf_eq_nil_iff node).mpr first
      obtain ⟨noTexts, started⟩ := inductionHypothesis others (state.after node)
      refine ⟨?_, ?_⟩
      · simp [Node.siblingTexts_cons, noTexts, gap, noText]
      · refine started.trans ?_
        simp [after, noText]

/-- A sibling that writes something is behind the beginning. -/
theorem started_afterAll_concat
    (state : SiblingState)
    (before : List Node)
    {node : Node}
    (filled : node.blockText ≠ []) :
    (state.afterAll (before ++ [node])).started = true := by
  have written := mt ((state.afterAll before).textOf_eq_nil_iff node).mp filled
  rw [afterAll_concat]
  simp [after, written]

/-- Between two blocks that write something stands a line feed or an empty line. -/
theorem gap_eq_of_started
    {state : SiblingState}
    (started : state.started = true)
    {node : Node}
    (filled : node.blockText ≠ [])
    (inItem : Bool) :
    state.gap inItem node = ['\n'] ∨ state.gap inItem node = ['\n', '\n'] := by
  have written : (state.textOf node).isEmpty = false := by
    rw [List.isEmpty_eq_false_iff]
    exact mt (state.textOf_eq_nil_iff node).mp filled
  rw [gap, written, started]
  split
  · next off => cases off
  · split
    · exact .inl rfl
    · exact .inr rfl

end SiblingState

/-! ## Markers in turn -/

/-- The marker of a list that stands directly behind a number of lists of its kind. -/
def turnMarker (ordered : Bool) (turn : Nat) : Char :=
  if ordered then if turn % 2 = 0 then '.' else ')'
  else if turn % 2 = 0 then '-' else '*'

theorem turnMarker_eq_iff
    {ordered : Bool}
    {first second : Nat} :
    turnMarker ordered first = turnMarker ordered second ↔ first % 2 = second % 2 := by
  rcases Nat.mod_two_eq_zero_or_one first with isFirst | isFirst <;>
    rcases Nat.mod_two_eq_zero_or_one second with isSecond | isSecond <;>
    cases ordered <;> simp [turnMarker, isFirst, isSecond]

/-- How many lists of a kind stand one directly after another at the end of some siblings. -/
def listsAtEnd (ordered : Bool) (nodes : List Node) : Nat :=
  (nodes.reverse.takeWhile (Node.isListOf ordered)).length

@[simp] theorem listsAtEnd_nil (ordered : Bool) : listsAtEnd ordered [] = 0 :=
  rfl

theorem listsAtEnd_concat
    (ordered : Bool)
    (before : List Node)
    (node : Node) :
    listsAtEnd ordered (before ++ [node]) =
      if node.isListOf ordered then listsAtEnd ordered before + 1 else 0 := by
  rw [listsAtEnd, List.reverse_append, List.reverse_singleton, List.singleton_append,
    List.takeWhile_cons]
  split <;> rfl

namespace SiblingState

/-- The last marker of a kind is remembered while lists of the kind follow one another. -/
def lastMarker (state : SiblingState) (ordered : Bool) : Option Char :=
  if ordered then state.markers.delimiter else state.markers.bullet

/-- A list that does not follow one of its kind begins anew. -/
theorem marker_of_not_followsList
    {state : SiblingState}
    {ordered : Bool}
    (begins : state.followsList ordered = false) :
    state.marker ordered = turnMarker ordered 0 := by
  rw [marker, begins]
  cases ordered <;> rfl

/-- A list that follows one of its kind has the next turn. -/
theorem marker_of_followsList
    {state : SiblingState}
    {ordered : Bool}
    {turn : Nat}
    (follows : state.followsList ordered = true)
    (last : state.lastMarker ordered = some (turnMarker ordered turn)) :
    state.marker ordered = turnMarker ordered (turn + 1) := by
  rw [marker, follows]
  rcases Nat.mod_two_eq_zero_or_one turn with even | odd
  · have next : (turn + 1) % 2 = 1 := by omega
    cases ordered <;> simp_all [ListMarkers.next, lastMarker, turnMarker]
  · have next : (turn + 1) % 2 = 0 := by omega
    cases ordered <;> simp_all [ListMarkers.next, lastMarker, turnMarker]

theorem lastMarker_after
    (state : SiblingState)
    {node : Node}
    {ordered : Bool}
    (isList : node.isListOf ordered = true) :
    (state.after node).lastMarker ordered = some (state.marker ordered) := by
  cases node with
  | list otherOrdered items =>
      obtain rfl : otherOrdered = ordered := eq_of_beq isList
      cases otherOrdered <;> rfl
  | _ => cases isList

/-- A list takes its turn behind the lists of its kind directly before it. -/
theorem marker_afterAll
    (ordered : Bool)
    (before : List Node) :
    (start.afterAll before).marker ordered = turnMarker ordered (listsAtEnd ordered before) := by
  induction before using List.reverseRecOn with
  | nil => cases ordered <;> rfl
  | append_singleton before node inductionHypothesis =>
      rw [afterAll_concat, listsAtEnd_concat]
      cases isList : node.isListOf ordered with
      | false => exact marker_of_not_followsList ((followsList_after _ _ _).trans isList)
      | true =>
          exact marker_of_followsList ((followsList_after _ _ _).trans isList)
            ((lastMarker_after _ isList).trans (congrArg some inductionHypothesis))

end SiblingState

/-! ## Two lists with nothing written between them -/

namespace Node

/-- A list among siblings, with the marker whose turn it is. -/
theorem siblingTexts_list
    (inItem : Bool)
    (before : List Node)
    (ordered : Bool)
    (items rest : List Node) :
    siblingTexts inItem (SiblingState.start.afterAll before) (.list ordered items :: rest) =
      (SiblingState.start.afterAll before).gap inItem (.list ordered items) ++
        listText ordered (turnMarker ordered (listsAtEnd ordered before)) items ++
        siblingTexts inItem (SiblingState.start.afterAll (before ++ [.list ordered items])) rest := by
  rw [siblingTexts_cons, SiblingState.textOf, SiblingState.marker_afterAll,
    SiblingState.afterAll_concat]

theorem blockText_list_ne_nil
    {items : List Node}
    (filled : items ≠ [])
    (ordered : Bool) :
    (list ordered items).blockText ≠ [] := by
  rw [blockText]
  exact mt listText_eq_nil_iff.mp filled

/-- A list that writes something, siblings that write nothing, and another list of the kind. -/
theorem exists_blocksText_eq
    (inItem : Bool)
    (before : List Node)
    (ordered : Bool)
    {items laterItems : List Node}
    (filled : items ≠ [])
    (laterFilled : laterItems ≠ [])
    {between : List Node}
    (silent : ∀ node ∈ between, node.blockText = [])
    (rest : List Node) :
    ∃ gap space tail,
      blocksText inItem
          (before ++ .list ordered items :: (between ++ .list ordered laterItems :: rest)) =
        blocksText inItem before ++ gap ++
          listText ordered (turnMarker ordered (listsAtEnd ordered before)) items ++ space ++
          listText ordered (turnMarker ordered
            (listsAtEnd ordered (before ++ .list ordered items :: between))) laterItems ++ tail ∧
      (space = ['\n'] ∨ space = ['\n', '\n']) := by
  let state := SiblingState.start.afterAll (before ++ [.list ordered items])
  let later := SiblingState.start.afterAll (before ++ .list ordered items :: between)
  obtain ⟨noTexts, laterStarted⟩ := SiblingState.siblingTexts_of_silent silent inItem state
  have later_eq : state.afterAll between = later := by
    rw [← SiblingState.afterAll_append, List.append_assoc, List.singleton_append]
  have started : later.started = true := by
    rw [← later_eq, laterStarted]
    exact SiblingState.started_afterAll_concat .start before (blockText_list_ne_nil filled ordered)
  refine ⟨(SiblingState.start.afterAll before).gap inItem (.list ordered items),
    later.gap inItem (.list ordered laterItems),
    siblingTexts inItem (later.after (.list ordered laterItems)) rest, ?_,
    SiblingState.gap_eq_of_started started (blockText_list_ne_nil laterFilled ordered) inItem⟩
  rw [blocksText, siblingTexts_append, siblingTexts_list, siblingTexts_append, noTexts, later_eq,
    List.nil_append, siblingTexts_list, SiblingState.afterAll_concat]
  simp only [blocksText, List.append_assoc]
  rfl

/-- Two lists of one kind, with nothing written between them, get the markers whose turn it is. These
differ exactly if an odd number of turns lies between the two lists, and so they do if the lists are
neighbours. -/
theorem markers_differ_iff
    (inItem : Bool)
    (before : List Node)
    (ordered : Bool)
    {items laterItems : List Node}
    (filled : items ≠ [])
    (laterFilled : laterItems ≠ [])
    {between : List Node}
    (silent : ∀ node ∈ between, node.blockText = [])
    (rest : List Node) :
    let turn := listsAtEnd ordered before
    let laterTurn := listsAtEnd ordered (before ++ .list ordered items :: between)
    (∃ gap space tail,
      blocksText inItem
          (before ++ .list ordered items :: (between ++ .list ordered laterItems :: rest)) =
        blocksText inItem before ++ gap ++ listText ordered (turnMarker ordered turn) items ++ space ++
          listText ordered (turnMarker ordered laterTurn) laterItems ++ tail ∧
      (space = ['\n'] ∨ space = ['\n', '\n'])) ∧
    (turnMarker ordered turn ≠ turnMarker ordered laterTurn ↔ turn % 2 ≠ laterTurn % 2) ∧
    (between = [] → turnMarker ordered turn ≠ turnMarker ordered laterTurn) := by
  intro turn laterTurn
  refine ⟨exists_blocksText_eq inItem before ordered filled laterFilled silent rest,
    not_congr turnMarker_eq_iff, ?_⟩
  rintro rfl
  have next : laterTurn = turn + 1 :=
    (listsAtEnd_concat ordered before _).trans (if_pos (beq_self_eq_true ordered))
  rw [Ne, turnMarker_eq_iff, next]
  omega

/-- A list behind another one, with an empty paragraph and an empty list between them. -/
theorem markers_differ_around_empty_list :
    let item (text : String) : Node := .listItem [.paragraph [.text text]]
    let between : List Node := [.paragraph [], .list false []]
    (∀ node ∈ between, node.blockText = []) ∧
      (∃ gap space tail,
        blocksText false (.list false [item "a"] :: (between ++ [.list false [item "b"]])) =
          gap ++ listText false '-' [item "a"] ++ space ++ listText false '*' [item "b"] ++ tail) := by
  intro item between
  have silent : ∀ node ∈ between, node.blockText = [] := by
    decide +kernel
  refine ⟨silent, ?_⟩
  obtain ⟨⟨gap, space, tail, written, -⟩, -⟩ := markers_differ_iff false [] false
    (List.cons_ne_nil (item "a") []) (List.cons_ne_nil (item "b") []) silent []
  exact ⟨gap, space, tail, written⟩

/-- An empty paragraph between two lists: they get the same marker and are read as one list. -/
theorem lists_run_together_around_empty_paragraph :
    let item (text : String) : Node := .listItem [.paragraph [.text text]]
    let tree : Tree := ⟨[.list false [item "a"], .paragraph [], .list false [item "b"]]⟩
    (Node.paragraph []).blockText = [] ∧ tree.toMarkdown = "- a\n\n- b\n" ∧
      (Tree.ofMarkdown .all tree.toMarkdown).children.length = 1 := by
  decide +kernel

end Node

end Markdown
end TwinEditor
