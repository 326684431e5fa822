import Mathlib.Data.List.SplitBy
import TwinEditor.Proofs.Markdown.BlockEdges

/-!
# Taking containers apart

What stands inside a quote or an item comes back from its lines: the prefixes of containers are added to
whole lines and taken off line by line. Where an item ends shows in the lines themselves, since a marker
does not begin with a space and every other line of an item is empty or indented.
-/

namespace TwinEditor
namespace Markdown

open Text
open Reader (IsMarker quoteLine)
open Reader.Body (indentedLine)

/-! ## Quotes -/

/-- A line without the sign of a quote and one space behind it. -/
def unquotedLine : List Char → List Char
  | '>' :: ' ' :: line => line
  | '>' :: line => line
  | line => line

/-- A text without the signs of a quote before its lines. -/
def unquoted (text : List Char) : List Char :=
  unlines ((lines text).map unquotedLine)

theorem unquotedLine_quoteLine (line : List Char) : unquotedLine (quoteLine line) = line := by
  cases line <;> rfl

theorem unquoted_quoteText (body : List Char) : unquoted (quoteText body) = body := by
  have lines_eq : (lines (quoteText body)).map unquotedLine = lines body := by
    rw [lines_quoteText_eq_map, List.map_map]
    exact (List.map_congr_left fun line _ => unquotedLine_quoteLine line).trans (List.map_id _)
  rw [unquoted, lines_eq, unlines_lines]

/-! ## Items -/

/-- Whether a line goes on with the item before it. -/
def continues (line : List Char) : Bool :=
  line.isEmpty || line.head? == some ' '

/-- The lines of a list, item by item. -/
def itemLines (text : List Char) : List (List (List Char)) :=
  (lines text).splitBy fun _ line => continues line

/-- The content of an item whose marker has a width. -/
def itemBody (width : Nat) (lines : List (List Char)) : List Char :=
  unlines (lines.map (List.drop (width + 1)))

/-- The contents of the items of a list with a marker. -/
def listBodies (ordered : Bool) (marker : Char) (text : List Char) : List (List Char) :=
  (itemLines text).mapIdx fun i lines => itemBody (itemMarker ordered marker (i + 1)).length lines

/-- The lines of an item: the first begins with its marker, and the others are empty or indented by the
width of the marker and a space. -/
def IsItem (marker : List Char) (lines : List (List Char)) : Prop :=
  ∃ first rest, lines = first :: rest ∧ marker <+: first ∧
    ∀ line ∈ rest, line = [] ∨ List.replicate (marker.length + 1) ' ' <+: line

theorem drop_indentedLine
    (width : Nat)
    (line : List Char) :
    (indentedLine width line).drop width = line := by
  rw [indentedLine]
  split
  · next empty => rw [List.isEmpty_iff.mp empty, List.drop_nil]
  · exact List.drop_left' List.length_replicate

theorem indentedLine_cases
    (width : Nat)
    (line : List Char) :
    indentedLine width line = [] ∨ List.replicate width ' ' <+: indentedLine width line := by
  rw [indentedLine]
  split
  · exact .inl rfl
  · exact .inr (List.prefix_append ..)

section Item

variable {marker : List Char} (single : '\n' ∉ marker) (body : List Char)
include single

/-- An item has the lines of its content, each behind the marker or its indentation. -/
theorem exists_lines_itemText :
    ∃ line first rest, lines (itemText marker body) =
        line :: rest.map (indentedLine (marker.length + 1)) ∧
      lines body = first :: rest ∧ marker <+: line ∧ line.drop (marker.length + 1) = first := by
  by_cases empty : body = []
  · refine ⟨marker, [], [], ?_, ?_, List.prefix_rfl, List.drop_of_length_le (Nat.le_succ _)⟩
    · rw [itemText, empty]
      exact lines_of_notMem single
    · rw [empty, lines_nil]
  · obtain ⟨first, rest, cut⟩ := List.exists_cons_of_ne_nil (lines_ne_nil body)
    refine ⟨_, first, rest, lines_itemText single empty cut, cut, List.prefix_append .., ?_⟩
    rw [List.append_cons]
    exact List.drop_left' (by simp)

theorem isItem_lines_itemText : IsItem marker (lines (itemText marker body)) := by
  obtain ⟨line, first, rest, written, -, begins, -⟩ := exists_lines_itemText single body
  refine ⟨line, _, written, begins, fun indented member => ?_⟩
  obtain ⟨other, -, rfl⟩ := List.mem_map.mp member
  exact indentedLine_cases ..

theorem itemBody_lines_itemText : itemBody marker.length (lines (itemText marker body)) = body := by
  obtain ⟨line, first, rest, written, cut, -, dropped⟩ := exists_lines_itemText single body
  have others : (rest.map (indentedLine (marker.length + 1))).map (List.drop (marker.length + 1)) =
      rest := by
    rw [List.map_map]
    exact (List.map_congr_left fun line _ => drop_indentedLine _ line).trans (List.map_id _)
  rw [itemBody, written, List.map_cons, others, dropped, ← cut, unlines_lines]

end Item

/-! ## Lists -/

section Groups

variable {α : Type} {p : α → Bool}

theorem isChain_of_continues
    (first : α)
    {rest : List α}
    (goesOn : ∀ a ∈ rest, p a = true) :
    (first :: rest).IsChain fun _ a => p a = true := by
  induction rest generalizing first with
  | nil => exact .singleton first
  | cons next more inductionHypothesis =>
      obtain ⟨here, others⟩ := List.forall_mem_cons.mp goesOn
      exact .cons_cons here (inductionHypothesis next others)

/-- Groups that each begin where the list does not go on are found again. -/
theorem splitBy_flatten_of_continues
    {groups : List (List α)}
    (begins : ∀ group ∈ groups, ∃ first rest, group = first :: rest ∧ p first = false ∧
      ∀ a ∈ rest, p a = true) :
    groups.flatten.splitBy (fun _ a => p a) = groups := by
  induction groups with
  | nil => rfl
  | cons group groups inductionHypothesis =>
      obtain ⟨⟨first, rest, rfl, -, goesOn⟩, others⟩ := List.forall_mem_cons.mp begins
      have whole := List.splitBy_of_isChain (List.cons_ne_nil first rest)
        (isChain_of_continues first goesOn)
      have stops : ∀ a ∈ groups.flatten.head?, p a = false := by
        intro a isNext
        cases groups with
        | nil => cases isNext
        | cons next more =>
            obtain ⟨nextFirst, nextRest, rfl, stops, -⟩ := others _ (.head _)
            obtain rfl := Option.some.inj isNext
            exact stops
      rw [List.flatten_cons, List.splitBy_append fun _ _ => stops, whole, inductionHypothesis others,
        List.singleton_append]

end Groups

namespace Node

/-- The blocks inside an item. A node that is no item stands for an item with itself inside. -/
def itemChildren : Node → List Node
  | .listItem children => children
  | node => [node]

theorem blockText_eq_blocksText (item : Node) :
    item.blockText = blocksText true item.itemChildren := by
  have alone (node : Node) : node.blockText = blocksText true [node] := by
    have noGap : SiblingState.start.gap true node = [] := by
      simp [SiblingState.gap, SiblingState.start]
    rw [blocksText, siblingTexts_cons, siblingTexts, noGap, List.nil_append, List.append_nil,
      blockText_eq_textOf]
  cases item with
  | listItem children => rfl
  | _ => exact alone _

theorem itemTexts_eq_mapIdx
    (ordered : Bool)
    (marker : Char)
    (number : Nat)
    (items : List Node) :
    itemTexts ordered marker number items = items.mapIdx fun i item =>
      itemText (itemMarker ordered marker (number + i)) item.blockText := by
  induction items generalizing number with
  | nil =>
      rw [itemTexts]
      rfl
  | cons item rest inductionHypothesis =>
      rw [itemTexts, inductionHypothesis, List.mapIdx_cons]
      simp only [Nat.add_zero, Nat.add_assoc, Nat.add_comm 1]

section Lists

variable {ordered : Bool} {marker : Char} (isMarker : IsMarker ordered marker)
include isMarker

/-- Only the first line of an item does not go on with the item before it. -/
theorem begins_of_isItem
    {number : Nat}
    {lines : List (List Char)}
    (isItem : IsItem (itemMarker ordered marker number) lines) :
    ∃ first rest, lines = first :: rest ∧ continues first = false ∧
      ∀ line ∈ rest, continues line = true := by
  obtain ⟨first, rest, rfl, ⟨behind, rfl⟩, indented⟩ := isItem
  refine ⟨_, rest, rfl, ?_, fun line member => ?_⟩
  · obtain ⟨c, others, cut, visible, -⟩ := Reader.exists_itemMarker_eq_cons isMarker number
    rw [cut, List.cons_append, continues, List.isEmpty_cons, Bool.false_or, List.head?_cons]
    refine beq_eq_false_iff_ne.mpr fun isSpace => ?_
    cases isSpace
    cases visible
  · rcases indented line member with rfl | ⟨shown, rfl⟩
    · rfl
    · rw [List.replicate_succ]
      rfl

variable {items : List Node} (filled : items ≠ [])
include filled

/-- A list is cut into the lines of its items. -/
theorem itemLines_listText :
    itemLines (listText ordered marker items) = items.mapIdx fun i item =>
      lines (itemText (itemMarker ordered marker (i + 1)) item.blockText) := by
  have pieces_ne_nil : itemTexts ordered marker 1 items ≠ [] := by
    rw [itemTexts_eq_mapIdx]
    simpa using filled
  have groups : (itemTexts ordered marker 1 items).map lines = items.mapIdx fun i item =>
      lines (itemText (itemMarker ordered marker (i + 1)) item.blockText) := by
    rw [itemTexts_eq_mapIdx]
    refine List.ext_getElem? fun i => ?_
    simp [Nat.add_comm 1, Function.comp_def]
  rw [itemLines, listText, lines_unlines_eq_flatMap pieces_ne_nil, List.flatMap_def, groups]
  refine splitBy_flatten_of_continues fun group member => ?_
  obtain ⟨i, bounded, rfl⟩ := List.mem_mapIdx.mp member
  exact begins_of_isItem isMarker
    (isItem_lines_itemText (newline_notMem_itemMarker isMarker (i + 1)) items[i].blockText)

theorem listBodies_listText :
    listBodies ordered marker (listText ordered marker items) =
      items.map fun item => blocksText true item.itemChildren := by
  rw [listBodies, itemLines_listText isMarker filled, List.mapIdx_mapIdx]
  refine List.ext_getElem? fun i => ?_
  rw [List.getElem?_mapIdx, List.getElem?_map]
  refine congrArg (Option.map · _) (funext fun item => ?_)
  rw [← blockText_eq_blocksText]
  exact itemBody_lines_itemText (newline_notMem_itemMarker isMarker (i + 1)) item.blockText

end Lists

/-- What stands inside a quote comes back when its signs are taken off, and the contents of the items of a
list come back from the lines of the list, whatever they are: each item begins with its marker and goes
on with lines that are empty or indented. -/
theorem container_prefixes_lossless
    (children : List Node)
    {ordered : Bool}
    {marker : Char}
    (isMarker : IsMarker ordered marker)
    {items : List Node}
    (filled : items ≠ []) :
    let quote := (blockquote children).blockText
    let list := listText ordered marker items
    (∀ line ∈ lines quote, line.head? = some '>') ∧
      unquoted quote = blocksText false children ∧
      (itemLines list).flatten = lines list ∧
      (itemLines list).length = items.length ∧
      (∀ i group, (itemLines list)[i]? = some group →
        IsItem (itemMarker ordered marker (i + 1)) group) ∧
      listBodies ordered marker list = items.map fun item => blocksText true item.itemChildren := by
  intro quote list
  have groups := itemLines_listText isMarker filled
  refine ⟨fun line member => ?_, unquoted_quoteText _, List.flatten_splitBy .., ?_,
    fun i group isGroup => ?_, listBodies_listText isMarker filled⟩
  · have written : lines quote = (lines (blocksText false children)).map quoteLine :=
      lines_quoteText_eq_map _
    rw [written] at member
    obtain ⟨shown, -, rfl⟩ := List.mem_map.mp member
    exact Reader.head?_quoteLine shown
  · rw [groups, List.length_mapIdx]
  · rw [groups, List.getElem?_mapIdx] at isGroup
    obtain ⟨item, -, rfl⟩ := Option.map_eq_some_iff.mp isGroup
    exact isItem_lines_itemText (newline_notMem_itemMarker isMarker (i + 1)) item.blockText

/-- A list whose marker gets wider at the tenth item, which holds code with empty lines and a line that
looks like an item. -/
theorem container_prefixes_lossless_for_code :
    let code : Node := .code none "\n\n  1) b"
    let items : List Node := List.replicate 9 (.listItem []) ++ [.listItem [code], .list false [code]]
    let body : List Char := "\x60\x60\x60\n\n\n  1) b\n\x60\x60\x60".toList
    let listBody : List Char := "- \x60\x60\x60\n\n\n    1) b\n  \x60\x60\x60".toList
    IsMarker true ')' ∧ items ≠ [] ∧
      listBodies true ')' (listText true ')' items) = List.replicate 9 [] ++ [body, listBody] ∧
      unquoted (blockquote [code]).blockText = body := by
  intro code items body listBody
  have isMarker : IsMarker true ')' := .inr rfl
  have filled : items ≠ [] := List.cons_ne_nil _ _
  obtain ⟨-, quoted, -, -, -, bodies⟩ := container_prefixes_lossless [code] isMarker filled
  refine ⟨isMarker, filled, bodies.trans ?_, quoted.trans ?_⟩
  all_goals decide +kernel

end Node

end Markdown
end TwinEditor
