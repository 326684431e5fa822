import Mathlib.Data.List.Basic
import Mathlib.Data.List.Nodup
import TwinEditor.Proofs.RichText.NormalForm

/-!
# Trees that survive the way through rich text

A Markdown tree goes to rich text and back. The main statement says for exactly which trees this
changes nothing. What comes back consists of chains of wrappers around one leaf, with the wrappers
of each chain in the opposite order and none of them twice; so of the inline nodes only those with
at most one wrapper survive. Among blocks whatever has no counterpart is dropped, and a sequence
that has lost something is shorter than before.
-/

namespace TwinEditor

namespace Markdown

namespace Node

/-- Whether a node is a leaf with a text that is not empty. -/
def isFilledLeaf : Node → Bool
  | .text value | .inlineCode value => value != ""
  | _ => false

/-- Whether an inline node is a filled leaf, or a single wrapper around one. -/
def isSimple : Node → Bool
  | .strong [leaf] | .emphasis [leaf] | .link _ [leaf] => leaf.isFilledLeaf
  | node => node.isFilledLeaf

mutual

/-- Whether a node is a block that holds, at any depth, nothing that rich text cannot hold. -/
def isLossless : Node → Bool
  | .heading depth children => depth != 0 && children.all isSimple
  | .paragraph children => children.all isSimple
  | .list _ children => children.all isListItem && areLossless children
  | .listItem children | .blockquote children => areLossless children
  | .code lang _ => lang != some ""
  | .thematicBreak => true
  | _ => false

/-- Whether every one of some nodes is such a block. -/
def areLossless : List Node → Bool
  | [] => true
  | node :: rest => node.isLossless && areLossless rest

end

/-- The mark that the wrapper at a node is read as, if the node is one. -/
def wrapper? : Node → Option RichText.Mark
  | .strong _ => some .bold
  | .emphasis _ => some .italic
  | .link url _ => some (.linkTo url)
  | _ => none

end Node

/-- Whether a tree has a block and holds nothing that rich text cannot hold. -/
def Tree.isLossless (tree : Tree) : Bool :=
  !tree.isEmpty && Node.areLossless tree.children

end Markdown

namespace RichText

/-! ## Stacks of marks -/

/-- Marks as they are collected on the way to a leaf: none of them twice, and each as it is read
from a wrapper or from a leaf of code. -/
structure Mark.Stacked (marks : List Mark) : Prop where
  nodup : marks.Nodup
  read : ∀ mark ∈ marks, mark = .code ∨ mark.returned? = some mark

theorem Mark.Stacked.addTo
    {marks : List Mark}
    (stacked : Stacked marks)
    {mark : Mark}
    (read : mark = .code ∨ mark.returned? = some mark) :
    Stacked (mark.addTo marks) := by
  unfold Mark.addTo
  split
  case isTrue => exact stacked
  case isFalse absent =>
    constructor
    · rw [← List.concat_eq_append]
      exact List.Nodup.concat absent stacked.nodup
    · intro other member
      rcases List.mem_append.mp member with old | new
      · exact stacked.read other old
      · exact List.mem_singleton.mp new ▸ read

theorem Mark.prefix_addTo
    (marks : List Mark)
    (mark : Mark) :
    marks <+: mark.addTo marks := by
  unfold Mark.addTo
  split
  · exact List.prefix_rfl
  · exact List.prefix_append marks [mark]

/-- A node is a run that is met below some marks: it has a text, and the marks above come first. -/
def IsRunBelow (marks : List Mark) (node : Node) : Prop :=
  ∃ text all, node = .text text all ∧ text ≠ "" ∧ Mark.Stacked all ∧ marks <+: all

theorem IsRunBelow.of_addTo
    {marks : List Mark}
    {mark : Mark}
    {node : Node}
    (below : IsRunBelow (mark.addTo marks) node) :
    IsRunBelow marks node := by
  obtain ⟨text, all, equal, filled, stacked, begins⟩ := below
  exact ⟨text, all, equal, filled, stacked, (Mark.prefix_addTo marks mark).trans begins⟩

theorem isRunBelow_of_mem_run
    {marks : List Mark}
    (stacked : Mark.Stacked marks)
    {value : String}
    {node : Node}
    (member : node ∈ run value marks) :
    IsRunBelow marks node := by
  unfold run at member
  split at member
  case isTrue => cases member
  case isFalse filled =>
    refine ⟨value, marks, List.mem_singleton.mp member, ?_, stacked, List.prefix_rfl⟩
    rintro rfl
    exact filled rfl

mutual

/-- An inline node below some marks gives runs that are met below them. -/
theorem isRunBelow_of_mem_runsOfInline
    (marks : List Mark)
    (stacked : Mark.Stacked marks) :
    (inline : Markdown.Node) →
    ∀ node ∈ runsOfInline marks inline, IsRunBelow marks node
  | .text value, node, member => isRunBelow_of_mem_run stacked member
  | .inlineCode value, node, member =>
      (isRunBelow_of_mem_run (stacked.addTo (.inl rfl)) member).of_addTo
  | .strong children, node, member =>
      (isRunBelow_of_mem_runsOfInlines _ (stacked.addTo (.inr rfl)) children node member).of_addTo
  | .emphasis children, node, member =>
      (isRunBelow_of_mem_runsOfInlines _ (stacked.addTo (.inr rfl)) children node member).of_addTo
  | .link _ children, node, member =>
      (isRunBelow_of_mem_runsOfInlines _ (stacked.addTo (.inr rfl)) children node member).of_addTo
  | .heading .., _, member | .paragraph _, _, member | .list .., _, member
  | .listItem _, _, member | .code .., _, member | .blockquote _, _, member
  | .thematicBreak, _, member | .delete _, _, member | .lineBreak, _, member
  | .html _, _, member | .image .., _, member | .table .., _, member
  | .tableRow _, _, member | .tableCell _, _, member => by cases member

/-- Inline nodes below some marks give runs that are met below them. -/
theorem isRunBelow_of_mem_runsOfInlines
    (marks : List Mark)
    (stacked : Mark.Stacked marks) :
    (inlines : List Markdown.Node) →
    ∀ node ∈ runsOfInlines marks inlines, IsRunBelow marks node
  | [], _, member => by cases member
  | inline :: rest, node, member => by
      rcases List.mem_append.mp member with first | later
      · exact isRunBelow_of_mem_runsOfInline marks stacked inline node first
      · exact isRunBelow_of_mem_runsOfInlines marks stacked rest node later

end

/-! ## Chains of wrappers -/

/-- Wrappers around a node change nothing, or one of them is outermost. -/
theorem foldl_wrap_eq_or
    (inner : Markdown.Node)
    (marks : List Mark) :
    marks.foldl Mark.wrap inner = inner ∨
      ∃ mark ∈ marks, mark.returned? ≠ none ∧
        (marks.foldl Mark.wrap inner).wrapper? = mark.returned? := by
  induction marks using List.reverseRecOn with
  | nil => exact .inl rfl
  | append_singleton marks mark inductionHypothesis =>
      rw [List.foldl_append]
      have last : mark ∈ marks ++ [mark] := List.mem_append_right _ (List.mem_singleton_self mark)
      cases mark with
      | bold => exact .inr ⟨.bold, last, nofun, rfl⟩
      | italic => exact .inr ⟨.italic, last, nofun, rfl⟩
      | link href target => exact .inr ⟨.link href target, last, nofun, rfl⟩
      | code | unsupported =>
          rcases inductionHypothesis with same | ⟨mark, member, wraps, outermost⟩
          · exact .inl same
          · exact .inr ⟨mark, List.mem_append_left _ member, wraps, outermost⟩

/-- A chain that begins with a wrapper and has the same wrapper outermost is that wrapper alone. -/
theorem foldl_wrap_eq_of_wrapper?
    {mark : Mark}
    {rest : List Mark}
    (stacked : Mark.Stacked (mark :: rest))
    {inner : Markdown.Node}
    (outermost : (rest.foldl Mark.wrap inner).wrapper? = some mark) :
    rest.foldl Mark.wrap inner = inner := by
  rcases foldl_wrap_eq_or inner rest with same | ⟨other, member, wraps, otherOutermost⟩
  · exact same
  · have absent := (List.nodup_cons.mp stacked.nodup).1
    have returned := otherOutermost.symm.trans outermost
    rcases stacked.read other (List.mem_cons_of_mem _ member) with rfl | read
    · exact absurd rfl wraps
    · obtain rfl := Option.some.inj (read.symm.trans returned)
      exact absurd member absent

/-- A wrapper around one filled leaf is simple. -/
theorem isSimple_wrap
    {mark : Mark}
    (read : mark.returned? = some mark)
    {leaf : Markdown.Node}
    (filled : leaf.isFilledLeaf = true) :
    (mark.wrap leaf).isSimple = true := by
  cases mark with
  | bold => exact filled
  | italic => exact filled
  | link href target => exact filled
  | code => cases read
  | unsupported => cases read

/-- A wrapper gives the runs of its children below its mark. -/
theorem runsOfInline_of_wrapper?
    {inline : Markdown.Node}
    {mark : Mark}
    (wraps : inline.wrapper? = some mark) :
    runsOfInline [] inline = runsOfInlines [mark] inline.children ∧
      mark.returned? = some mark := by
  cases inline <;> cases wraps <;> exact ⟨rfl, rfl⟩

/-- A text that gives a run is not empty. -/
theorem ne_empty_of_mem_run
    {value : String}
    {marks : List Mark}
    {node : Node}
    (member : node ∈ run value marks) :
    (value != "") = true := by
  rw [bne_iff_ne]
  rintro rfl
  cases member

/-- An inline node that is no wrapper gives a run only if it is a filled leaf. -/
theorem isSimple_of_wrapper?_eq_none
    {inline : Markdown.Node}
    {node : Node}
    (unwrapped : inline.wrapper? = none)
    (member : node ∈ runsOfInline [] inline) :
    inline.isSimple = true := by
  cases inline with
  | text value => exact ne_empty_of_mem_run member
  | inlineCode value => exact ne_empty_of_mem_run member
  | strong | emphasis | link => cases unwrapped
  | _ => cases member

/-- An inline node that is the chain for one of its own runs has at most one wrapper. -/
theorem isSimple_of_mem_runsOfInline
    {inline : Markdown.Node}
    {text : String}
    {marks : List Mark}
    (member : .text text marks ∈ runsOfInline [] inline)
    (same : markdownOfRun text marks = inline) :
    inline.isSimple = true := by
  cases wraps : inline.wrapper? with
  | none => exact isSimple_of_wrapper?_eq_none wraps member
  | some mark =>
      obtain ⟨runs, read⟩ := runsOfInline_of_wrapper? wraps
      have single : Mark.Stacked [mark] :=
        ⟨List.nodup_singleton mark, fun other inside => List.mem_singleton.mp inside ▸ .inr read⟩
      obtain ⟨_, _, equal, filled, stacked, rest, rfl⟩ :=
        isRunBelow_of_mem_runsOfInlines [mark] single inline.children _ (runs ▸ member)
      obtain ⟨rfl, rfl⟩ := Node.text.inj equal
      rw [← same] at wraps ⊢
      rw [markdownOfRun, List.singleton_append, List.foldl_cons] at wraps ⊢
      have alone : Mark.Stacked (mark :: rest) := stacked
      rw [foldl_wrap_eq_of_wrapper? alone wraps]
      apply isSimple_wrap read
      split <;> simpa [Markdown.Node.isFilledLeaf] using filled

/-! ## Inline nodes -/

theorem inlinesToMarkdown_append (runs later : List Node) :
    inlinesToMarkdown (runs ++ later) = inlinesToMarkdown runs ++ inlinesToMarkdown later := by
  induction runs with
  | nil => rfl
  | cons node runs inductionHypothesis =>
      cases node with
      | text value marks =>
          rw [List.cons_append, inlinesToMarkdown, inlinesToMarkdown, inductionHypothesis,
            List.cons_append]
      | _ => exact inductionHypothesis

/-- Every node for the runs of a heading or paragraph is the chain for one of them. -/
theorem exists_run_of_mem_inlinesToMarkdown
    {runs : List Node}
    {inline : Markdown.Node}
    (member : inline ∈ inlinesToMarkdown runs) :
    ∃ text marks, .text text marks ∈ runs ∧ markdownOfRun text marks = inline := by
  induction runs with
  | nil => cases member
  | cons node runs inductionHypothesis =>
      have later (inside : inline ∈ inlinesToMarkdown runs) :
          ∃ text marks, .text text marks ∈ node :: runs ∧ markdownOfRun text marks = inline := by
        obtain ⟨text, marks, run, same⟩ := inductionHypothesis inside
        exact ⟨text, marks, List.mem_cons_of_mem _ run, same⟩
      cases node with
      | text value marks =>
          rcases List.mem_cons.mp member with rfl | inside
          · exact ⟨value, marks, List.mem_cons_self, rfl⟩
          · exact later inside
      | _ => exact later member

theorem run_of_ne_empty
    {text : String}
    (filled : text ≠ "")
    (marks : List Mark) :
    run text marks = [.text text marks] := by
  rw [run, if_neg (by simpa using filled)]

/-- A filled leaf, alone or in one wrapper, comes back as it is. -/
theorem inlinesToMarkdown_runsOfInline_of_isFilledLeaf
    {leaf : Markdown.Node}
    (filled : leaf.isFilledLeaf = true) :
    inlinesToMarkdown (runsOfInline [] leaf) = [leaf] ∧
      ∀ mark : Mark, mark.returned? = some mark →
        inlinesToMarkdown (runsOfInline [mark] leaf) = [mark.wrap leaf] := by
  cases leaf with
  | text value =>
      have value_ne : value ≠ "" := by simpa [Markdown.Node.isFilledLeaf] using filled
      simp only [runsOfInline, run_of_ne_empty value_ne]
      refine ⟨rfl, fun mark read => ?_⟩
      cases mark with
      | code => cases read
      | _ => rfl
  | inlineCode value =>
      have value_ne : value ≠ "" := by simpa [Markdown.Node.isFilledLeaf] using filled
      simp only [runsOfInline, run_of_ne_empty value_ne]
      refine ⟨rfl, fun mark read => ?_⟩
      cases mark <;> rfl
  | _ => cases filled

/-- A simple node is a filled leaf, alone or in one wrapper. -/
theorem exists_of_isSimple
    {inline : Markdown.Node}
    (simple : inline.isSimple = true) :
    inline.isFilledLeaf = true ∨
      ∃ (mark : Mark) (leaf : Markdown.Node), mark.returned? = some mark ∧
        leaf.isFilledLeaf = true ∧ mark.wrap leaf = inline := by
  unfold Markdown.Node.isSimple at simple
  split at simple
  case h_1 leaf => exact .inr ⟨.bold, leaf, rfl, simple, rfl⟩
  case h_2 leaf => exact .inr ⟨.italic, leaf, rfl, simple, rfl⟩
  case h_3 url leaf => exact .inr ⟨.linkTo url, leaf, rfl, simple, rfl⟩
  case h_4 => exact .inl simple

/-- A simple node comes back as it is. -/
theorem inlinesToMarkdown_runsOfInline_of_isSimple
    {inline : Markdown.Node}
    (simple : inline.isSimple = true) :
    inlinesToMarkdown (runsOfInline [] inline) = [inline] := by
  rcases exists_of_isSimple simple with filled | ⟨mark, leaf, read, filled, rfl⟩
  · exact (inlinesToMarkdown_runsOfInline_of_isFilledLeaf filled).1
  · rw [runsOfInline_wrap, read]
    exact (inlinesToMarkdown_runsOfInline_of_isFilledLeaf filled).2 mark read

/-- If chains of wrappers come back as they are, each of them does. -/
theorem all_isSimple_of_chains
    {inlines : List Markdown.Node}
    (chains : ∀ inline ∈ inlines, ∃ text marks, runsOfInline [] inline = [.text text marks])
    (same : inlinesToMarkdown (runsOfInlines [] inlines) = inlines) :
    inlines.all Markdown.Node.isSimple = true := by
  induction inlines with
  | nil => rfl
  | cons inline rest inductionHypothesis =>
      obtain ⟨text, marks, one⟩ := chains inline List.mem_cons_self
      rw [runsOfInlines, inlinesToMarkdown_append, one] at same
      obtain ⟨sameInline, sameRest⟩ := List.cons.inj same
      rw [List.all_cons, Bool.and_eq_true]
      refine ⟨isSimple_of_mem_runsOfInline ?_ sameInline, inductionHypothesis ?_ sameRest⟩
      · rw [one]
        exact List.mem_singleton_self _
      · exact fun other member => chains other (List.mem_cons_of_mem _ member)

/-- The children of a heading or paragraph come back as they are exactly if they are simple. -/
theorem inlinesToMarkdown_runsOfInlines_eq_self_iff (inlines : List Markdown.Node) :
    inlinesToMarkdown (runsOfInlines [] inlines) = inlines ↔
      inlines.all Markdown.Node.isSimple = true := by
  constructor
  · intro same
    -- What comes back are chains, and each chain gives one run.
    apply all_isSimple_of_chains _ same
    intro inline member
    rw [← same] at member
    obtain ⟨text, marks, inside, rfl⟩ := exists_run_of_mem_inlinesToMarkdown member
    have empty : Mark.Stacked [] := ⟨List.nodup_nil, nofun⟩
    obtain ⟨_, _, equal, filled, _⟩ := isRunBelow_of_mem_runsOfInlines [] empty inlines _ inside
    obtain ⟨rfl, rfl⟩ := Node.text.inj equal
    exact ⟨text, _, by rw [runsOfInline_markdownOfRun, run_of_ne_empty filled]⟩
  · intro simple
    induction inlines with
    | nil => rfl
    | cons inline rest inductionHypothesis =>
        rw [List.all_cons, Bool.and_eq_true] at simple
        rw [runsOfInlines, inlinesToMarkdown_append,
          inlinesToMarkdown_runsOfInline_of_isSimple simple.1, inductionHypothesis simple.2,
          List.singleton_append]

/-! ## Blocks -/

/-- The block that comes back for a node among blocks, if one does. -/
def blockBack? (node : Markdown.Node) : Option Markdown.Node :=
  (blockOfMarkdown? node).bind blockToMarkdown?

/-- The item that comes back for a node in a list, if one does. -/
def itemBack? (node : Markdown.Node) : Option Markdown.Node :=
  if node.isListItem then blockBack? node else none

theorem itemBack?_eq_some_self_iff (node : Markdown.Node) :
    itemBack? node = some node ↔ node.isListItem = true ∧ blockBack? node = some node := by
  simp [itemBack?]

/-- Each node among blocks comes back by itself. -/
theorem blocksToMarkdown_blocksOfMarkdown (nodes : List Markdown.Node) :
    blocksToMarkdown (blocksOfMarkdown nodes) = nodes.filterMap blockBack? := by
  induction nodes with
  | nil => rfl
  | cons node rest inductionHypothesis =>
      rw [blocksOfMarkdown, List.filterMap_cons, blockBack?, ← inductionHypothesis]
      cases blockOfMarkdown? node with
      | none => rfl
      | some block =>
          rw [Option.toList_some, List.singleton_append, blocksToMarkdown, Option.bind_some]
          cases blockToMarkdown? block <;> rfl

/-- Each node of a list comes back by itself. -/
theorem itemsToMarkdown_itemsOfMarkdown (nodes : List Markdown.Node) :
    itemsToMarkdown (itemsOfMarkdown nodes) = nodes.filterMap itemBack? := by
  induction nodes with
  | nil => rfl
  | cons node rest inductionHypothesis =>
      rw [List.filterMap_cons, ← inductionHypothesis]
      cases node <;> rfl

theorem blockBack?_heading
    (depth : UInt8)
    (children : List Markdown.Node) :
    blockBack? (.heading depth children) =
      some (.heading (max depth 1) (inlinesToMarkdown (runsOfInlines [] children))) := by
  rw [← inlineRuns_eq]
  rfl

theorem blockBack?_paragraph (children : List Markdown.Node) :
    blockBack? (.paragraph children) =
      some (.paragraph (inlinesToMarkdown (runsOfInlines [] children))) := by
  rw [← inlineRuns_eq]
  rfl

theorem blockBack?_list
    (ordered : Bool)
    (children : List Markdown.Node) :
    blockBack? (.list ordered children) = some (.list ordered (children.filterMap itemBack?)) := by
  rw [← itemsToMarkdown_itemsOfMarkdown]
  cases ordered <;> rfl

theorem blockBack?_listItem (children : List Markdown.Node) :
    blockBack? (.listItem children) = some (.listItem (children.filterMap blockBack?)) := by
  rw [← blocksToMarkdown_blocksOfMarkdown]
  rfl

theorem blockBack?_blockquote (children : List Markdown.Node) :
    blockBack? (.blockquote children) = some (.blockquote (children.filterMap blockBack?)) := by
  rw [← blocksToMarkdown_blocksOfMarkdown]
  rfl

/-- Code keeps its text, and its language unless that is empty. -/
theorem blockBack?_code
    (lang : Option String)
    (value : String) :
    blockBack? (.code lang value) = some (.code (if lang = some "" then none else lang) value) := by
  have text : Node.textContents (run value []) = value := by
    by_cases empty : value = ""
    · rw [empty]
      rfl
    · rw [run_of_ne_empty empty]
      exact String.append_empty
  rw [blockBack?, blockOfMarkdown?, Option.bind_some, blockToMarkdown?, text, filter_not_isEmpty]

/-- A sequence of which some are dropped is the same as before exactly if each stays as it is. -/
theorem filterMap_eq_self_iff
    (back? : Markdown.Node → Option Markdown.Node)
    (nodes : List Markdown.Node) :
    nodes.filterMap back? = nodes ↔ ∀ node ∈ nodes, back? node = some node := by
  simpa using List.filterMap_eq_map_iff_forall_eq_some (f := back?) (g := id) (l := nodes)

mutual

/-- A node among blocks comes back as it is exactly if it is lossless. -/
theorem blockBack?_eq_some_self_iff :
    (node : Markdown.Node) →
    (blockBack? node = some node ↔ node.isLossless = true)
  | .heading depth children => by
      have deep : max depth 1 = depth ↔ depth ≠ 0 := by
        rw [max_one_eq]
        grind
      simp [blockBack?_heading, inlinesToMarkdown_runsOfInlines_eq_self_iff, deep,
        Markdown.Node.isLossless]
  | .paragraph children => by
      simp [blockBack?_paragraph, inlinesToMarkdown_runsOfInlines_eq_self_iff,
        Markdown.Node.isLossless]
  | .list ordered children => by
      simp [blockBack?_list, filterMap_eq_self_iff, itemBack?_eq_some_self_iff, forall_and,
        forall_blockBack?_eq_some_self_iff children, Markdown.Node.isLossless]
  | .listItem children => by
      simp [blockBack?_listItem, filterMap_eq_self_iff,
        forall_blockBack?_eq_some_self_iff children, Markdown.Node.isLossless]
  | .blockquote children => by
      simp [blockBack?_blockquote, filterMap_eq_self_iff,
        forall_blockBack?_eq_some_self_iff children, Markdown.Node.isLossless]
  | .code lang value => by
      by_cases empty : lang = some "" <;> simp [blockBack?_code, Markdown.Node.isLossless, empty]
  | .thematicBreak => ⟨fun _ => rfl, fun _ => rfl⟩
  | .text _ | .strong _ | .emphasis _ | .inlineCode _ | .link .. | .delete _ | .lineBreak
  | .html _ | .image .. | .table .. | .tableRow _ | .tableCell _ => ⟨nofun, nofun⟩

/-- Nodes among blocks all come back as they are exactly if they are lossless. -/
theorem forall_blockBack?_eq_some_self_iff :
    (nodes : List Markdown.Node) →
    ((∀ node ∈ nodes, blockBack? node = some node) ↔ Markdown.Node.areLossless nodes = true)
  | [] => ⟨fun _ => rfl, fun _ => nofun⟩
  | node :: rest => by
      rw [List.forall_mem_cons, Markdown.Node.areLossless, Bool.and_eq_true,
        blockBack?_eq_some_self_iff node, forall_blockBack?_eq_some_self_iff rest]

end

/-- The blocks of a document come back as they are exactly if they are lossless. -/
theorem blocksToMarkdown_blocksOfMarkdown_eq_self_iff (nodes : List Markdown.Node) :
    blocksToMarkdown (blocksOfMarkdown nodes) = nodes ↔
      Markdown.Node.areLossless nodes = true := by
  rw [blocksToMarkdown_blocksOfMarkdown, filterMap_eq_self_iff,
    forall_blockBack?_eq_some_self_iff]

/-- A tree goes to rich text and comes back as it is exactly if it has a block and holds, at any
depth, nothing but headings of at least depth one, paragraphs, lists of list items, list items, code
whose language is not the empty text, block quotes and thematic breaks, with nothing in headings and
paragraphs but filled leaves, alone or in one wrapper. -/
theorem Document.toMarkdown_ofMarkdown_eq_self_iff (tree : Markdown.Tree) :
    (Document.ofMarkdown tree).toMarkdown = tree ↔ tree.isLossless = true := by
  obtain ⟨children⟩ := tree
  have blocksBack := blocksToMarkdown_blocksOfMarkdown_eq_self_iff children
  rw [ofMarkdown, Markdown.Tree.isLossless, Bool.and_eq_true, ← blocksBack]
  cases blocks : blocksOfMarkdown children with
  | nil =>
      -- The empty paragraph that comes back would itself have been a block.
      constructor
      · rintro same
        obtain rfl := Markdown.Tree.mk.inj same
        cases blocks
      · rintro ⟨filled, rfl⟩
        cases filled
  | cons block rest =>
      have filled : (!Markdown.Tree.isEmpty ⟨children⟩) = true := by
        cases children with
        | nil => cases blocks
        | cons => rfl
      simp [toMarkdown, filled]

/-- One wrapper survives, and so does code in it; two wrappers change places. -/
example :
    Document.toMarkdown (.ofMarkdown ⟨[.paragraph [.strong [.inlineCode "a"]]]⟩) =
        ⟨[.paragraph [.strong [.inlineCode "a"]]]⟩ ∧
      Document.toMarkdown (.ofMarkdown ⟨[.paragraph [.strong [.emphasis [.text "a"]]]]⟩) =
        ⟨[.paragraph [.emphasis [.strong [.text "a"]]]]⟩ :=
  ⟨rfl, rfl⟩

end RichText
end TwinEditor
