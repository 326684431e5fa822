import Mathlib.Data.List.Forall2
import TwinEditor.Proofs.RichText.Lossless

/-!
# Runs are leaves

A heading or paragraph of rich text has one run for each leaf of its Markdown block that is not
empty, in document order. A leaf is a text or inline code with nothing but wrappers around it. Its
run has the marks of these wrappers from the outermost inwards, each once, and the code mark last.
So the marks of a run depend on nothing but the way to its leaf.
-/

namespace TwinEditor

namespace Markdown.Node

mutual

/-- The headings and paragraphs of a node among blocks in document order: the node itself or, at any
depth, those in quotes and in the items of lists. -/
def textBlocks : Node → List Node
  | .heading depth children => [.heading depth children]
  | .paragraph children => [.paragraph children]
  | .list _ children => textBlocksOfItems children
  | .listItem children | .blockquote children => textBlocksOf children
  | _ => []

/-- The headings and paragraphs of nodes among blocks. -/
def textBlocksOf : List Node → List Node
  | [] => []
  | node :: rest => node.textBlocks ++ textBlocksOf rest

/-- The headings and paragraphs of the nodes in a list, of which only list items count. -/
def textBlocksOfItems : List Node → List Node
  | [] => []
  | .listItem children :: rest => textBlocksOf children ++ textBlocksOfItems rest
  | _ :: rest => textBlocksOfItems rest

end

end Markdown.Node

namespace RichText

namespace Node

mutual

/-- All headings and paragraphs in a node, with itself, in document order. -/
def textBlocks : Node → List Node
  | .heading level content => .heading level content :: textBlocksOf content
  | .paragraph content => .paragraph content :: textBlocksOf content
  | .bulletList content | .orderedList content | .listItem content | .codeBlock _ content
  | .blockquote content => textBlocksOf content
  | .horizontalRule | .text .. | .unsupported => []

/-- All headings and paragraphs in a sequence of nodes. -/
def textBlocksOf : List Node → List Node
  | [] => []
  | node :: rest => node.textBlocks ++ textBlocksOf rest

end

end Node

/-- A leaf of inline content: the index of each node on the way to it, the marks of the wrappers on
the way, from the outermost inwards, and its text. -/
structure Leaf where
  position : List Nat
  wrappers : List Mark
  isCode : Bool
  text : String
  deriving Repr, DecidableEq

namespace Leaf

/-- A leaf of the children of a wrapper, seen from around the wrapper. -/
def below (index : Nat) (mark : Mark) (leaf : Leaf) : Leaf where
  position := index :: leaf.position
  wrappers := mark :: leaf.wrappers
  isCode := leaf.isCode
  text := leaf.text

/-- The marks of a leaf: those of its wrappers, of which repetitions are left out, and then the code
mark if it is inline code. -/
def marks (leaf : Leaf) : List Mark :=
  leaf.wrappers.eraseDups ++ if leaf.isCode then [.code] else []

/-- The run of a leaf. -/
def run (leaf : Leaf) : Node :=
  .text leaf.text leaf.marks

end Leaf

/-- Leaves of a sequence of inline nodes: the texts and the inline code that stand in it or, at any
depth, in one of its wrappers. -/
inductive IsLeaf : List Markdown.Node → Leaf → Prop
  | text {nodes : List Markdown.Node} {index : Nat} {value : String} :
      nodes[index]? = some (.text value) →
      IsLeaf nodes ⟨[index], [], false, value⟩
  | code {nodes : List Markdown.Node} {index : Nat} {value : String} :
      nodes[index]? = some (.inlineCode value) →
      IsLeaf nodes ⟨[index], [], true, value⟩
  | within {nodes : List Markdown.Node} {index : Nat} {wrapper : Markdown.Node} {mark : Mark}
      {leaf : Leaf} :
      nodes[index]? = some wrapper →
      wrapper.wrapper? = some mark →
      IsLeaf wrapper.children leaf →
      IsLeaf nodes (leaf.below index mark)

/-- Runs that are the filled leaves of some inline nodes, one to one and in document order. -/
structure AreLeaves (children : List Markdown.Node) (runs : List Node) (leaves : List Leaf) :
    Prop where
  ordered : leaves.Pairwise fun earlier later => earlier.position < later.position
  exact : ∀ leaf, leaf ∈ leaves ↔ IsLeaf children leaf ∧ leaf.text ≠ ""
  runs_eq : runs = leaves.map Leaf.run

/-- A heading or paragraph of rich text that has the filled leaves of a Markdown block as its runs. -/
inductive HasRunsOf : Markdown.Node → Node → Prop
  | heading {depth : UInt8} {children : List Markdown.Node} {runs : List Node}
      {leaves : List Leaf} :
      AreLeaves children runs leaves →
      HasRunsOf (.heading depth children) (.heading depth runs)
  | paragraph {children : List Markdown.Node} {runs : List Node} {leaves : List Leaf} :
      AreLeaves children runs leaves →
      HasRunsOf (.paragraph children) (.paragraph runs)

/-! ## Listing leaves -/

mutual

/-- The leaves of the node with an index in document order. -/
def leavesAt (index : Nat) : Markdown.Node → List Leaf
  | .text value => [⟨[index], [], false, value⟩]
  | .inlineCode value => [⟨[index], [], true, value⟩]
  | .strong children => (leavesFrom 0 children).map (Leaf.below index .bold)
  | .emphasis children => (leavesFrom 0 children).map (Leaf.below index .italic)
  | .link url children => (leavesFrom 0 children).map (Leaf.below index (.linkTo url))
  | _ => []

/-- The leaves of the nodes from an index on in document order. -/
def leavesFrom (index : Nat) : List Markdown.Node → List Leaf
  | [] => []
  | node :: rest => leavesAt index node ++ leavesFrom (index + 1) rest

end

theorem leavesAt_of_wrapper?
    {wrapper : Markdown.Node}
    {mark : Mark}
    (wraps : wrapper.wrapper? = some mark)
    (index : Nat) :
    leavesAt index wrapper = (leavesFrom 0 wrapper.children).map (Leaf.below index mark) := by
  cases wrapper <;> cases wraps <;> rfl

theorem mem_leavesFrom_of_getElem?
    {nodes : List Markdown.Node}
    {index : Nat}
    {node : Markdown.Node}
    (found : nodes[index]? = some node)
    {first : Nat}
    {leaf : Leaf}
    (member : leaf ∈ leavesAt (first + index) node) :
    leaf ∈ leavesFrom first nodes := by
  induction nodes generalizing first index with
  | nil => cases found
  | cons head rest inductionHypothesis =>
      rw [leavesFrom, List.mem_append]
      cases index with
      | zero =>
          obtain rfl := Option.some.inj found
          exact .inl member
      | succ index =>
          right
          apply inductionHypothesis found
          rwa [Nat.add_assoc, Nat.add_comm 1]

theorem mem_leavesFrom_of_isLeaf
    {nodes : List Markdown.Node}
    {leaf : Leaf}
    (isLeaf : IsLeaf nodes leaf) :
    leaf ∈ leavesFrom 0 nodes := by
  induction isLeaf with
  | text found =>
      apply mem_leavesFrom_of_getElem? found
      rw [Nat.zero_add]
      exact List.mem_singleton_self _
  | code found =>
      apply mem_leavesFrom_of_getElem? found
      rw [Nat.zero_add]
      exact List.mem_singleton_self _
  | within found wraps _ inductionHypothesis =>
      apply mem_leavesFrom_of_getElem? found
      rw [Nat.zero_add, leavesAt_of_wrapper? wraps]
      exact List.mem_map_of_mem inductionHypothesis

mutual

theorem isLeaf_of_mem_leavesAt
    {nodes : List Markdown.Node}
    {index : Nat}
    {leaf : Leaf} :
    (node : Markdown.Node) →
    nodes[index]? = some node →
    leaf ∈ leavesAt index node →
    IsLeaf nodes leaf
  | .text value, found, member => by
      rw [List.mem_singleton.mp member]
      exact .text found
  | .inlineCode value, found, member => by
      rw [List.mem_singleton.mp member]
      exact .code found
  | .strong children, found, member => by
      obtain ⟨inner, inside, rfl⟩ := List.mem_map.mp member
      exact .within found rfl (isLeaf_of_mem_leavesFrom children (List.drop_zero) inside)
  | .emphasis children, found, member => by
      obtain ⟨inner, inside, rfl⟩ := List.mem_map.mp member
      exact .within found rfl (isLeaf_of_mem_leavesFrom children (List.drop_zero) inside)
  | .link url children, found, member => by
      obtain ⟨inner, inside, rfl⟩ := List.mem_map.mp member
      exact .within found rfl (isLeaf_of_mem_leavesFrom children (List.drop_zero) inside)
  | .heading .., _, member | .paragraph _, _, member | .list .., _, member
  | .listItem _, _, member | .code .., _, member | .blockquote _, _, member
  | .thematicBreak, _, member | .delete _, _, member | .lineBreak, _, member
  | .html _, _, member | .image .., _, member | .table .., _, member
  | .tableRow _, _, member | .tableCell _, _, member => by cases member

/-- What is listed from an index on are leaves of the whole sequence. -/
theorem isLeaf_of_mem_leavesFrom
    {nodes : List Markdown.Node}
    {index : Nat}
    {leaf : Leaf} :
    (rest : List Markdown.Node) →
    nodes.drop index = rest →
    leaf ∈ leavesFrom index rest →
    IsLeaf nodes leaf
  | [], _, member => by cases member
  | node :: rest, remaining, member => by
      rcases List.mem_append.mp member with here | later
      · apply isLeaf_of_mem_leavesAt node _ here
        rw [← List.head?_drop, remaining, List.head?_cons]
      · apply isLeaf_of_mem_leavesFrom rest _ later
        rw [← List.tail_drop, remaining, List.tail_cons]

end

theorem mem_leavesFrom_iff
    {nodes : List Markdown.Node}
    {leaf : Leaf} :
    leaf ∈ leavesFrom 0 nodes ↔ IsLeaf nodes leaf :=
  ⟨isLeaf_of_mem_leavesFrom nodes List.drop_zero, mem_leavesFrom_of_isLeaf⟩

/-! ## Document order -/

/-- The position of a leaf that is listed for a node begins with the index of the node. -/
theorem exists_position_of_mem_leavesAt
    {index : Nat}
    {node : Markdown.Node}
    {leaf : Leaf}
    (member : leaf ∈ leavesAt index node) :
    ∃ further, leaf.position = index :: further := by
  cases node with
  | text value =>
      rw [List.mem_singleton.mp member]
      exact ⟨[], rfl⟩
  | inlineCode value =>
      rw [List.mem_singleton.mp member]
      exact ⟨[], rfl⟩
  | strong | emphasis | link =>
      obtain ⟨inner, _, rfl⟩ := List.mem_map.mp member
      exact ⟨inner.position, rfl⟩
  | _ => cases member

theorem exists_position_of_mem_leavesFrom
    {first : Nat}
    {nodes : List Markdown.Node}
    {leaf : Leaf}
    (member : leaf ∈ leavesFrom first nodes) :
    ∃ index further, leaf.position = index :: further ∧ first ≤ index := by
  induction nodes generalizing first with
  | nil => cases member
  | cons node rest inductionHypothesis =>
      rcases List.mem_append.mp member with here | later
      · obtain ⟨further, position⟩ := exists_position_of_mem_leavesAt here
        exact ⟨first, further, position, Nat.le_refl _⟩
      · obtain ⟨index, further, position, behind⟩ := inductionHypothesis later
        exact ⟨index, further, position, Nat.le_of_succ_le behind⟩

theorem pairwise_map_below
    {leaves : List Leaf}
    (ordered : leaves.Pairwise fun earlier later => earlier.position < later.position)
    (index : Nat)
    (mark : Mark) :
    (leaves.map (Leaf.below index mark)).Pairwise
      fun earlier later => earlier.position < later.position := by
  apply List.pairwise_map.mpr
  apply ordered.imp
  intro earlier later before
  exact List.cons_lt_cons_iff.mpr (.inr ⟨rfl, before⟩)

mutual

theorem pairwise_leavesAt
    (index : Nat) :
    (node : Markdown.Node) →
    (leavesAt index node).Pairwise fun earlier later => earlier.position < later.position
  | .text _ | .inlineCode _ => List.pairwise_singleton _ _
  | .strong children => pairwise_map_below (pairwise_leavesFrom 0 children) index .bold
  | .emphasis children => pairwise_map_below (pairwise_leavesFrom 0 children) index .italic
  | .link url children => pairwise_map_below (pairwise_leavesFrom 0 children) index (.linkTo url)
  | .heading .. | .paragraph _ | .list .. | .listItem _ | .code .. | .blockquote _
  | .thematicBreak | .delete _ | .lineBreak | .html _ | .image .. | .table .. | .tableRow _
  | .tableCell _ => List.Pairwise.nil

/-- Leaves are listed by rising positions, none of them twice. -/
theorem pairwise_leavesFrom
    (first : Nat) :
    (nodes : List Markdown.Node) →
    (leavesFrom first nodes).Pairwise fun earlier later => earlier.position < later.position
  | [] => List.Pairwise.nil
  | node :: rest => by
      rw [leavesFrom, List.pairwise_append]
      refine ⟨pairwise_leavesAt first node, pairwise_leavesFrom (first + 1) rest, ?_⟩
      intro earlier here later behind
      obtain ⟨further, position⟩ := exists_position_of_mem_leavesAt here
      obtain ⟨index, others, laterPosition, beyond⟩ := exists_position_of_mem_leavesFrom behind
      rw [position, laterPosition]
      exact List.cons_lt_cons_iff.mpr (.inl beyond)

end

/-! ## Runs of leaves -/

/-- The run of a leaf below some marks. -/
def Leaf.runBelow (marks : List Mark) (leaf : Leaf) : Node :=
  let wrapped := leaf.wrappers.foldl (fun marks mark => mark.addTo marks) marks
  .text leaf.text (if leaf.isCode then Mark.code.addTo wrapped else wrapped)

/-- The runs of those leaves that are not empty, below some marks. -/
def runsBelow (marks : List Mark) (leaves : List Leaf) : List Node :=
  (leaves.filter (·.text ≠ "")).map (Leaf.runBelow marks)

theorem runsBelow_append
    (marks : List Mark)
    (leaves later : List Leaf) :
    runsBelow marks (leaves ++ later) = runsBelow marks leaves ++ runsBelow marks later := by
  rw [runsBelow, List.filter_append, List.map_append]
  rfl

theorem runsBelow_singleton
    (marks : List Mark)
    (leaf : Leaf) :
    runsBelow marks [leaf] = if leaf.text = "" then [] else [leaf.runBelow marks] := by
  by_cases empty : leaf.text = "" <;> simp [runsBelow, empty]

/-- A wrapper adds its mark to those above its leaves. -/
theorem runsBelow_map_below
    (marks : List Mark)
    (index : Nat)
    (mark : Mark)
    (leaves : List Leaf) :
    runsBelow marks (leaves.map (Leaf.below index mark)) = runsBelow (mark.addTo marks) leaves := by
  rw [runsBelow, List.filter_map, List.map_map]
  rfl

mutual

theorem runsOfInline_eq_runsBelow
    (marks : List Mark)
    (index : Nat) :
    (node : Markdown.Node) →
    runsOfInline marks node = runsBelow marks (leavesAt index node)
  | .text value => by
      rw [leavesAt, runsBelow_singleton, runsOfInline, RichText.run]
      simp [Leaf.runBelow]
  | .inlineCode value => by
      rw [leavesAt, runsBelow_singleton, runsOfInline, RichText.run]
      simp [Leaf.runBelow]
  | .strong children => by
      rw [leavesAt, runsBelow_map_below, runsOfInline, runsOfInlines_eq_runsBelow _ 0 children]
  | .emphasis children => by
      rw [leavesAt, runsBelow_map_below, runsOfInline, runsOfInlines_eq_runsBelow _ 0 children]
  | .link url children => by
      rw [leavesAt, runsBelow_map_below, runsOfInline, runsOfInlines_eq_runsBelow _ 0 children]
  | .heading .. | .paragraph _ | .list .. | .listItem _ | .code .. | .blockquote _
  | .thematicBreak | .delete _ | .lineBreak | .html _ | .image .. | .table .. | .tableRow _
  | .tableCell _ => rfl

/-- The runs of inline nodes below some marks are those of their leaves. -/
theorem runsOfInlines_eq_runsBelow
    (marks : List Mark)
    (first : Nat) :
    (nodes : List Markdown.Node) →
    runsOfInlines marks nodes = runsBelow marks (leavesFrom first nodes)
  | [] => rfl
  | node :: rest => by
      rw [runsOfInlines, leavesFrom, runsBelow_append, runsOfInline_eq_runsBelow marks first node,
        runsOfInlines_eq_runsBelow marks (first + 1) rest]

end

/-- No wrapper has the code mark. -/
theorem IsLeaf.code_notMem_wrappers
    {nodes : List Markdown.Node}
    {leaf : Leaf}
    (isLeaf : IsLeaf nodes leaf) :
    .code ∉ leaf.wrappers := by
  induction isLeaf with
  | text | code => exact List.not_mem_nil
  | @within _ _ wrapper mark _ _ wraps _ inductionHypothesis =>
      have wrapperMark : Mark.code ≠ mark := by
        rintro rfl
        cases wrapper <;> cases wraps
      exact List.not_mem_cons_of_ne_of_not_mem wrapperMark inductionHypothesis

theorem IsLeaf.runBelow_nil
    {nodes : List Markdown.Node}
    {leaf : Leaf}
    (isLeaf : IsLeaf nodes leaf) :
    leaf.runBelow [] = leaf.run := by
  have absent : .code ∉ leaf.wrappers.eraseDups := by
    rw [List.mem_eraseDups]
    exact isLeaf.code_notMem_wrappers
  rw [Leaf.runBelow, foldl_addTo, Leaf.run, Leaf.marks]
  cases leaf.isCode with
  | false => simp
  | true => simp [Mark.addTo, absent]

/-- The runs of a heading or paragraph are its filled leaves. -/
theorem exists_areLeaves_inlineRuns (children : List Markdown.Node) :
    ∃ leaves, AreLeaves children (inlineRuns children) leaves := by
  refine ⟨(leavesFrom 0 children).filter (·.text ≠ ""), ?_, ?_, ?_⟩
  · exact (pairwise_leavesFrom 0 children).filter _
  · intro leaf
    rw [List.mem_filter, mem_leavesFrom_iff, decide_eq_true_eq]
  · rw [inlineRuns_eq, runsOfInlines_eq_runsBelow [] 0, runsBelow]
    apply List.map_congr_left
    intro leaf member
    exact (mem_leavesFrom_iff.mp (List.mem_of_mem_filter member)).runBelow_nil

/-! ## Blocks -/

theorem Node.textBlocksOf_append (nodes later : List Node) :
    textBlocksOf (nodes ++ later) = textBlocksOf nodes ++ textBlocksOf later := by
  induction nodes with
  | nil => rfl
  | cons node rest inductionHypothesis =>
      rw [List.cons_append, textBlocksOf, textBlocksOf, inductionHypothesis, List.append_assoc]

/-- There are no blocks among runs. -/
theorem Node.textBlocksOf_map_run (leaves : List Leaf) :
    textBlocksOf (leaves.map Leaf.run) = [] := by
  induction leaves with
  | nil => rfl
  | cons leaf rest inductionHypothesis => exact inductionHypothesis

theorem Node.textBlocksOf_run (text : String) (marks : List Mark) :
    textBlocksOf (RichText.run text marks) = [] := by
  unfold RichText.run
  split <;> rfl

theorem Node.textBlocksOf_inlineRuns (children : List Markdown.Node) :
    textBlocksOf (inlineRuns children) = [] := by
  obtain ⟨leaves, areLeaves⟩ := exists_areLeaves_inlineRuns children
  rw [areLeaves.runs_eq, textBlocksOf_map_run]

mutual

theorem hasRunsOf_blockOfMarkdown? :
    (node : Markdown.Node) →
    List.Forall₂ HasRunsOf node.textBlocks (Node.textBlocksOf (blockOfMarkdown? node).toList)
  | .heading depth children => by
      obtain ⟨leaves, areLeaves⟩ := exists_areLeaves_inlineRuns children
      simp only [Markdown.Node.textBlocks, blockOfMarkdown?, Option.toList_some,
        Node.textBlocksOf, Node.textBlocks, Node.textBlocksOf_inlineRuns, List.append_nil]
      exact .cons (.heading areLeaves) .nil
  | .paragraph children => by
      obtain ⟨leaves, areLeaves⟩ := exists_areLeaves_inlineRuns children
      simp only [Markdown.Node.textBlocks, blockOfMarkdown?, Option.toList_some,
        Node.textBlocksOf, Node.textBlocks, Node.textBlocksOf_inlineRuns, List.append_nil]
      exact .cons (.paragraph areLeaves) .nil
  | .list ordered children => by
      have inside := hasRunsOf_itemsOfMarkdown children
      cases ordered <;>
        simpa only [Markdown.Node.textBlocks, blockOfMarkdown?, Option.toList_some,
          Node.textBlocksOf, Node.textBlocks, List.append_nil] using inside
  | .listItem children => by
      have inside := hasRunsOf_blocksOfMarkdown children
      simpa only [Markdown.Node.textBlocks, blockOfMarkdown?, Option.toList_some,
        Node.textBlocksOf, Node.textBlocks, List.append_nil] using inside
  | .blockquote children => by
      have inside := hasRunsOf_blocksOfMarkdown children
      simpa only [Markdown.Node.textBlocks, blockOfMarkdown?, Option.toList_some,
        Node.textBlocksOf, Node.textBlocks, List.append_nil] using inside
  | .code lang value => by
      simp only [Markdown.Node.textBlocks, blockOfMarkdown?, Option.toList_some,
        Node.textBlocksOf, Node.textBlocks, Node.textBlocksOf_run, List.append_nil]
      exact .nil
  | .thematicBreak | .text _ | .strong _ | .emphasis _ | .inlineCode _ | .link .. | .delete _
  | .lineBreak | .html _ | .image .. | .table .. | .tableRow _ | .tableCell _ => .nil

/-- The headings and paragraphs of converted nodes are those of the nodes, one to one and in document
order, each with its filled leaves as runs. -/
theorem hasRunsOf_blocksOfMarkdown :
    (nodes : List Markdown.Node) →
    List.Forall₂ HasRunsOf (Markdown.Node.textBlocksOf nodes)
      (Node.textBlocksOf (blocksOfMarkdown nodes))
  | [] => .nil
  | node :: rest => by
      rw [Markdown.Node.textBlocksOf, blocksOfMarkdown, Node.textBlocksOf_append]
      exact List.rel_append (hasRunsOf_blockOfMarkdown? node) (hasRunsOf_blocksOfMarkdown rest)

theorem hasRunsOf_itemsOfMarkdown :
    (nodes : List Markdown.Node) →
    List.Forall₂ HasRunsOf (Markdown.Node.textBlocksOfItems nodes)
      (Node.textBlocksOf (itemsOfMarkdown nodes))
  | [] => .nil
  | node :: rest => by
      have later := hasRunsOf_itemsOfMarkdown rest
      cases node with
      | listItem children =>
          exact List.rel_append (hasRunsOf_blocksOfMarkdown children) later
      | _ => exact later

end

/-- The headings and paragraphs of a rich-text document are those of the Markdown tree that it is
made from, one to one and in document order, unless the tree has no block for the document, which
then is one paragraph without runs. Each has one run for each of its leaves that is not empty, in
document order: each text and each inline code that only strong, emphasised and linked text is
around. The run has the marks of these wrappers from the outermost inwards, of which repetitions are
left out, and behind them the code mark if the leaf is inline code. The marks of a wrapper do not
stay for its siblings: every node leaves the stack of marks as it was. -/
theorem runs_are_leaves (tree : Markdown.Tree) :
    (List.Forall₂ HasRunsOf (Markdown.Node.textBlocksOf tree.children)
        (Node.textBlocksOf (Document.ofMarkdown tree).content) ∨
      Markdown.Node.textBlocksOf tree.children = [] ∧
        Document.ofMarkdown tree = ⟨[.paragraph []]⟩) ∧
    ∀ (node : Markdown.Node) (walk : Walk), (Walk.visit node walk).marks = walk.marks := by
  constructor
  · have blocks := hasRunsOf_blocksOfMarkdown tree.children
    rw [Document.ofMarkdown]
    split
    next none =>
      rw [none] at blocks
      exact .inr ⟨List.forall₂_nil_right_iff.mp blocks, rfl⟩
    next => exact .inl blocks
  · intro node walk
    rw [Walk.visit_eq]

/-- A wrapper that repeats one around it takes no mark away, and links to different addresses are
different marks. -/
example :
    Document.ofMarkdown ⟨[.paragraph [.strong [.emphasis [.strong [.inlineCode "a"]], .text "b"],
        .link "u" [.link "v" [.link "u" [.text "c"]], .text "d"], .text "e"]]⟩ =
      ⟨[.paragraph [.text "a" [.bold, .italic, .code], .text "b" [.bold],
        .text "c" [.linkTo "u", .linkTo "v"], .text "d" [.linkTo "u"], .text "e" []]]⟩ :=
  rfl

end RichText
end TwinEditor
