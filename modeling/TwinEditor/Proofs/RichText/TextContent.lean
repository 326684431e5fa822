import TwinEditor.Proofs.RichText.Lossless

/-!
# Text is kept

A Markdown tree goes to rich text and back. Whatever is dropped is dropped on the way there: the way
back keeps all text in its order. The way there keeps it too if rich text has a counterpart for every
node, however the wrappers in headings and paragraphs are nested, although it takes them apart into
runs.
-/

namespace TwinEditor

namespace Markdown

namespace Node

mutual

/-- Whether an inline node is text, inline code, or a wrapper around such nodes. -/
def isFormattedText : Node → Bool
  | .text _ | .inlineCode _ => true
  | .strong children | .emphasis children | .link _ children => areFormattedText children
  | _ => false

/-- Whether every one of some inline nodes is such a node. -/
def areFormattedText : List Node → Bool
  | [] => true
  | node :: rest => node.isFormattedText && areFormattedText rest

end

mutual

/-- Whether a node is a block that holds, at any depth, nothing without a counterpart in rich text. -/
def isConvertible : Node → Bool
  | .heading _ children | .paragraph children => areFormattedText children
  | .list _ children => children.all isListItem && areConvertible children
  | .listItem children | .blockquote children => areConvertible children
  | .code .. | .thematicBreak => true
  | _ => false

/-- Whether every one of some nodes is such a block. -/
def areConvertible : List Node → Bool
  | [] => true
  | node :: rest => node.isConvertible && areConvertible rest

end

theorem textContents_append (nodes later : List Node) :
    textContents (nodes ++ later) = textContents nodes ++ textContents later := by
  induction nodes with
  | nil => exact String.empty_append.symm
  | cons node rest inductionHypothesis =>
      rw [List.cons_append, textContents, textContents, inductionHypothesis, String.append_assoc]

end Node

end Markdown

namespace RichText

namespace Node

theorem textContents_append (nodes later : List Node) :
    textContents (nodes ++ later) = textContents nodes ++ textContents later := by
  induction nodes with
  | nil => exact String.empty_append.symm
  | cons node rest inductionHypothesis =>
      rw [List.cons_append, textContents, textContents, inductionHypothesis, String.append_assoc]

theorem textContents_singleton (node : Node) :
    textContents [node] = node.textContent := by
  rw [textContents, textContents, String.append_empty]

theorem textContents_run (text : String) (marks : List Mark) :
    textContents (run text marks) = text := by
  by_cases empty : text = ""
  · rw [empty]
    rfl
  · rw [run_of_ne_empty empty, textContents_singleton, textContent]

end Node

/-! ## To rich text -/

mutual

theorem textContents_runsOfInline
    (marks : List Mark) :
    (node : Markdown.Node) →
    node.isFormattedText = true →
    Node.textContents (runsOfInline marks node) = node.textContent
  | .text value, _ => Node.textContents_run value marks
  | .inlineCode value, _ => Node.textContents_run value (Mark.code.addTo marks)
  | .strong children, formatted => textContents_runsOfInlines _ children formatted
  | .emphasis children, formatted => textContents_runsOfInlines _ children formatted
  | .link _ children, formatted => textContents_runsOfInlines _ children formatted
  | .heading .., formatted | .paragraph _, formatted | .list .., formatted
  | .listItem _, formatted | .code .., formatted | .blockquote _, formatted
  | .thematicBreak, formatted | .delete _, formatted | .lineBreak, formatted
  | .html _, formatted | .image .., formatted | .table .., formatted
  | .tableRow _, formatted | .tableCell _, formatted => by cases formatted

/-- Formatted text is taken apart into runs that have its text. -/
theorem textContents_runsOfInlines
    (marks : List Mark) :
    (nodes : List Markdown.Node) →
    Markdown.Node.areFormattedText nodes = true →
    Node.textContents (runsOfInlines marks nodes) = Markdown.Node.textContents nodes
  | [], _ => rfl
  | node :: rest, formatted => by
      obtain ⟨nodeFormatted, restFormatted⟩ := Bool.and_eq_true_iff.mp formatted
      rw [runsOfInlines, Node.textContents_append, Markdown.Node.textContents,
        textContents_runsOfInline marks node nodeFormatted,
        textContents_runsOfInlines marks rest restFormatted]

end

mutual

theorem textContents_blockOfMarkdown? :
    (node : Markdown.Node) →
    node.isConvertible = true →
    Node.textContents (blockOfMarkdown? node).toList = node.textContent
  | .heading depth children, convertible => by
      rw [blockOfMarkdown?, Option.toList_some, Node.textContents_singleton, inlineRuns_eq]
      exact textContents_runsOfInlines [] children convertible
  | .paragraph children, convertible => by
      rw [blockOfMarkdown?, Option.toList_some, Node.textContents_singleton, inlineRuns_eq]
      exact textContents_runsOfInlines [] children convertible
  | .list ordered children, convertible => by
      obtain ⟨items, inside⟩ := Bool.and_eq_true_iff.mp convertible
      have kept := textContents_itemsOfMarkdown children items inside
      cases ordered <;>
        · rw [blockOfMarkdown?, Option.toList_some, Node.textContents_singleton]
          exact kept
  | .listItem children, convertible => by
      rw [blockOfMarkdown?, Option.toList_some, Node.textContents_singleton]
      exact textContents_blocksOfMarkdown children convertible
  | .blockquote children, convertible => by
      rw [blockOfMarkdown?, Option.toList_some, Node.textContents_singleton]
      exact textContents_blocksOfMarkdown children convertible
  | .code lang value, _ => by
      rw [blockOfMarkdown?, Option.toList_some, Node.textContents_singleton]
      exact Node.textContents_run value []
  | .thematicBreak, _ => rfl
  | .text _, convertible | .strong _, convertible | .emphasis _, convertible
  | .inlineCode _, convertible | .link .., convertible | .delete _, convertible
  | .lineBreak, convertible | .html _, convertible | .image .., convertible
  | .table .., convertible | .tableRow _, convertible | .tableCell _, convertible => by
      cases convertible

/-- Blocks with nothing but what rich text has a counterpart for keep their text. -/
theorem textContents_blocksOfMarkdown :
    (nodes : List Markdown.Node) →
    Markdown.Node.areConvertible nodes = true →
    Node.textContents (blocksOfMarkdown nodes) = Markdown.Node.textContents nodes
  | [], _ => rfl
  | node :: rest, convertible => by
      obtain ⟨nodeConvertible, restConvertible⟩ := Bool.and_eq_true_iff.mp convertible
      rw [blocksOfMarkdown, Node.textContents_append, Markdown.Node.textContents,
        textContents_blockOfMarkdown? node nodeConvertible,
        textContents_blocksOfMarkdown rest restConvertible]

theorem textContents_itemsOfMarkdown :
    (nodes : List Markdown.Node) →
    nodes.all Markdown.Node.isListItem = true →
    Markdown.Node.areConvertible nodes = true →
    Node.textContents (itemsOfMarkdown nodes) = Markdown.Node.textContents nodes
  | [], _, _ => rfl
  | node :: rest, items, convertible => by
      obtain ⟨item, restItems⟩ := Bool.and_eq_true_iff.mp items
      obtain ⟨nodeConvertible, restConvertible⟩ := Bool.and_eq_true_iff.mp convertible
      have later := textContents_itemsOfMarkdown rest restItems restConvertible
      cases node with
      | listItem children =>
          rw [itemsOfMarkdown, Node.textContents, Markdown.Node.textContents, later]
          exact congrArg (· ++ _) (textContents_blocksOfMarkdown children nodeConvertible)
      | _ => cases item

end

/-! ## Back to Markdown -/

theorem Mark.textContent_wrap
    (inner : Markdown.Node)
    (mark : Mark) :
    (mark.wrap inner).textContent = inner.textContent := by
  cases mark <;>
    simp [Mark.wrap, Markdown.Node.textContent, Markdown.Node.textContents]

/-- The chain of wrappers for a run has the text of the run. -/
theorem textContent_markdownOfRun
    (text : String)
    (marks : List Mark) :
    (markdownOfRun text marks).textContent = text := by
  have wrapped (inner : Markdown.Node) (marks : List Mark) :
      (marks.foldl Mark.wrap inner).textContent = inner.textContent := by
    induction marks generalizing inner with
    | nil => rfl
    | cons mark rest inductionHypothesis =>
        rw [List.foldl_cons, inductionHypothesis, Mark.textContent_wrap]
  rw [markdownOfRun, wrapped]
  split <;> rfl

theorem textContents_inlinesToMarkdown
    {runs : List Node}
    (below : ∀ node ∈ runs, IsRunBelow [] node) :
    Markdown.Node.textContents (inlinesToMarkdown runs) = Node.textContents runs := by
  induction runs with
  | nil => rfl
  | cons node rest inductionHypothesis =>
      rw [List.forall_mem_cons] at below
      obtain ⟨⟨text, marks, rfl, _⟩, later⟩ := below
      rw [inlinesToMarkdown, Markdown.Node.textContents, textContent_markdownOfRun,
        inductionHypothesis later, Node.textContents, Node.textContent]

/-- What comes back for the children of a heading or paragraph has the text of its runs. -/
theorem textContents_inlinesToMarkdown_runsOfInlines (children : List Markdown.Node) :
    Markdown.Node.textContents (inlinesToMarkdown (runsOfInlines [] children)) =
      Node.textContents (runsOfInlines [] children) :=
  textContents_inlinesToMarkdown
    (isRunBelow_of_mem_runsOfInlines [] ⟨List.nodup_nil, nofun⟩ children)

mutual

theorem textContents_blockBack? :
    (node : Markdown.Node) →
    Markdown.Node.textContents (blockBack? node).toList =
      Node.textContents (blockOfMarkdown? node).toList
  | .heading depth children => by
      simp only [blockBack?_heading, blockOfMarkdown?, inlineRuns_eq, Option.toList_some,
        Markdown.Node.textContents, Markdown.Node.textContent, Node.textContents,
        Node.textContent, textContents_inlinesToMarkdown_runsOfInlines children]
  | .paragraph children => by
      simp only [blockBack?_paragraph, blockOfMarkdown?, inlineRuns_eq, Option.toList_some,
        Markdown.Node.textContents, Markdown.Node.textContent, Node.textContents,
        Node.textContent, textContents_inlinesToMarkdown_runsOfInlines children]
  | .list ordered children => by
      have inside := textContents_filterMap_itemBack? children
      cases ordered <;>
        simp only [blockBack?_list, blockOfMarkdown?, Option.toList_some,
          Markdown.Node.textContents, Markdown.Node.textContent, Node.textContents,
          Node.textContent, inside]
  | .listItem children => by
      have inside := textContents_filterMap_blockBack? children
      simp only [blockBack?_listItem, blockOfMarkdown?, Option.toList_some,
        Markdown.Node.textContents, Markdown.Node.textContent, Node.textContents,
        Node.textContent, inside]
  | .blockquote children => by
      have inside := textContents_filterMap_blockBack? children
      simp only [blockBack?_blockquote, blockOfMarkdown?, Option.toList_some,
        Markdown.Node.textContents, Markdown.Node.textContent, Node.textContents,
        Node.textContent, inside]
  | .code lang value => by
      simp only [blockBack?_code, blockOfMarkdown?, Option.toList_some,
        Markdown.Node.textContents, Markdown.Node.textContent, Node.textContents,
        Node.textContent, Node.textContents_run]
  | .thematicBreak => rfl
  | .text _ | .strong _ | .emphasis _ | .inlineCode _ | .link .. | .delete _ | .lineBreak
  | .html _ | .image .. | .table .. | .tableRow _ | .tableCell _ => rfl

/-- What comes back for blocks has the text of the blocks of rich text. -/
theorem textContents_filterMap_blockBack? :
    (nodes : List Markdown.Node) →
    Markdown.Node.textContents (nodes.filterMap blockBack?) =
      Node.textContents (blocksOfMarkdown nodes)
  | [] => rfl
  | node :: rest => by
      have first := textContents_blockBack? node
      have later := textContents_filterMap_blockBack? rest
      have split : (node :: rest).filterMap blockBack? =
          (blockBack? node).toList ++ rest.filterMap blockBack? := by
        rw [List.filterMap_cons]
        cases blockBack? node <;> rfl
      rw [split, Markdown.Node.textContents_append, first, later, blocksOfMarkdown,
        Node.textContents_append]

theorem textContents_filterMap_itemBack? :
    (nodes : List Markdown.Node) →
    Markdown.Node.textContents (nodes.filterMap itemBack?) =
      Node.textContents (itemsOfMarkdown nodes)
  | [] => rfl
  | node :: rest => by
      have later := textContents_filterMap_itemBack? rest
      cases node with
      | listItem children =>
          have first := textContents_filterMap_blockBack? children
          have back : (Markdown.Node.listItem children :: rest).filterMap itemBack? =
              .listItem (children.filterMap blockBack?) :: rest.filterMap itemBack? := by
            rw [List.filterMap_cons, itemBack?,
              if_pos (show (Markdown.Node.listItem children).isListItem from rfl),
              blockBack?_listItem]
          rw [back, itemsOfMarkdown, Markdown.Node.textContents, Node.textContents, later]
          exact congrArg (· ++ _) first
      | _ => exact later

end

/-- A rich-text document that is made from a Markdown tree goes back to Markdown with its text. If the
tree has only headings, paragraphs, lists of list items, list items, code, block quotes and thematic
breaks, with only text and inline code in headings and paragraphs, and strong, emphasised and linked
text around it in any nesting, then this is the text of the tree. -/
theorem textContent_kept (tree : Markdown.Tree) :
    (Markdown.Node.areConvertible tree.children = true →
      (Document.ofMarkdown tree).textContent = tree.textContent) ∧
    (Document.ofMarkdown tree).toMarkdown.textContent = (Document.ofMarkdown tree).textContent := by
  have back := textContents_filterMap_blockBack? tree.children
  have there := textContents_blocksOfMarkdown tree.children
  rw [← blocksToMarkdown_blocksOfMarkdown] at back
  rw [Document.textContent, Markdown.Tree.textContent, Document.toMarkdown,
    Markdown.Tree.textContent, Document.ofMarkdown]
  split
  next none =>
    -- A document without blocks is an empty paragraph, which has no text either.
    rw [none] at there
    exact ⟨there, rfl⟩
  next => exact ⟨there, back⟩

/-- Wrappers that overlap are taken apart and come back in another order, and the text stays. -/
theorem textContent_kept_of_overlapping_wrappers :
    Markdown.Node.areConvertible
        [.heading 2 [.strong [.emphasis [.text "a", .inlineCode "b"], .text "c"], .text "d"],
          .list true [.listItem [.paragraph [.link "u" [.strong [.text "e"]]]]]] = true ∧
      (Document.ofMarkdown
        ⟨[.heading 2 [.strong [.emphasis [.text "a", .inlineCode "b"], .text "c"], .text "d"],
          .list true [.listItem [.paragraph [.link "u" [.strong [.text "e"]]]]]]⟩).textContent =
        "abcde" :=
  ⟨by decide, ((textContent_kept _).1 (by decide)).trans (by decide)⟩

end RichText
end TwinEditor
