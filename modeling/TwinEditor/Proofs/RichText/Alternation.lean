import TwinEditor.Proofs.RichText.Lossless

/-!
# Back and forth between Markdown and rich text

A Markdown tree that goes to rich text and back again and again does not drift. The first time, it
loses whatever rich text cannot hold, and each of its text runs becomes one chain of wrappers. From
then on only the order inside the chains changes: it is reversed each time. So the tree alternates
between two forms, and these are the same form exactly if no chain has two wrappers.
-/

namespace TwinEditor

/-- A tree after its way to rich text and back. -/
def Markdown.Tree.throughRichText (tree : Tree) : Tree :=
  (RichText.Document.ofMarkdown tree).toMarkdown

namespace RichText

namespace Node

mutual

/-- The marks of each text run inside a node, in document order. -/
def runMarks : Node → List (List Mark)
  | .text _ marks => [marks]
  | .horizontalRule | .unsupported => []
  | .heading _ content | .paragraph content | .bulletList content | .orderedList content
  | .listItem content | .codeBlock _ content | .blockquote content => runMarksOf content

/-- The marks of each text run inside a sequence of nodes, in document order. -/
def runMarksOf : List Node → List (List Mark)
  | [] => []
  | node :: rest => node.runMarks ++ runMarksOf rest

end

theorem runMarksOf_append (nodes later : List Node) :
    runMarksOf (nodes ++ later) = runMarksOf nodes ++ runMarksOf later := by
  induction nodes with
  | nil => rfl
  | cons node nodes inductionHypothesis =>
      rw [List.cons_append, runMarksOf, runMarksOf, inductionHypothesis, List.append_assoc]

end Node

/-- The marks of each text run of a document. -/
def Document.runMarks (document : Document) : List (List Mark) :=
  Node.runMarksOf document.content

/-! ## Chains of wrappers -/

namespace Mark

variable {marks : List Mark}

/-- All marks but the code mark: those that are written as wrappers. -/
def besidesCode (marks : List Mark) : List Mark :=
  marks.filter (· != .code)

theorem Stacked.returned?_of_mem_besidesCode
    (stacked : Stacked marks)
    {mark : Mark}
    (member : mark ∈ besidesCode marks) :
    mark.returned? = some mark := by
  obtain ⟨inside, other⟩ := List.mem_filter.mp member
  exact (stacked.read mark inside).resolve_left (by simpa using other)

theorem Stacked.filterMap_returned? (stacked : Stacked marks) :
    marks.filterMap returned? = besidesCode marks := by
  rw [besidesCode, ← List.filterMap_eq_filter]
  apply List.filterMap_congr
  intro mark member
  rcases stacked.read mark member with rfl | read
  · rfl
  · cases mark with
    | code => cases read
    | _ => exact read

theorem eraseDups_of_nodup
    {marks : List Mark}
    (nodup : marks.Nodup) :
    marks.eraseDups = marks := by
  induction marks with
  | nil => rfl
  | cons mark marks inductionHypothesis =>
      obtain ⟨absent, nodup⟩ := List.nodup_cons.mp nodup
      have kept : marks.filter (fun other => !other == mark) = marks := by
        rw [List.filter_eq_self]
        intro other member
        simpa using ne_of_mem_of_not_mem member absent
      rw [List.eraseDups_cons, kept, inductionHypothesis nodup]

/-- Marks that are stacked come back with the wrappers reversed, and the code mark last. -/
theorem Stacked.normalForm_eq (stacked : Stacked marks) :
    normalForm marks = (besidesCode marks).reverse ++ if .code ∈ marks then [.code] else [] := by
  have nodup : (besidesCode marks).reverse.Nodup :=
    List.nodup_reverse.mpr (stacked.nodup.filter _)
  rw [normalForm, List.filterMap_reverse, stacked.filterMap_returned?, eraseDups_of_nodup nodup]

theorem Stacked.besidesCode_normalForm (stacked : Stacked marks) :
    besidesCode (normalForm marks) = (besidesCode marks).reverse := by
  rw [stacked.normalForm_eq, besidesCode, besidesCode, List.filter_append, List.filter_reverse,
    List.filter_filter]
  split <;> simp

theorem code_mem_normalForm_iff (marks : List Mark) :
    .code ∈ normalForm marks ↔ .code ∈ marks := by
  have absent := code_notMem_returned marks.reverse
  rw [normalForm, List.mem_append, or_iff_right absent]
  split <;> simp_all

theorem Stacked.normalForm (stacked : Stacked marks) : Stacked (normalForm marks) := by
  rw [stacked.normalForm_eq]
  constructor
  · have nodup : (besidesCode marks).reverse.Nodup :=
      List.nodup_reverse.mpr (stacked.nodup.filter _)
    split
    · refine List.nodup_append.mpr ⟨nodup, List.nodup_singleton _, ?_⟩
      intro mark member other code same
      obtain rfl := List.mem_singleton.mp code
      simp [besidesCode, same] at member
    · simpa using nodup
  · intro mark member
    rcases List.mem_append.mp member with wrapper | code
    · exact .inr (stacked.returned?_of_mem_besidesCode (List.mem_reverse.mp wrapper))
    · split at code
      · exact .inl (List.mem_singleton.mp code)
      · cases code

end Mark

/-- The code mark is no wrapper. -/
theorem foldl_wrap_besidesCode
    (inner : Markdown.Node)
    (marks : List Mark) :
    (Mark.besidesCode marks).foldl Mark.wrap inner = marks.foldl Mark.wrap inner := by
  induction marks generalizing inner with
  | nil => rfl
  | cons mark marks inductionHypothesis =>
      cases mark with
      | code => exact inductionHypothesis inner
      | _ => exact inductionHypothesis _

/-- A chain of wrappers is back in its order after two ways to rich text. -/
theorem markdownOfRun_normalForm_normalForm
    (text : String)
    {marks : List Mark}
    (stacked : Mark.Stacked marks) :
    markdownOfRun text (Mark.normalForm (Mark.normalForm marks)) = markdownOfRun text marks := by
  have wrappers :
      Mark.besidesCode (Mark.normalForm (Mark.normalForm marks)) = Mark.besidesCode marks := by
    rw [stacked.normalForm.besidesCode_normalForm, stacked.besidesCode_normalForm,
      List.reverse_reverse]
  simp only [markdownOfRun, Mark.code_mem_normalForm_iff]
  rw [← foldl_wrap_besidesCode, wrappers, foldl_wrap_besidesCode]

/-- A filled leaf with wrappers around it is a filled leaf only if there are none. -/
theorem isFilledLeaf_foldl_wrap_iff
    {leaf : Markdown.Node}
    (filled : leaf.isFilledLeaf = true)
    {wrappers : List Mark}
    (read : ∀ mark ∈ wrappers, mark.returned? = some mark) :
    (wrappers.foldl Mark.wrap leaf).isFilledLeaf = true ↔ wrappers = [] := by
  cases wrappers using List.reverseRecOn with
  | nil => simpa using filled
  | append_singleton wrappers mark =>
      have last := read mark (List.mem_append_right _ (List.mem_singleton_self mark))
      rw [List.foldl_append]
      cases mark with
      | code => cases last
      | unsupported => cases last
      | _ => simp [Mark.wrap, Markdown.Node.isFilledLeaf]

/-- A filled leaf with wrappers around it is simple exactly if there is at most one. -/
theorem isSimple_foldl_wrap_iff
    {leaf : Markdown.Node}
    (filled : leaf.isFilledLeaf = true)
    {wrappers : List Mark}
    (read : ∀ mark ∈ wrappers, mark.returned? = some mark) :
    (wrappers.foldl Mark.wrap leaf).isSimple = true ↔ wrappers.length < 2 := by
  cases wrappers using List.reverseRecOn with
  | nil =>
      have simple : leaf.isSimple = true := by
        cases leaf with
        | text value => exact filled
        | inlineCode value => exact filled
        | _ => cases filled
      exact iff_of_true simple Nat.zero_lt_two
  | append_singleton wrappers mark =>
      have last := read mark (List.mem_append_right _ (List.mem_singleton_self mark))
      have inside := isFilledLeaf_foldl_wrap_iff filled
        fun mark member => read mark (List.mem_append_left _ member)
      have outside : ((wrappers ++ [mark]).foldl Mark.wrap leaf).isSimple =
          (wrappers.foldl Mark.wrap leaf).isFilledLeaf := by
        rw [List.foldl_append]
        cases mark with
        | code => cases last
        | unsupported => cases last
        | _ => rfl
      rw [outside, inside, List.length_append, List.length_singleton, ← List.length_eq_zero_iff]
      omega

/-- The chain for a run is simple exactly if the run has at most one mark besides code. -/
theorem isSimple_markdownOfRun_iff
    {text : String}
    (filled : text ≠ "")
    {marks : List Mark}
    (stacked : Mark.Stacked marks) :
    (markdownOfRun text marks).isSimple = true ↔ (Mark.besidesCode marks).length < 2 := by
  rw [markdownOfRun, ← foldl_wrap_besidesCode]
  refine isSimple_foldl_wrap_iff ?_ fun mark => stacked.returned?_of_mem_besidesCode
  split <;> simpa [Markdown.Node.isFilledLeaf] using filled

/-! ## Inline nodes -/

/-- Runs are written as before once their marks have been reversed twice. -/
theorem inlinesToMarkdown_normalRuns_normalRuns
    {runs : List Node}
    (below : ∀ node ∈ runs, IsRunBelow [] node) :
    inlinesToMarkdown ((runs.filterMap Node.normalRun?).filterMap Node.normalRun?) =
      inlinesToMarkdown runs := by
  induction runs with
  | nil => rfl
  | cons node runs inductionHypothesis =>
      rw [List.forall_mem_cons] at below
      obtain ⟨⟨text, marks, rfl, filled, stacked, _⟩, later⟩ := below
      simp only [List.filterMap_cons, Node.normalRun?, if_neg filled, inlinesToMarkdown,
        inductionHypothesis later, markdownOfRun_normalForm_normalForm text stacked]

/-- Runs are written as simple nodes exactly if none of them has two marks besides code. -/
theorem all_isSimple_inlinesToMarkdown_iff
    {runs : List Node}
    (below : ∀ node ∈ runs, IsRunBelow [] node) :
    (inlinesToMarkdown runs).all Markdown.Node.isSimple = true ↔
      ∀ marks ∈ Node.runMarksOf runs, (Mark.besidesCode marks).length < 2 := by
  induction runs with
  | nil => exact iff_of_true rfl nofun
  | cons node runs inductionHypothesis =>
      rw [List.forall_mem_cons] at below
      obtain ⟨⟨text, marks, rfl, filled, stacked, _⟩, later⟩ := below
      have rest := inductionHypothesis later
      rw [inlinesToMarkdown, List.all_cons, Bool.and_eq_true, rest,
        isSimple_markdownOfRun_iff filled stacked, Node.runMarksOf, Node.runMarks,
        List.singleton_append, List.forall_mem_cons]

/-- The runs of a heading or paragraph have no marks above them. -/
theorem forall_isRunBelow_runsOfInlines (inlines : List Markdown.Node) :
    ∀ node ∈ runsOfInlines [] inlines, IsRunBelow [] node :=
  isRunBelow_of_mem_runsOfInlines [] ⟨List.nodup_nil, nofun⟩ inlines

/-- The children of a heading or paragraph come back the third time as they did the first time. -/
theorem inlinesToMarkdown_runsOfInlines_thrice (inlines : List Markdown.Node) :
    inlinesToMarkdown (runsOfInlines [] (inlinesToMarkdown (runsOfInlines []
        (inlinesToMarkdown (runsOfInlines [] inlines))))) =
      inlinesToMarkdown (runsOfInlines [] inlines) := by
  rw [runsOfInlines_inlinesToMarkdown, runsOfInlines_inlinesToMarkdown]
  exact inlinesToMarkdown_normalRuns_normalRuns (forall_isRunBelow_runsOfInlines inlines)

/-! ## Blocks -/

mutual

/-- A node among blocks comes back the third time as it did the first time. -/
theorem blockBack?_thrice :
    (node : Markdown.Node) →
    ((blockBack? node).bind blockBack?).bind blockBack? = blockBack? node
  | .heading depth children => by
      have deep : max (max (max depth 1) 1) 1 = max depth 1 := by
        simp only [max_one_eq]
        grind
      simp only [blockBack?_heading, Option.bind_some, inlinesToMarkdown_runsOfInlines_thrice, deep]
  | .paragraph children => by
      simp only [blockBack?_paragraph, Option.bind_some, inlinesToMarkdown_runsOfInlines_thrice]
  | .list ordered children => by
      have items (node : Markdown.Node) (member : node ∈ children) :
          ((itemBack? node).bind itemBack?).bind itemBack? = itemBack? node := by
        have back := forall_blockBack?_thrice children node member
        cases node with
        | listItem inside =>
            simpa only [itemBack?, blockBack?_listItem, Markdown.Node.isListItem, if_true,
              Option.bind_some] using back
        | _ => rfl
      simp only [blockBack?_list, Option.bind_some, List.filterMap_filterMap]
      rw [List.filterMap_congr items]
  | .listItem children => by
      simp only [blockBack?_listItem, Option.bind_some, List.filterMap_filterMap]
      rw [List.filterMap_congr (forall_blockBack?_thrice children)]
  | .blockquote children => by
      simp only [blockBack?_blockquote, Option.bind_some, List.filterMap_filterMap]
      rw [List.filterMap_congr (forall_blockBack?_thrice children)]
  | .code lang value => by
      by_cases empty : lang = some "" <;> simp [blockBack?_code, empty]
  | .thematicBreak => rfl
  | .text _ | .strong _ | .emphasis _ | .inlineCode _ | .link .. | .delete _ | .lineBreak
  | .html _ | .image .. | .table .. | .tableRow _ | .tableCell _ => rfl

/-- Nodes among blocks come back the third time as they did the first time. -/
theorem forall_blockBack?_thrice :
    (nodes : List Markdown.Node) →
    ∀ node ∈ nodes, ((blockBack? node).bind blockBack?).bind blockBack? = blockBack? node
  | [] => nofun
  | node :: rest =>
      List.forall_mem_cons.mpr ⟨blockBack?_thrice node, forall_blockBack?_thrice rest⟩

end

theorem areLossless_append (nodes later : List Markdown.Node) :
    Markdown.Node.areLossless (nodes ++ later) =
      (Markdown.Node.areLossless nodes && Markdown.Node.areLossless later) := by
  induction nodes with
  | nil => rfl
  | cons node nodes inductionHypothesis =>
      rw [List.cons_append, Markdown.Node.areLossless, Markdown.Node.areLossless,
        inductionHypothesis, Bool.and_assoc]

theorem all_isListItem_filterMap_itemBack? (nodes : List Markdown.Node) :
    (nodes.filterMap itemBack?).all Markdown.Node.isListItem = true := by
  rw [List.all_eq_true]
  intro item member
  obtain ⟨node, _, back⟩ := List.mem_filterMap.mp member
  cases node with
  | listItem children =>
      rw [itemBack?, if_pos (show (Markdown.Node.listItem children).isListItem from rfl),
        blockBack?_listItem] at back
      cases back
      rfl
  | _ => cases back

mutual

/-- What comes back for a node among blocks is lossless exactly if no run of its block has two marks
besides code. -/
theorem areLossless_blockBack?_iff :
    (node : Markdown.Node) →
    (Markdown.Node.areLossless (blockBack? node).toList = true ↔
      ∀ marks ∈ Node.runMarksOf (blockOfMarkdown? node).toList,
        (Mark.besidesCode marks).length < 2)
  | .heading depth children => by
      have deep : max depth 1 ≠ 0 := by
        rw [max_one_eq]
        grind
      have inside := all_isSimple_inlinesToMarkdown_iff (forall_isRunBelow_runsOfInlines children)
      simpa [blockBack?_heading, blockOfMarkdown?, Markdown.Node.areLossless,
        Markdown.Node.isLossless, Node.runMarksOf, Node.runMarks, deep] using inside
  | .paragraph children => by
      have inside := all_isSimple_inlinesToMarkdown_iff (forall_isRunBelow_runsOfInlines children)
      simpa [blockBack?_paragraph, blockOfMarkdown?, Markdown.Node.areLossless,
        Markdown.Node.isLossless, Node.runMarksOf, Node.runMarks] using inside
  | .list ordered children => by
      have inside := areLossless_filterMap_itemBack?_iff children
      have items := all_isListItem_filterMap_itemBack? children
      cases ordered <;>
        simpa only [blockBack?_list, blockOfMarkdown?, Option.toList_some,
          Markdown.Node.areLossless, Markdown.Node.isLossless, Node.runMarksOf, Node.runMarks,
          List.append_nil, Bool.and_true, items, Bool.true_and] using inside
  | .listItem children => by
      have inside := areLossless_filterMap_blockBack?_iff children
      simpa only [blockBack?_listItem, blockOfMarkdown?, Option.toList_some,
        Markdown.Node.areLossless, Markdown.Node.isLossless, Node.runMarksOf, Node.runMarks,
        List.append_nil, Bool.and_true] using inside
  | .blockquote children => by
      have inside := areLossless_filterMap_blockBack?_iff children
      simpa only [blockBack?_blockquote, blockOfMarkdown?, Option.toList_some,
        Markdown.Node.areLossless, Markdown.Node.isLossless, Node.runMarksOf, Node.runMarks,
        List.append_nil, Bool.and_true] using inside
  | .code lang value => by
      -- The text of a code block carries no marks.
      have plain : ∀ marks ∈ Node.runMarksOf (run value []),
          (Mark.besidesCode marks).length < 2 := by
        unfold run
        split <;> simp [Node.runMarksOf, Node.runMarks, Mark.besidesCode]
      refine iff_of_true ?_ (by simpa [blockOfMarkdown?, Node.runMarksOf, Node.runMarks] using plain)
      by_cases empty : lang = some "" <;>
        simp [blockBack?_code, Markdown.Node.areLossless, Markdown.Node.isLossless, empty]
  | .thematicBreak => iff_of_true rfl nofun
  | .text _ | .strong _ | .emphasis _ | .inlineCode _ | .link .. | .delete _ | .lineBreak
  | .html _ | .image .. | .table .. | .tableRow _ | .tableCell _ => iff_of_true rfl nofun

/-- What comes back for nodes among blocks is lossless exactly if no run of their blocks has two marks
besides code. -/
theorem areLossless_filterMap_blockBack?_iff :
    (nodes : List Markdown.Node) →
    (Markdown.Node.areLossless (nodes.filterMap blockBack?) = true ↔
      ∀ marks ∈ Node.runMarksOf (blocksOfMarkdown nodes), (Mark.besidesCode marks).length < 2)
  | [] => iff_of_true rfl nofun
  | node :: rest => by
      have first := areLossless_blockBack?_iff node
      have later := areLossless_filterMap_blockBack?_iff rest
      have split : (node :: rest).filterMap blockBack? =
          (blockBack? node).toList ++ rest.filterMap blockBack? := by
        rw [List.filterMap_cons]
        cases blockBack? node <;> rfl
      rw [split, areLossless_append, Bool.and_eq_true, first, later, blocksOfMarkdown,
        Node.runMarksOf_append, List.forall_mem_append]

/-- What comes back for the nodes of a list is lossless exactly if no run of its items has two marks
besides code. -/
theorem areLossless_filterMap_itemBack?_iff :
    (nodes : List Markdown.Node) →
    (Markdown.Node.areLossless (nodes.filterMap itemBack?) = true ↔
      ∀ marks ∈ Node.runMarksOf (itemsOfMarkdown nodes), (Mark.besidesCode marks).length < 2)
  | [] => iff_of_true rfl nofun
  | node :: rest => by
      have first := areLossless_blockBack?_iff node
      have later := areLossless_filterMap_itemBack?_iff rest
      cases node with
      | listItem children =>
          have back : (Markdown.Node.listItem children :: rest).filterMap itemBack? =
              (blockBack? (.listItem children)).toList ++ rest.filterMap itemBack? := rfl
          have items : itemsOfMarkdown (.listItem children :: rest) =
              (blockOfMarkdown? (.listItem children)).toList ++ itemsOfMarkdown rest := rfl
          rw [back, items, areLossless_append, Bool.and_eq_true, first, later,
            Node.runMarksOf_append, List.forall_mem_append]
      | _ => exact later

end

theorem filterMap_blockBack?_thrice (nodes : List Markdown.Node) :
    ((nodes.filterMap blockBack?).filterMap blockBack?).filterMap blockBack? =
      nodes.filterMap blockBack? := by
  simp only [List.filterMap_filterMap]
  exact List.filterMap_congr (forall_blockBack?_thrice nodes)

/-! ## Documents -/

/-- Blocks, or one empty paragraph if there are none. -/
def padded : List Markdown.Node → List Markdown.Node
  | [] => [.paragraph []]
  | blocks => blocks

theorem padded_inj
    {blocks others : List Markdown.Node}
    (both : blocks = [] ↔ others = []) :
    padded blocks = padded others ↔ blocks = others := by
  cases blocks with
  | nil =>
      obtain rfl := both.mp rfl
      exact iff_of_true rfl rfl
  | cons block blocks =>
      cases others with
      | nil => cases both.mpr rfl
      | cons other others => exact Iff.rfl

theorem blockBack?_eq_none_iff (node : Markdown.Node) :
    blockBack? node = none ↔ blockOfMarkdown? node = none := by
  cases node with
  | list ordered children => cases ordered <;> simp [blockBack?, blockOfMarkdown?, blockToMarkdown?]
  | _ => simp [blockBack?, blockOfMarkdown?, blockToMarkdown?]

theorem blocksOfMarkdown_eq_nil_iff (nodes : List Markdown.Node) :
    blocksOfMarkdown nodes = [] ↔ nodes.filterMap blockBack? = [] := by
  induction nodes with
  | nil => exact iff_of_true rfl rfl
  | cons node rest inductionHypothesis =>
      simp only [blocksOfMarkdown, List.append_eq_nil_iff, Option.toList_eq_nil_iff,
        inductionHypothesis, List.filterMap_eq_nil_iff, List.forall_mem_cons, blockBack?_eq_none_iff]

/-- The blocks of a tree come back one by one, and a tree of which none comes back gives one empty
paragraph. -/
theorem throughRichText_eq (tree : Markdown.Tree) :
    tree.throughRichText = ⟨padded (tree.children.filterMap blockBack?)⟩ := by
  have none := blocksOfMarkdown_eq_nil_iff tree.children
  rw [← blocksToMarkdown_blocksOfMarkdown] at none ⊢
  rw [Markdown.Tree.throughRichText, Document.ofMarkdown]
  cases blocks : blocksOfMarkdown tree.children with
  | nil => rfl
  | cons block rest =>
      rw [blocks] at none
      cases written : blocksToMarkdown (block :: rest) with
      | nil => cases none.mpr written
      | cons node others => exact congrArg Markdown.Tree.mk written

/-- The empty paragraph of a tree without blocks comes back too. -/
theorem throughRichText_padded (blocks : List Markdown.Node) :
    Markdown.Tree.throughRichText ⟨padded blocks⟩ = ⟨padded (blocks.filterMap blockBack?)⟩ := by
  rw [throughRichText_eq]
  cases blocks <;> rfl

/-- The empty paragraph of a document without blocks has no runs. -/
theorem runMarks_ofMarkdown (tree : Markdown.Tree) :
    (Document.ofMarkdown tree).runMarks = Node.runMarksOf (blocksOfMarkdown tree.children) := by
  rw [Document.runMarks, Document.ofMarkdown]
  cases blocksOfMarkdown tree.children <;> rfl

/-- A tree that goes to rich text and back again and again alternates between two forms from the first
time on. The two are the same exactly if no text run of its document has two marks besides code. -/
theorem throughRichText_alternates (tree : Markdown.Tree) :
    tree.throughRichText.throughRichText.throughRichText = tree.throughRichText ∧
      (tree.throughRichText.throughRichText = tree.throughRichText ↔
        ∀ marks ∈ (Document.ofMarkdown tree).runMarks, (Mark.besidesCode marks).length < 2) := by
  have thrice := filterMap_blockBack?_thrice tree.children
  have none : (tree.children.filterMap blockBack?).filterMap blockBack? = [] ↔
      tree.children.filterMap blockBack? = [] := by
    constructor
    · intro empty
      rw [← thrice, empty, List.filterMap_nil]
    · intro empty
      rw [empty, List.filterMap_nil]
  simp only [throughRichText_eq tree, throughRichText_padded, thrice, Markdown.Tree.mk.injEq,
    padded_inj none, true_and, runMarks_ofMarkdown]
  rw [filterMap_eq_self_iff, forall_blockBack?_eq_some_self_iff,
    areLossless_filterMap_blockBack?_iff]

/-- Two wrappers change places each time, and a wrapper inside its like is lost the first time. -/
example :
    let tree : Markdown.Tree :=
      ⟨[.paragraph [.strong [.emphasis [.strong [.inlineCode "a"]], .lineBreak, .text "b"]]]⟩
    tree.throughRichText =
        ⟨[.paragraph [.emphasis [.strong [.inlineCode "a"]], .strong [.text "b"]]]⟩ ∧
      tree.throughRichText.throughRichText =
        ⟨[.paragraph [.strong [.emphasis [.inlineCode "a"]], .strong [.text "b"]]]⟩ :=
  ⟨rfl, rfl⟩

end RichText
end TwinEditor
