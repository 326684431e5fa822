import TwinEditor.Proofs.Markdown.ListSeparation
import TwinEditor.Proofs.Markdown.PlainTree
import TwinEditor.Proofs.Markdown.TableGrid

/-!
# The edges of written blocks

Blocks are joined by line feeds and set into containers line by line, which is sound because no block
writes a line feed at either of its ends, whatever it holds. Raw HTML is the one exception: it is written
as it is. So a document without HTML blocks begins with its first block and ends in a single line feed.
-/

namespace TwinEditor
namespace Text

/-! ## First and last -/

/-- Whether something comes first or last in a list. -/
def IsAtEdge {α : Type} (a : α) (list : List α) : Prop :=
  list.head? = some a ∨ list.getLast? = some a

section Edges

variable {α : Type} {a : α} {list : List α}

theorem mem_of_isAtEdge (atEdge : IsAtEdge a list) : a ∈ list :=
  atEdge.elim List.mem_of_head? List.mem_of_getLast?

theorem exists_of_isAtEdge_map
    {β : Type}
    {f : α → β}
    {b : β}
    (atEdge : IsAtEdge b (list.map f)) :
    ∃ a, IsAtEdge a list ∧ f a = b := by
  rw [IsAtEdge, List.head?_map, List.getLast?_map, Option.map_eq_some_iff,
    Option.map_eq_some_iff] at atEdge
  obtain ⟨a, isFirst, rfl⟩ | ⟨a, isLast, rfl⟩ := atEdge
  · exact ⟨a, .inl isFirst, rfl⟩
  · exact ⟨a, .inr isLast, rfl⟩

theorem isAtEdge_of_append
    {front back : List α}
    (front_ne_nil : front ≠ [])
    (back_ne_nil : back ≠ [])
    {inside : List α}
    (atEdge : IsAtEdge a (front ++ inside ++ back)) :
    IsAtEdge a front ∨ IsAtEdge a back := by
  rw [IsAtEdge, List.append_assoc, List.head?_append_of_ne_nil _ front_ne_nil, ← List.append_assoc,
    List.getLast?_append_of_ne_nil _ back_ne_nil] at atEdge
  exact atEdge.imp .inl .inr

end Edges

/-- A text without a line feed at either end. -/
def IsCropped (text : List Char) : Prop :=
  ¬ IsAtEdge '\n' text

theorem isCropped_of_notMem
    {text : List Char}
    (single : '\n' ∉ text) :
    IsCropped text :=
  mt mem_of_isAtEdge single

/-! ## Lines put together -/

/-- The first and the last of some pieces with text are the ends of what they are put together to. -/
theorem isCropped_unlines
    {pieces : List (List Char)}
    (edges : ∀ piece, IsAtEdge piece pieces → piece ≠ [] ∧ IsCropped piece) :
    IsCropped (unlines pieces) := by
  rintro (isFirst | isLast)
  · cases pieces with
    | nil => cases isFirst
    | cons piece rest =>
        obtain ⟨filled, cropped⟩ := edges piece (.inl rfl)
        refine cropped (.inl ?_)
        by_cases last : rest = []
        · rwa [last, unlines_singleton] at isFirst
        · rwa [unlines_cons piece last, List.head?_append_of_ne_nil _ filled] at isFirst
  · rcases List.eq_nil_or_concat pieces with rfl | ⟨before, piece, rfl⟩
    · cases isLast
    · rw [List.concat_eq_append] at edges isLast
      obtain ⟨filled, cropped⟩ := edges piece (.inr List.getLast?_concat)
      refine cropped (.inr ?_)
      by_cases only : before = []
      · rwa [only, List.nil_append, unlines_singleton] at isLast
      · rwa [unlines_concat only, List.getLast?_append_of_ne_nil _ (List.cons_ne_nil _ _),
          List.getLast?_cons_of_ne_nil filled] at isLast

/-- Whether a text has a line feed at an end shows in its first and its last line. -/
theorem isCropped_iff_lines
    {text : List Char}
    (text_ne_nil : text ≠ []) :
    IsCropped text ↔ ¬ IsAtEdge [] (lines text) := by
  have whole := unlines_lines text
  constructor
  · rintro cropped (isFirst | isLast)
    · obtain ⟨rest, cut⟩ := List.head?_eq_some_iff.mp isFirst
      rw [cut] at whole
      by_cases last : rest = []
      · rw [last, unlines_singleton] at whole
        exact text_ne_nil whole.symm
      · rw [unlines_cons [] last, List.nil_append] at whole
        exact cropped (.inl (whole ▸ rfl))
    · obtain ⟨before, cut⟩ := List.getLast?_eq_some_iff.mp isLast
      rw [cut] at whole
      by_cases only : before = []
      · rw [only, List.nil_append, unlines_singleton] at whole
        exact text_ne_nil whole.symm
      · rw [unlines_concat only] at whole
        exact cropped (.inr (whole ▸ List.getLast?_concat))
  · intro filled
    rw [← whole]
    refine isCropped_unlines fun line atEdge =>
      ⟨?_, isCropped_of_notMem (notMem_of_mem_lines (mem_of_isAtEdge atEdge))⟩
    rintro rfl
    exact filled atEdge

/-- Lines may be rewritten one by one, if none at an end gets lost. -/
theorem isCropped_unlines_map
    {f : List Char → List Char}
    {text : List Char}
    (single : ∀ line, '\n' ∉ line → '\n' ∉ f line)
    (filled : ∀ line, IsAtEdge line (lines text) → f line ≠ []) :
    IsCropped (unlines ((lines text).map f)) := by
  refine isCropped_unlines fun piece atEdge => ?_
  obtain ⟨line, isLine, rfl⟩ := exists_of_isAtEdge_map atEdge
  exact ⟨filled line isLine,
    isCropped_of_notMem (single line (notMem_of_mem_lines (mem_of_isAtEdge isLine)))⟩

/-- What is trimmed of line feeds has none at either end. -/
theorem isCropped_trim (text : List Char) : IsCropped (trim (· == '\n') text) := by
  rintro (isFirst | isLast)
  · obtain ⟨trimmed, taken, -⟩ := exists_trimmed (· == '\n') (trimStart (· == '\n') text)
    have isStart : (trimStart (· == '\n') text).head? = some '\n' := by
      rw [taken, List.head?_append]
      exact Option.or_eq_some_iff.mpr (.inl isFirst)
    exact absurd (head?_dropWhile _ isStart) (by decide)
  · exact absurd (getLast?_trimEnd _ isLast) (by decide)

end Text

namespace Markdown

open Text

/-! ## Leaves -/

/-- A heading is written on one line. -/
theorem isCropped_headingText
    (depth : UInt8)
    (children : List Node) :
    IsCropped (headingText depth children) := by
  have single : '\n' ∉ trim isBlank (onOneLine (Node.inlineText false children)) := fun member =>
    newline_notMem_onOneLine _ (mem_of_mem_trim member)
  apply isCropped_of_notMem
  rw [headingText]
  generalize trim isBlank (onOneLine (Node.inlineText false children)) = content at single
  have closed : '\n' ∉ content.dropLast ++ ['\\', '#'] := by
    simpa using fun member => single (List.dropLast_subset content member)
  by_cases closes : content.getLast? = some '#'
  · simpa [closes] using closed
  · by_cases empty : content.isEmpty <;> simp [closes, empty, single]

namespace Escape

theorem lineStart_ne_nil
    {line : List Char}
    (filled : line ≠ []) :
    lineStart line ≠ [] := by
  obtain ⟨c, rest, -, -, same⟩ | ⟨digits, c, rest, -, -, -, -, same⟩ | ⟨same, -⟩ := lineStart_cases line
  · rw [same]
    exact List.cons_ne_nil _ _
  · rw [same]
    exact List.append_ne_nil_of_right_ne_nil _ (List.cons_ne_nil _ _)
  · rwa [same]

theorem newline_notMem_lineStart
    {line : List Char}
    (single : '\n' ∉ line) :
    '\n' ∉ lineStart line := by
  obtain ⟨c, rest, -, -, same⟩ | ⟨digits, c, rest, rfl, -, -, -, same⟩ | ⟨same, -⟩ :=
    lineStart_cases line
  · simpa [same] using single
  · simpa [same] using single
  · rwa [same]

theorem isCropped_lineStarts
    {text : List Char}
    (cropped : IsCropped text) :
    IsCropped (lineStarts text) := by
  by_cases empty : text = []
  · subst empty
    exact cropped
  · refine isCropped_unlines_map (fun line => newline_notMem_lineStart) fun line atEdge => ?_
    apply lineStart_ne_nil
    rintro rfl
    exact (isCropped_iff_lines empty).mp cropped atEdge

end Escape

theorem isCropped_paragraphText (children : List Node) : IsCropped (paragraphText children) :=
  Escape.isCropped_lineStarts (isCropped_trim _)

/-- Code stands between its fences. -/
theorem isCropped_codeText
    (lang : Option String)
    (value : List Char) :
    IsCropped (codeText lang value) := by
  have fence_ne_nil : codeFence value ≠ [] := by simp [codeFence]
  have cropped : ¬ IsAtEdge '\n' (codeFence value) :=
    isCropped_of_notMem (by simp [codeFence])
  have enclosed (inside : List Char) : IsCropped (codeFence value ++ inside ++ codeFence value) :=
    mt (isAtEdge_of_append fence_ne_nil fence_ne_nil) (not_or.mpr ⟨cropped, cropped⟩)
  rw [codeText]
  by_cases empty : value.isEmpty
  · rw [if_pos empty]
    simpa [codeFence] using enclosed ((lang.getD "").toList ++ ['\n'])
  · rw [if_neg empty]
    simpa [codeFence] using enclosed ((lang.getD "").toList ++ '\n' :: value ++ ['\n'])

/-- Every row of a table stands between bars. -/
theorem isCropped_rowText (cells : List (List Char)) : IsCropped (rowText cells) := by
  rw [rowText]
  refine mt (isAtEdge_of_append (List.cons_ne_nil _ _) (List.cons_ne_nil _ _)) ?_
  rintro (isFront | isBack)
  · exact absurd (mem_of_isAtEdge isFront) (by decide)
  · exact absurd (mem_of_isAtEdge isBack) (by decide)

theorem isCropped_tableText
    (align : List Alignment)
    (rows : List Node) :
    IsCropped (tableText align rows) := by
  have row {pieces : List (List Char)} (areRows : ∀ piece ∈ pieces, ∃ cells, piece = rowText cells) :
      IsCropped (unlines pieces) := by
    refine isCropped_unlines fun piece atEdge => ?_
    obtain ⟨cells, rfl⟩ := areRows piece (mem_of_isAtEdge atEdge)
    exact ⟨List.cons_ne_nil _ _, isCropped_rowText cells⟩
  rw [tableText]
  cases rows.map rowCells with
  | nil => exact isCropped_of_notMem List.not_mem_nil
  | cons header body =>
      dsimp only
      split
      · exact isCropped_of_notMem List.not_mem_nil
      · refine row ?_
        simp only [List.forall_mem_cons, List.forall_mem_map]
        exact ⟨⟨_, rfl⟩, ⟨_, rfl⟩, fun _ _ => ⟨_, rfl⟩⟩

/-! ## Containers -/

/-- A quote has a line for every line of its content, which has one even if it is empty. -/
theorem lines_quoteText_eq_map (body : List Char) :
    lines (quoteText body) = (lines body).map Reader.quoteLine := by
  by_cases empty : body = []
  · subst empty
    rfl
  · exact lines_quoteText empty

/-- Every line of a quote begins with its sign. -/
theorem isCropped_quoteText (body : List Char) : IsCropped (quoteText body) := by
  rw [← unlines_lines (quoteText body), lines_quoteText_eq_map]
  exact isCropped_unlines_map (fun line => newline_notMem_quoteLine)
    fun line _ => (Reader.isSolid_quoteLine line).ne_nil

/-- An item begins with its marker and ends as its content does. -/
theorem isCropped_itemText
    {marker body : List Char}
    (marker_ne_nil : marker ≠ [])
    (single : '\n' ∉ marker)
    (cropped : IsCropped body) :
    IsCropped (itemText marker body) := by
  by_cases empty : body = []
  · rw [itemText, empty]
    exact isCropped_of_notMem single
  · have item_ne_nil := Node.itemText_ne_nil marker_ne_nil body
    obtain ⟨first, rest, cut⟩ := List.exists_cons_of_ne_nil (lines_ne_nil body)
    rw [isCropped_iff_lines empty, cut] at cropped
    rw [isCropped_iff_lines item_ne_nil, lines_itemText single empty cut]
    have opening : marker ++ ' ' :: first ≠ [] := List.append_ne_nil_of_left_ne_nil marker_ne_nil _
    rintro (isFirst | isLast)
    · exact opening (Option.some.inj isFirst)
    · by_cases last : rest = []
      · rw [last] at isLast
        exact opening (Option.some.inj isLast)
      · rw [List.getLast?_cons_of_ne_nil (by simpa using last), List.getLast?_map,
          Option.map_eq_some_iff] at isLast
        obtain ⟨line, isLast, indented⟩ := isLast
        have none : line = [] := by
          by_contra filled
          simp [Reader.Body.indentedLine, filled] at indented
        subst none
        exact cropped (.inr ((List.getLast?_cons_of_ne_nil last).trans isLast))

/-! ## Siblings -/

namespace Node

section Siblings

variable {nodes : List Node}
  (cropped : ∀ node ∈ nodes, ∀ state : SiblingState, IsCropped (state.textOf node))
include cropped

/-- Siblings at the beginning do not begin with a line feed, and no siblings end in one. -/
theorem isCropped_siblingTexts_of
    (inItem : Bool)
    (state : SiblingState) :
    (state.started = false → (siblingTexts inItem state nodes).head? ≠ some '\n') ∧
      (siblingTexts inItem state nodes).getLast? ≠ some '\n' := by
  induction nodes generalizing state with
  | nil => simp [siblingTexts]
  | cons node rest inductionHypothesis =>
      obtain ⟨here, others⟩ := List.forall_mem_cons.mp cropped
      obtain ⟨first, last⟩ := inductionHypothesis others (state.after node)
      rw [siblingTexts_cons]
      by_cases silent : state.textOf node = []
      · have noGap : state.gap inItem node = [] := by simp [SiblingState.gap, silent]
        rw [noGap, silent, List.nil_append, List.nil_append]
        refine ⟨fun begins => first ?_, last⟩
        simp [SiblingState.after, begins, silent]
      · refine ⟨fun begins => ?_, ?_⟩
        · have noGap : state.gap inItem node = [] := by simp [SiblingState.gap, begins]
          rw [noGap, List.nil_append, List.head?_append_of_ne_nil _ silent]
          exact fun isFirst => here state (.inl isFirst)
        · by_cases silentRest : siblingTexts inItem (state.after node) rest = []
          · rw [silentRest, List.append_nil, List.getLast?_append_of_ne_nil _ silent]
            exact fun isLast => here state (.inr isLast)
          · rwa [List.getLast?_append_of_ne_nil _ silentRest]

theorem isCropped_blocksText_of (inItem : Bool) : IsCropped (blocksText inItem nodes) := by
  obtain ⟨first, last⟩ := isCropped_siblingTexts_of cropped inItem .start
  exact not_or.mpr ⟨first rfl, last⟩

end Siblings

mutual

/-- Whether a node is raw HTML in the place of a block or holds some there. -/
def hasHtmlBlock : Node → Bool
  | .html _ => true
  | .list _ children | .listItem children | .blockquote children => haveHtmlBlock children
  | _ => false

/-- Whether one of some nodes does. -/
def haveHtmlBlock : List Node → Bool
  | [] => false
  | node :: rest => node.hasHtmlBlock || haveHtmlBlock rest

end

mutual

/-- No block but raw HTML writes a line feed at either of its ends. -/
theorem isCropped_textOf : ∀ node : Node, node.hasHtmlBlock = false →
    ∀ state : SiblingState, IsCropped (state.textOf node)
  | .heading depth children, _, _ => isCropped_headingText depth children
  | .paragraph children, _, _ => isCropped_paragraphText children
  | .list ordered items, free, state =>
      isCropped_unlines fun piece atEdge =>
        isCropped_of_mem_itemTexts items free (isMarker_next ..) 1 piece (mem_of_isAtEdge atEdge)
  | .listItem children, free, _ =>
      isCropped_blocksText_of (isCropped_textOf_of_mem children free) true
  | .code lang value, _, _ => isCropped_codeText lang value.toList
  | .blockquote children, _, _ => isCropped_quoteText _
  | .thematicBreak, _, _ => show IsCropped ['*', '*', '*'] from isCropped_of_notMem (by decide)
  | .table align rows, _, _ => isCropped_tableText align rows
  | .tableRow _, _, _ | .tableCell _, _, _ => isCropped_of_notMem List.not_mem_nil
  | .text _, _, _ | .strong _, _, _ | .emphasis _, _, _ | .inlineCode _, _, _ | .link .., _, _
  | .delete _, _, _ | .lineBreak, _, _ | .image .., _, _ => isCropped_paragraphText _

/-- The items of a list neither are empty nor have a line feed at either of their ends. -/
theorem isCropped_of_mem_itemTexts : ∀ items : List Node, haveHtmlBlock items = false →
    ∀ {ordered : Bool} {marker : Char}, Reader.IsMarker ordered marker → ∀ number : Nat,
      ∀ text ∈ itemTexts ordered marker number items, text ≠ [] ∧ IsCropped text
  | [], _, _, _, _, _ => by
      rw [itemTexts]
      exact nofun
  | item :: rest, free, ordered, marker, isMarker, number => by
      rw [haveHtmlBlock, Bool.or_eq_false_iff] at free
      rw [itemTexts, List.forall_mem_cons]
      have content := isCropped_textOf item free.1 .start
      rw [← blockText_eq_textOf] at content
      have some := itemMarker_ne_nil ordered marker number
      exact ⟨⟨itemText_ne_nil some _,
          isCropped_itemText some (newline_notMem_itemMarker isMarker number) content⟩,
        isCropped_of_mem_itemTexts rest free.2 isMarker (number + 1)⟩

theorem isCropped_textOf_of_mem : ∀ nodes : List Node, haveHtmlBlock nodes = false →
    ∀ node ∈ nodes, ∀ state : SiblingState, IsCropped (state.textOf node)
  | [], _ => nofun
  | node :: rest, free => by
      rw [haveHtmlBlock, Bool.or_eq_false_iff] at free
      exact List.forall_mem_cons.mpr
        ⟨isCropped_textOf node free.1, isCropped_textOf_of_mem rest free.2⟩

end

end Node

/-! ## Documents -/

namespace Tree

/-- A document without HTML blocks writes nothing, or it begins with something other than a line feed
and ends in a single one, whatever its nodes hold and wherever they stand. -/
theorem toMarkdown_empty_or_ends_in_one_newline
    {tree : Tree}
    (free : Node.haveHtmlBlock tree.children = false) :
    tree.toMarkdown = "" ∨
      (∃ c, tree.toMarkdown.toList.head? = some c ∧ c ≠ '\n') ∧
        ∃ before c, tree.toMarkdown.toList = before ++ [c, '\n'] ∧ c ≠ '\n' := by
  have cropped : IsCropped (blocksText false tree.children) :=
    Node.isCropped_blocksText_of (Node.isCropped_textOf_of_mem tree.children free) false
  rw [toMarkdown]
  by_cases empty : blocksText false tree.children = []
  · left
    simp [empty]
  · right
    rw [if_neg (by simpa using empty), String.toList_ofList]
    constructor
    · obtain ⟨c, rest, begins⟩ := List.exists_cons_of_ne_nil empty
      rw [begins] at cropped ⊢
      refine ⟨c, rfl, ?_⟩
      rintro rfl
      exact cropped (.inl rfl)
    · obtain ⟨before, c, ends⟩ := (List.eq_nil_or_concat _).resolve_left empty
      rw [List.concat_eq_append] at ends
      rw [ends] at cropped ⊢
      refine ⟨before, c, List.append_assoc .., ?_⟩
      rintro rfl
      exact cropped (.inr List.getLast?_concat)

/-- A document of nodes that are empty, out of place, or hold line feeds at their ends. -/
theorem toMarkdown_ends_in_one_newline_for_odd_nodes :
    let tree : Tree :=
      ⟨[.paragraph [.text "\n \n"], .tableRow [.tableCell []], .list true [], .text "\n",
        .list false [.paragraph [], .code (some "\n") "\n\n", .listItem [.tableCell [], .lineBreak]],
        .blockquote [.heading 0 [.html "\n"]], .paragraph [.text "a", .lineBreak], .table [] []]⟩
    Node.haveHtmlBlock tree.children = false ∧
      tree.toMarkdown = "-\n- \x60\x60\x60\n\n\n\n\n  \x60\x60\x60\n- \\\n\n> #\n\na\\\n" ∧
      (∃ c, tree.toMarkdown.toList.head? = some c ∧ c ≠ '\n') ∧
        ∃ before c, tree.toMarkdown.toList = before ++ [c, '\n'] ∧ c ≠ '\n' := by
  intro tree
  have free : Node.haveHtmlBlock tree.children = false := by decide +kernel
  have written : tree.toMarkdown = "-\n- \x60\x60\x60\n\n\n\n\n  \x60\x60\x60\n- \\\n\n> #\n\na\\\n" := by
    decide +kernel
  have filled : tree.toMarkdown ≠ "" := by
    rw [written]
    decide
  exact ⟨free, written, (toMarkdown_empty_or_ends_in_one_newline free).resolve_left filled⟩

/-- Raw HTML in the place of a block is written with the line feeds it has. -/
example : Tree.toMarkdown ⟨[.html "\n"]⟩ = "\n\n" := by
  decide +kernel

end Tree

end Markdown
end TwinEditor
