import TwinEditor.Proofs.Markdown.SoundBlocks
import TwinEditor.Proofs.Markdown.SoundInline

/-!
# The trees that are read are well formed

A node of a tree may have any nodes inside it. What is read from a text keeps to the grammar: blocks
stand where blocks belong and inline content where that belongs, texts are neither empty nor cut into
pieces, lists have items, tables have rows of one width, and an extension that is off leaves no trace.
-/

namespace TwinEditor
namespace Markdown
namespace Node

/-! ## Well-formed trees -/

/-- Whether a node may stand among blocks. -/
def isBlock : Node → Bool
  | .heading .. | .paragraph _ | .list .. | .code .. | .blockquote _ | .thematicBreak | .table ..
  | .html _ => true
  | _ => false

/-- Whether a node may stand among inline content. -/
def isInline : Node → Bool
  | .text _ | .strong _ | .emphasis _ | .inlineCode _ | .link .. | .delete _ | .lineBreak | .image ..
  | .html _ => true
  | _ => false

/-- Whether a node is a text. -/
def isText : Node → Bool
  | .text _ => true
  | _ => false

/-- Whether a node is a table cell. -/
def isCell : Node → Bool
  | .tableCell _ => true
  | _ => false

/-- Whether a node is a table row of as many cells. -/
def isRow (columns : Nat) : Node → Bool
  | .tableRow children => children.length == columns && children.all isCell
  | _ => false

/-- Whether a text names the language of code: it is a word. -/
def isLanguage (lang : String) : Bool :=
  !lang.isEmpty && lang.toList.all (!Text.isBlank ·)

mutual

/-- Whether a node and all that is inside it keep to the grammar. -/
def isWellFormed (options : Options) : Node → Bool
  | .heading depth children =>
      (1 ≤ depth && depth ≤ 6) && (children.all isInline && areWellFormed options children)
  | .paragraph children | .tableCell children | .strong children | .emphasis children
  | .link _ children => children.all isInline && areWellFormed options children
  | .delete children =>
      options.strikethrough && (children.all isInline && areWellFormed options children)
  | .list _ children =>
      !children.isEmpty && (children.all isListItem && areWellFormed options children)
  | .listItem children | .blockquote children => children.all isBlock && areWellFormed options children
  | .table align children =>
      options.tables && (children.all (isRow align.length) && areWellFormed options children)
  | .tableRow children => children.all isCell && areWellFormed options children
  | .code lang _ => lang.all isLanguage
  | .text value => !value.isEmpty
  | .thematicBreak | .inlineCode _ | .lineBreak | .html _ | .image .. => true

/-- Whether all of some neighbouring nodes are well formed and no two texts stand side by side. -/
def areWellFormed (options : Options) : List Node → Bool
  | [] => true
  | node :: rest =>
      node.isWellFormed options && !(node.isText && rest.head?.any isText) &&
        areWellFormed options rest

end

end Node

/-- Whether a tree keeps to the grammar. -/
def Tree.isWellFormed (options : Options) (tree : Tree) : Bool :=
  tree.children.all Node.isBlock && Node.areWellFormed options tree.children

namespace Node

variable {options : Options}

theorem areWellFormed_cons
    {node : Node}
    {rest : List Node} :
    areWellFormed options (node :: rest) = true ↔
      node.isWellFormed options = true ∧ ¬(node.isText = true ∧ rest.head?.any isText = true) ∧
        areWellFormed options rest = true := by
  rw [areWellFormed, Bool.and_eq_true, Bool.and_eq_true, Bool.not_eq_true', ← Bool.not_eq_true,
    Bool.and_eq_true, and_assoc]

theorem isText_of_isBlock
    {node : Node}
    (block : node.isBlock = true) :
    node.isText = false := by
  cases node with
  | text value => cases block
  | _ => rfl

/-- Blocks have no texts among them that could stand side by side. -/
theorem areBlocks_wellFormed
    {nodes : List Node}
    (each : ∀ node ∈ nodes, node.isBlock = true ∧ node.isWellFormed options = true) :
    (nodes.all isBlock && areWellFormed options nodes) = true := by
  induction nodes with
  | nil => rfl
  | cons node rest inductionHypothesis =>
      obtain ⟨⟨block, wellFormed⟩, others⟩ := List.forall_mem_cons.mp each
      obtain ⟨blocks, following⟩ := Bool.and_eq_true_iff.mp (inductionHypothesis others)
      refine Bool.and_eq_true_iff.mpr ⟨Bool.and_eq_true_iff.mpr ⟨block, blocks⟩,
        areWellFormed_cons.mpr ⟨wellFormed, fun both => ?_, following⟩⟩
      rw [isText_of_isBlock block] at both
      exact Bool.false_ne_true both.1

end Node

namespace Reader

open Node (areWellFormed areWellFormed_cons isInline isBlock)

/-! ## Inline content -/

namespace Inline

variable {strikethrough : Bool}

theorem areSound_cons
    {node : Inline}
    {rest : List Inline} :
    areSound strikethrough (node :: rest) = true ↔
      node.isSound strikethrough = true ∧ areSound strikethrough rest = true :=
  Bool.and_eq_true_iff

theorem areSound_append
    {before after : List Inline}
    (first : areSound strikethrough before = true)
    (rest : areSound strikethrough after = true) :
    areSound strikethrough (before ++ after) = true :=
  areSound_iff.mpr (List.forall_mem_append.mpr ⟨areSound_iff.mp first, areSound_iff.mp rest⟩)

theorem areSound_consJoined
    {node : Inline}
    {rest : List Inline}
    (first : node.isSound strikethrough = true)
    (others : areSound strikethrough rest = true) :
    areSound strikethrough (consJoined node rest) = true := by
  unfold consJoined
  split
  · exact (areSound_cons.mp others).2
  · exact others
  · exact areSound_cons.mpr ⟨first, others⟩

theorem areSound_joinTexts
    {nodes : List Inline}
    (sound : areSound strikethrough nodes = true) :
    areSound strikethrough (joinTexts nodes) = true := by
  induction nodes with
  | nil => rfl
  | cons node rest inductionHypothesis =>
      obtain ⟨first, others⟩ := areSound_cons.mp sound
      exact areSound_consJoined first (inductionHypothesis others)

theorem areSound_expandWithin
    (bound : Nat)
    (text : List Char) :
    areSound strikethrough (Autolink.expandWithin bound text) = true := by
  induction bound generalizing text with
  | zero => rfl
  | succ bound inductionHypothesis =>
      rw [Autolink.expandWithin]
      split
      · exact inductionHypothesis _
      · rfl

theorem areSound_expandTexts
    (autolink : Bool)
    {nodes : List Inline}
    (sound : areSound strikethrough nodes = true) :
    areSound strikethrough (expandTexts autolink nodes) = true := by
  induction nodes with
  | nil => rfl
  | cons node rest inductionHypothesis =>
      obtain ⟨first, others⟩ := areSound_cons.mp sound
      have alone : areSound strikethrough [node] = true := areSound_cons.mpr ⟨first, rfl⟩
      refine areSound_append ?_ (inductionHypothesis others)
      cases node with
      | text value =>
          dsimp only
          split
          · exact areSound_expandWithin _ _
          · exact alone
      | _ => exact alone

theorem areSound_dropTask
    {nodes : List Inline}
    (sound : areSound strikethrough nodes = true) :
    areSound strikethrough (dropTask nodes) = true := by
  unfold dropTask
  split
  · exact (areSound_cons.mp sound).2
  · exact sound

mutual

theorem isSound_settle
    (autolink : Bool) :
    ∀ node : Inline, node.isSound strikethrough = true →
      (node.settle autolink).isSound strikethrough = true
  | .emphasis children, sound | .strong children, sound =>
      areSound_expandTexts autolink (areSound_joinTexts (areSound_settleAll autolink children sound))
  | .delete children, sound => by
      obtain ⟨on, inside⟩ := Bool.and_eq_true_iff.mp sound
      exact Bool.and_eq_true_iff.mpr ⟨on,
        areSound_expandTexts autolink (areSound_joinTexts (areSound_settleAll autolink children inside))⟩
  | .text _, sound | .softBreak, sound | .hardBreak, sound | .code _, sound | .html _, sound
  | .link .., sound | .image .., sound => sound

theorem areSound_settleAll
    (autolink : Bool) :
    ∀ nodes : List Inline, areSound strikethrough nodes = true →
      areSound strikethrough (settleAll autolink nodes) = true
  | [], _ => rfl
  | node :: rest, sound =>
      areSound_cons.mpr ⟨isSound_settle autolink node (areSound_cons.mp sound).1,
        areSound_settleAll autolink rest (areSound_cons.mp sound).2⟩

end

variable {options : Options}

theorem areWellFormed_consText
    (value : String)
    {rest : List Node}
    (others : areWellFormed options rest = true) :
    areWellFormed options (consNode (.text value) rest) = true := by
  unfold consNode
  split
  · next joined next rest same =>
      cases same
      obtain ⟨nonempty, apart, following⟩ := areWellFormed_cons.mp others
      refine areWellFormed_cons.mpr ⟨?_, apart, following⟩
      simp only [Node.isWellFormed, Bool.not_eq_true', String.isEmpty_eq_false_iff] at nonempty ⊢
      simp [nonempty]
  · next tail _ _ _ same noText =>
      cases same
      split
      · exact others
      · next filled =>
          refine areWellFormed_cons.mpr ⟨by simpa [Node.isWellFormed] using filled, fun both => ?_, others⟩
          cases tail with
          | nil => exact Bool.false_ne_true both.2
          | cons next rest =>
              cases next with
              | text next => exact noText next rest rfl
              | _ => exact Bool.false_ne_true both.2
  · next noText _ => exact (noText value rfl).elim

/-- What is put in front of well-formed nodes may be an empty text or one to be joined with the next. -/
theorem areWellFormed_consNode
    {node : Node}
    {rest : List Node}
    (first : node.isText = true ∨ node.isWellFormed options = true)
    (others : areWellFormed options rest = true) :
    areWellFormed options (consNode node rest) = true := by
  cases node with
  | text value => exact areWellFormed_consText value others
  | _ => exact areWellFormed_cons.mpr ⟨first.resolve_left nofun, nofun, others⟩

theorem isInline_consNode
    {node : Node}
    {rest : List Node}
    (first : node.isInline = true)
    (others : rest.all isInline = true) :
    (consNode node rest).all isInline = true := by
  unfold consNode
  split
  · exact others
  · split
    · exact others
    · exact Bool.and_eq_true_iff.mpr ⟨rfl, others⟩
  · exact Bool.and_eq_true_iff.mpr ⟨first, others⟩

theorem isInline_toNode (node : Inline) : node.toNode.isInline = true := by
  cases node <;> rfl

theorem isInline_toNodes (nodes : List Inline) : (toNodes nodes).all isInline = true := by
  induction nodes with
  | nil => rfl
  | cons node rest inductionHypothesis => exact isInline_consNode (isInline_toNode node) inductionHypothesis

mutual

/-- The node of a tree is a text, possibly an empty one, or well formed. -/
theorem isWellFormed_toNode :
    ∀ node : Inline, node.isSound options.strikethrough = true →
      node.toNode.isText = true ∨ node.toNode.isWellFormed options = true
  | .text _, _ | .softBreak, _ => .inl rfl
  | .hardBreak, _ | .code _, _ | .html _, _ | .image .., _ => .inr rfl
  | .emphasis children, sound | .strong children, sound | .link _ children, sound =>
      .inr (Bool.and_eq_true_iff.mpr ⟨isInline_toNodes children, areWellFormed_toNodes children sound⟩)
  | .delete children, sound => by
      obtain ⟨on, inside⟩ := Bool.and_eq_true_iff.mp sound
      exact .inr (Bool.and_eq_true_iff.mpr ⟨on,
        Bool.and_eq_true_iff.mpr ⟨isInline_toNodes children, areWellFormed_toNodes children inside⟩⟩)

theorem areWellFormed_toNodes :
    ∀ nodes : List Inline, areSound options.strikethrough nodes = true →
      areWellFormed options (toNodes nodes) = true
  | [], _ => rfl
  | node :: rest, sound =>
      areWellFormed_consNode (isWellFormed_toNode node (areSound_cons.mp sound).1)
        (areWellFormed_toNodes rest (areSound_cons.mp sound).2)

end

end Inline

/-! ## Blocks -/

namespace Block

variable {context : Context}

/-- The context of a reader whose extensions are those of the options. -/
def Context.IsConsistent (context : Context) : Prop :=
  context.setting.strikethrough = context.options.strikethrough

/-- What is read of the text of a block is inline content and well formed. -/
theorem inlineNodes_wellFormed
    (consistent : context.IsConsistent)
    (mayBeTask : Bool)
    (expanded : Nat)
    (text : List Char) :
    let nodes := (inlineNodes context mayBeTask expanded text).1
    (nodes.all isInline && areWellFormed context.options nodes) = true := by
  refine Bool.and_eq_true_iff.mpr ⟨Inline.isInline_toNodes _, Inline.areWellFormed_toNodes _ ?_⟩
  have sound := areSound_readInlines context.setting expanded text
  rw [consistent] at sound
  have joined := Inline.areSound_joinTexts
    (Inline.areSound_settleAll context.options.autolink _ sound)
  refine Inline.areSound_expandTexts _ ?_
  split
  · exact Inline.areSound_dropTask joined
  · exact joined

theorem length_cellNodes
    (expanded : Nat)
    (cells : List (List Char)) :
    (cellNodes context expanded cells).1.length = cells.length := by
  induction cells generalizing expanded with
  | nil => rfl
  | cons cell rest inductionHypothesis =>
      simp only [cellNodes, List.length_cons, inductionHypothesis]

theorem cellNodes_wellFormed
    (consistent : context.IsConsistent)
    (expanded : Nat)
    (cells : List (List Char)) :
    let nodes := (cellNodes context expanded cells).1
    (nodes.all Node.isCell && areWellFormed context.options nodes) = true := by
  induction cells generalizing expanded with
  | nil => rfl
  | cons cell rest inductionHypothesis =>
      obtain ⟨areCells, others⟩ := Bool.and_eq_true_iff.mp
        (inductionHypothesis (inlineNodes context false expanded cell).2)
      exact Bool.and_eq_true_iff.mpr ⟨Bool.and_eq_true_iff.mpr ⟨rfl, areCells⟩,
        areWellFormed_cons.mpr ⟨inlineNodes_wellFormed consistent false expanded cell, nofun, others⟩⟩

theorem rowNodes_wellFormed
    (consistent : context.IsConsistent)
    {columns : Nat}
    (expanded : Nat)
    (rows : List (List (List Char)))
    (widths : ∀ row ∈ rows, row.length = columns) :
    let nodes := (rowNodes context expanded rows).1
    (nodes.all (Node.isRow columns) && areWellFormed context.options nodes) = true := by
  induction rows generalizing expanded with
  | nil => rfl
  | cons row rest inductionHypothesis =>
      obtain ⟨width, others⟩ := List.forall_mem_cons.mp widths
      have cells := cellNodes_wellFormed consistent expanded row
      obtain ⟨areRows, following⟩ := Bool.and_eq_true_iff.mp
        (inductionHypothesis (cellNodes context expanded row).2 others)
      have isRow : (Node.tableRow (cellNodes context expanded row).1).isRow columns = true := by
        rw [Node.isRow, length_cellNodes, width, beq_self_eq_true, Bool.true_and]
        exact (Bool.and_eq_true_iff.mp cells).1
      exact Bool.and_eq_true_iff.mpr ⟨Bool.and_eq_true_iff.mpr ⟨isRow, areRows⟩,
        areWellFormed_cons.mpr ⟨cells, nofun, following⟩⟩

theorem isLanguage_languageOf (info : List Char) : (languageOf info).all Node.isLanguage = true := by
  simp only [languageOf]
  split
  · rfl
  · next filled =>
      refine Bool.and_eq_true_iff.mpr ⟨?_, ?_⟩
      · simpa [String.isEmpty_eq_false_iff] using filled
      · rw [String.toList_ofList]
        exact List.all_takeWhile

mutual

/-- A sound block becomes well-formed blocks. -/
theorem toNodes_wellFormed
    (consistent : context.IsConsistent)
    (mayBeTask : Bool)
    (expanded : Nat) :
    ∀ block : Block, block.IsSound context.options.tables →
      ∀ node ∈ (block.toNodes context mayBeTask expanded).1,
        node.isBlock = true ∧ node.isWellFormed context.options = true
  | .heading depth text, .heading positive bounded => by
      refine List.forall_mem_singleton.mpr ⟨rfl, Bool.and_eq_true_iff.mpr
        ⟨?_, inlineNodes_wellFormed consistent false expanded text⟩⟩
      simp only [Bool.and_eq_true, decide_eq_true_eq, UInt8.le_iff_toNat_le, UInt8.toNat_ofNat']
      exact ⟨by simp; omega, by simp; omega⟩
  | .paragraph text, _ =>
      List.forall_mem_singleton.mpr ⟨rfl, inlineNodes_wellFormed consistent mayBeTask expanded text⟩
  | .list ordered items, .list filled inside => by
      refine List.forall_mem_singleton.mpr ⟨rfl, Bool.and_eq_true_iff.mpr
        ⟨?_, itemNodes_wellFormed consistent expanded items inside⟩⟩
      cases items with
      | nil => exact absurd rfl filled
      | cons item rest => rfl
  | .code info value, _ => List.forall_mem_singleton.mpr ⟨rfl, isLanguage_languageOf info⟩
  | .quote children, .quote inside =>
      List.forall_mem_singleton.mpr ⟨rfl, Node.areBlocks_wellFormed
        (blockNodes_wellFormed consistent false expanded children inside)⟩
  | .rule, _ | .html _, _ => List.forall_mem_singleton.mpr ⟨rfl, rfl⟩
  | .table align rows, .table on widths =>
      List.forall_mem_singleton.mpr ⟨rfl, Bool.and_eq_true_iff.mpr
        ⟨on, rowNodes_wellFormed consistent expanded rows widths⟩⟩
  | .definitions _, _ => fun _ isNode => absurd isNode List.not_mem_nil

/-- Sound blocks become well-formed blocks. -/
theorem blockNodes_wellFormed
    (consistent : context.IsConsistent)
    (mayBeTask : Bool)
    (expanded : Nat) :
    ∀ blocks : List Block, (∀ block ∈ blocks, block.IsSound context.options.tables) →
      ∀ node ∈ (blockNodes context mayBeTask expanded blocks).1,
        node.isBlock = true ∧ node.isWellFormed context.options = true
  | [], _ => fun _ isNode => absurd isNode List.not_mem_nil
  | block :: rest, sound =>
      List.forall_mem_append.mpr
        ⟨toNodes_wellFormed consistent mayBeTask expanded block (List.forall_mem_cons.mp sound).1,
          blockNodes_wellFormed consistent _ _ rest (List.forall_mem_cons.mp sound).2⟩

/-- Items of sound blocks become well-formed items. -/
theorem itemNodes_wellFormed
    (consistent : context.IsConsistent)
    (expanded : Nat) :
    ∀ items : List (List Block),
      (∀ item ∈ items, ∀ block ∈ item, block.IsSound context.options.tables) →
        let nodes := (itemNodes context expanded items).1
        (nodes.all Node.isListItem && areWellFormed context.options nodes) = true
  | [], _ => rfl
  | item :: rest, sound => by
      have inside := Node.areBlocks_wellFormed
        (blockNodes_wellFormed consistent true expanded item (List.forall_mem_cons.mp sound).1)
      obtain ⟨areItems, following⟩ := Bool.and_eq_true_iff.mp
        (itemNodes_wellFormed consistent (blockNodes context true expanded item).2 rest
          (List.forall_mem_cons.mp sound).2)
      exact Bool.and_eq_true_iff.mpr ⟨Bool.and_eq_true_iff.mpr ⟨rfl, areItems⟩,
        areWellFormed_cons.mpr ⟨inside, nofun, following⟩⟩

end

end Block
end Reader

/-- Every tree that is read from a text keeps to the grammar, whatever the text and the extensions. -/
theorem Tree.isWellFormed_ofMarkdown
    (options : Options)
    (source : String) :
    (Tree.ofMarkdown options source).isWellFormed options = true := by
  have sound := Reader.areSound_readBlocks options.tables source.toList
  refine Node.areBlocks_wellFormed (Reader.Block.blockNodes_wellFormed ?_ false 0 _ sound)
  rfl

end Markdown
end TwinEditor
