import TwinEditor.Proofs.Markdown.BlockStructure

/-!
# Documents of text and documents of code

Text in paragraphs comes back as it is where no extension is on, whatever it holds of the characters that
markup is made of, unless a long reference is in it. Code blocks come back whatever extensions are on.
-/

namespace TwinEditor
namespace Markdown

/-- The blocks of a document are plain if each of them is. -/
theorem Node.arePlain_of_forall
    {options : Options}
    {nodes : List Node}
    (plain : ∀ node ∈ nodes, node.isPlain options = true) :
    arePlain options nodes = true := by
  induction nodes with
  | nil => rfl
  | cons node rest inductionHypothesis =>
      obtain ⟨first, others⟩ := List.forall_mem_cons.mp plain
      rw [arePlain, first, inductionHypothesis others]
      rfl

/-! ## Text -/

/-- Whether a text is kept by a reader of lines: no line of it is empty or has white space at its ends,
and it holds no NUL, no carriage return and no byte order mark. -/
def isKeptText (text : List Char) : Bool :=
  (Text.lines text).all isTrimmedLine && text.all fun c => isKept c && c.toNat != 0xFEFF

namespace Node

/-- Whether a node is a paragraph that holds such a text and nothing else. -/
def isTextParagraph : Node → Bool
  | .paragraph [.text value] => isKeptText value.toList
  | _ => false

/-- Whether a long reference stands in the text of a paragraph. -/
def holdsLongReference : Node → Bool
  | .paragraph [.text value] => Reader.holdsLongReference value.toList
  | _ => false

/-- A paragraph with the long references in its text replaced by their characters. -/
def readLongReferences : Node → Node
  | .paragraph [.text value] =>
      .paragraph [.text (String.ofList (Reader.readLongReferences value.toList))]
  | node => node

theorem readLongReferences_eq_self_iff
    {node : Node}
    (isText : node.isTextParagraph = true) :
    node.readLongReferences = node ↔ node.holdsLongReference = false := by
  match node with
  | .paragraph [.text value] =>
      rw [holdsLongReference, ← Reader.readLongReferences_eq_self_iff, readLongReferences]
      simp [← String.toList_inj]

end Node

section Text

variable {value : String}
  (kept : isKeptText value.toList = true)
include kept

theorem isTrimmed_of_isKeptText : ∀ line ∈ Text.lines value.toList, Reader.IsTrimmed line := by
  rw [isKeptText, Bool.and_eq_true, List.all_eq_true] at kept
  exact fun line isLine => isTrimmed_of_isTrimmedLine (kept.1 line isLine)

theorem isKept_of_isKeptText : ∀ c ∈ value.toList, isKept c = true ∧ c.toNat ≠ 0xFEFF := by
  rw [isKeptText, Bool.and_eq_true, List.all_eq_true, List.all_eq_true] at kept
  intro c member
  obtain ⟨isKept, noMark⟩ := Bool.and_eq_true_iff.mp (kept.2 c member)
  exact ⟨isKept, bne_iff_ne.mp noMark⟩

/-- A paragraph of such a text is read as one, with the long references in the text replaced. -/
theorem recovers_of_isKeptText :
    Recovers .plain (.paragraph [.text value]) (Node.paragraph [.text value]).readLongReferences none
      (Text.lines (paragraphText [.text value])) := by
  have trimmed := isTrimmed_of_isKeptText kept
  have characters : ∀ line ∈ Text.lines value.toList, ∀ c ∈ line, isKept c = true :=
    fun line isLine c member =>
      (isKept_of_isKeptText kept c ((Text.isInfix_of_mem_lines isLine).subset member)).1
  have off {extension : Prop} (on : false = true) : extension := absurd on Bool.false_ne_true
  exact recovers_paragraph_text trimmed off (showsAs_paragraph trimmed off off) characters

/-- What such a paragraph writes begins with a character of its text or with a backslash. -/
theorem exists_paragraphText_eq_cons :
    ∃ c rest, paragraphText [.text value] = c :: rest ∧ c.toNat ≠ 0xFEFF := by
  have trimmed := isTrimmed_of_isKeptText kept
  have spelled : ∀ row ∈ Text.lines (paragraphText [.text value]), row ≠ [] ∧
      ∀ c ∈ row.head?, c = '\\' ∨ c ∈ value.toList := by
    intro row isRow
    rw [lines_paragraphText trimmed] at isRow
    obtain ⟨line, isLine, rfl⟩ := List.mem_map.mp isRow
    have spells := spells_paragraphLine (Text.notMem_of_mem_lines isLine)
    refine ⟨spells.ne_nil (trimmed line isLine).some, fun c isFirst => ?_⟩
    exact (spells.first isFirst).imp_right fun isFirst =>
      (Text.isInfix_of_mem_lines isLine).subset (List.mem_of_head? isFirst)
  have filled : paragraphText [.text value] ≠ [] := fun empty =>
    (spelled [] (by rw [empty]; exact .head _)).1 rfl
  obtain ⟨c, rest, begins⟩ := List.exists_cons_of_ne_nil filled
  refine ⟨c, rest, begins, ?_⟩
  obtain ⟨row, isRow, isFirst⟩ := Text.exists_head?_of_lines (fun row isRow => (spelled row isRow).1)
    (show c ∈ (paragraphText [.text value]).head? by rw [begins]; rfl)
  rcases (spelled row isRow).2 c isFirst with rfl | member
  · decide
  · exact (isKept_of_isKeptText kept c member).2

end Text

/-- What is written for some paragraphs of text is read behind others as such paragraphs. -/
theorem continues_of_isTextParagraph
    {nodes : List Node}
    (paragraphs : nodes.all Node.isTextParagraph = true)
    (inItem : Bool)
    (state : SiblingState) :
    Continues .plain inItem state nodes (nodes.map Node.readLongReferences) := by
  induction nodes generalizing state with
  | nil => exact continues_nil inItem state
  | cons node rest inductionHypothesis =>
      obtain ⟨first, others⟩ := Bool.and_eq_true_iff.mp paragraphs
      match node with
      | .paragraph [.text value] =>
          exact continues_cons (isNext_of_recovers (recovers_of_isKeptText first) nofun inItem state)
            (inductionHypothesis others _)

namespace Tree

/-- Paragraphs of text are read from what is written for them with their long references replaced. -/
theorem ofMarkdown_toMarkdown_eq_readLongReferences
    {tree : Tree}
    (paragraphs : tree.children.all Node.isTextParagraph = true) :
    ofMarkdown .plain tree.toMarkdown = ⟨tree.children.map Node.readLongReferences⟩ := by
  obtain ⟨children⟩ := tree
  cases children with
  | nil => rfl
  | cons node rest =>
      obtain ⟨first, others⟩ := Bool.and_eq_true_iff.mp paragraphs
      match node with
      | .paragraph [.text value] =>
          have isNext := isNext_of_recovers (recovers_of_isKeptText first) nofun false .start
          refine ofMarkdown_toMarkdown_of_recoversAll
            (recoversAll_cons isNext (continues_of_isTextParagraph others false _))
            (head?_toMarkdown_ne fun node isFirst => ?_)
          obtain rfl := Option.some.inj isFirst
          exact exists_paragraphText_eq_cons first

/-- Where no extension is on, paragraphs of text come back as they were exactly if no long reference is in
them; otherwise the characters come back for which the long references stand. -/
theorem ofMarkdown_toMarkdown_of_isTextParagraph
    {tree : Tree}
    (paragraphs : tree.children.all Node.isTextParagraph = true) :
    ofMarkdown .plain tree.toMarkdown = ⟨tree.children.map Node.readLongReferences⟩ ∧
      (ofMarkdown .plain tree.toMarkdown = tree ↔
        tree.children.any Node.holdsLongReference = false) := by
  have read := ofMarkdown_toMarkdown_eq_readLongReferences paragraphs
  have each (node : Node) (member : node ∈ tree.children) :=
    Node.readLongReferences_eq_self_iff (List.all_eq_true.mp paragraphs node member)
  have same : (⟨tree.children.map Node.readLongReferences⟩ : Tree) = tree ↔
      tree.children.map Node.readLongReferences = tree.children.map id := by
    rw [List.map_id]
    exact ⟨congrArg Tree.children, congrArg Tree.mk⟩
  refine ⟨read, ?_⟩
  rw [read, same, List.map_inj_left, List.any_eq_false]
  refine forall₂_congr fun node member => ?_
  rw [id, each node member, Bool.not_eq_true]

/-- Lines that would begin blocks of every kind, and text that would be read as marks, as references or as
a definition. -/
theorem ofMarkdown_toMarkdown_of_text_like_markup :
    let tree : Tree :=
      ⟨[.paragraph [.text "# a\n- b\n> c\n12. d\n1) e\n***\n===\n---\n```\n~~~\n<div>\n+"],
        .paragraph [.text "[a]: b\n![c](d) [e][a]\n*f* __g__ `h` <i>j</i>\nk\\\n\\*l  m"],
        .paragraph [.text "&copy; &amp;lt; &#35; &#X22; &x &\nwww.a.b http://c.d\n1234567890. e"]]⟩
    tree.children.all Node.isTextParagraph = true ∧ ofMarkdown .plain tree.toMarkdown = tree :=
  ⟨by decide +kernel,
    (ofMarkdown_toMarkdown_of_isTextParagraph (by decide +kernel)).2.mpr (by decide +kernel)⟩

/-- A text that looks like a reference with seven hexadecimal digits: it is written as it stands and read
back as a letter. -/
theorem ofMarkdown_toMarkdown_of_seven_digits :
    let tree : Tree := ⟨[.paragraph [.text "&#x0000061;"]]⟩
    tree.children.all Node.isTextParagraph = true ∧ tree.toMarkdown = "&#x0000061;\n" ∧
      ofMarkdown .plain tree.toMarkdown = ⟨[.paragraph [.text "a"]]⟩ ∧
        ofMarkdown .plain tree.toMarkdown ≠ tree := by
  have isText : ([.paragraph [.text "&#x0000061;"]] : List Node).all Node.isTextParagraph = true := by
    decide +kernel
  have letter : String.ofList (Reader.readLongReferences "&#x0000061;".toList) = "a" := by
    decide +kernel
  have read := @ofMarkdown_toMarkdown_eq_readLongReferences ⟨_⟩ isText
  rw [List.map_singleton, Node.readLongReferences, letter] at read
  refine ⟨isText, by decide +kernel, read, ?_⟩
  rw [read]
  simp

end Tree

/-! ## Code -/

/-- Whether a node is code that a reader of lines keeps, with no language or with one that is a word
without markup. -/
def Node.isKeptCode : Node → Bool
  | .code lang value => lang.all (isPlainLanguage ·.toList) && value.toList.all isKept
  | _ => false

namespace Tree

/-- Code blocks come back from what is written for them, whatever extensions are on. -/
theorem ofMarkdown_toMarkdown_of_isKeptCode
    (options : Options)
    {tree : Tree}
    (blocks : tree.children.all Node.isKeptCode = true) :
    ofMarkdown options tree.toMarkdown = tree := by
  have each : ∀ node ∈ tree.children, ∃ lang value, node = .code lang value ∧
      node.isKeptCode = true := by
    intro node member
    have isCode := List.all_eq_true.mp blocks node member
    match node with
    | .code lang value => exact ⟨lang, value, rfl, isCode⟩
  refine ofMarkdown_toMarkdown_eq_self (isPlain_of_arePlain
    (Node.arePlain_of_forall fun node member => ?_)
    (Node.nestings_le_of_forall fun node member => ?_) fun node isFirst => ?_)
  · obtain ⟨lang, value, rfl, kept⟩ := each node member
    exact kept
  · obtain ⟨lang, value, rfl, -⟩ := each node member
    exact Nat.zero_le _
  · obtain ⟨lang, value, rfl, -⟩ := each node (List.mem_of_head? isFirst)
    obtain ⟨c, rest, begins, narrow⟩ := beginsNarrow_codeText lang value.toList
    exact ⟨c, rest, begins, by omega⟩

/-- Code with nothing in it, with empty lines at its end, with fences of its own, indented ones among
them, and with a language of signs. -/
theorem ofMarkdown_toMarkdown_of_fences_in_code :
    let tree : Tree :=
      ⟨[.code none "", .code (some "c++") "\n", .code (some "~") "a\n\n\n",
        .code none "   ````\n\t```` \n`````b", .code (some "~~~") "~~~\n    c\n```"]⟩
    tree.children.all Node.isKeptCode = true ∧ ofMarkdown .all tree.toMarkdown = tree :=
  ⟨by decide +kernel, ofMarkdown_toMarkdown_of_isKeptCode .all (by decide +kernel)⟩

end Tree

end Markdown
end TwinEditor
