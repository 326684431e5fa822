import TwinEditor.Proofs.Markdown.PlainTree

/-!
# The structure of blocks comes back

Headings and paragraphs of single words, code, thematic breaks, and quotes and lists of them nested to
any depth: such a document is read back as it was, whatever extensions are on. None of its texts can be
taken for anything else, and what is left is the indentation, the markers and the empty lines.
-/

namespace TwinEditor

/-! ## Words -/

namespace Text

/-- Whether a text is a word of letters. -/
def isWord (text : List Char) : Bool :=
  !text.isEmpty && text.all Char.isAlpha

/-- Whether a text is words of letters with a single space between one and the next. -/
def areWords (text : List Char) : Bool :=
  (splitAt ' ' text).all isWord

theorem toNat_of_isAlpha
    {c : Char}
    (isAlpha : c.isAlpha = true) :
    65 ≤ c.toNat ∧ c.toNat ≤ 90 ∨ 97 ≤ c.toNat ∧ c.toNat ≤ 122 := by
  have bounds {least most : UInt32} (within : least ≤ c.val ∧ c.val ≤ most) :
      least.toNat ≤ c.val.toNat ∧ c.val.toNat ≤ most.toNat := by
    rwa [UInt32.le_iff_toNat_le, UInt32.le_iff_toNat_le] at within
  rcases Bool.or_eq_true_iff.mp isAlpha with isUpper | isLower
  · exact .inl (bounds (of_decide_eq_true isUpper))
  · have ⟨least, most⟩ := Bool.and_eq_true_iff.mp isLower
    exact .inr (bounds ⟨of_decide_eq_true least, of_decide_eq_true most⟩)

theorem isBlank_of_isAlpha
    {c : Char}
    (isAlpha : c.isAlpha = true) :
    isBlank c = false := by
  have range := toNat_of_isAlpha isAlpha
  rw [← Bool.not_eq_true]
  simp only [isBlank, Bool.or_eq_true, Bool.and_eq_true, decide_eq_true_eq, beq_iff_eq]
  omega

theorem ne_of_isAlpha
    {c d : Char}
    (isAlpha : c.isAlpha = true)
    (other : d.isAlpha = false) :
    c ≠ d := by
  rintro rfl
  exact Bool.false_ne_true (other.symm.trans isAlpha)

/-- What text of words is made of. -/
structure Words (text : List Char) : Prop where
  some : text ≠ []
  first : ∀ c ∈ text.head?, c.isAlpha = true
  last : ∀ c ∈ text.getLast?, c.isAlpha = true
  letters : ∀ c ∈ text, c.isAlpha = true ∨ c = ' '

theorem words_of_isWord
    {text : List Char}
    (isWord : isWord text = true) :
    Words text := by
  simp only [Text.isWord, Bool.and_eq_true, Bool.not_eq_true', List.isEmpty_eq_false_iff,
    List.all_eq_true] at isWord
  exact ⟨isWord.1, fun c isFirst => isWord.2 c (List.mem_of_head? isFirst),
    fun c isLast => isWord.2 c (List.mem_of_getLast? isLast), fun c member => .inl (isWord.2 c member)⟩

theorem Words.append
    {word rest : List Char}
    (first : Words word)
    (others : Words rest) :
    Words (word ++ ' ' :: rest) := by
  refine ⟨List.append_ne_nil_of_left_ne_nil first.some _, fun c isFirst => ?_, fun c isLast => ?_,
    List.forall_mem_append.mpr ⟨first.letters, List.forall_mem_cons.mpr ⟨.inr rfl, others.letters⟩⟩⟩
  · obtain ⟨d, more, rfl⟩ := List.exists_cons_of_ne_nil first.some
    exact first.first c isFirst
  · have remains := List.getLast?_eq_some_getLast others.some
    rw [List.getLast?_append, List.getLast?_cons_of_ne_nil others.some, remains, Option.some_or,
      ← remains] at isLast
    exact others.last c isLast

theorem words_intercalate
    {pieces : List (List Char)}
    (some : pieces ≠ [])
    (areWords : pieces.all isWord = true) :
    Words (List.intercalate [' '] pieces) := by
  induction pieces with
  | nil => exact absurd rfl some
  | cons piece rest inductionHypothesis =>
      obtain ⟨first, others⟩ := Bool.and_eq_true_iff.mp areWords
      cases rest with
      | nil => simpa [List.intercalate] using words_of_isWord first
      | cons next more =>
          have rest := inductionHypothesis (List.cons_ne_nil _ _) others
          have cut : List.intercalate [' '] (piece :: next :: more) =
              piece ++ ' ' :: List.intercalate [' '] (next :: more) := by
            simp [List.intercalate, List.intersperse]
          rw [cut]
          exact (words_of_isWord first).append rest

theorem words_of_areWords
    {text : List Char}
    (areWords : areWords text = true) :
    Words text := by
  have words := words_intercalate (splitAt_ne_nil ' ' text) areWords
  rwa [intercalate_splitAt] at words

namespace Words

variable {text : List Char} (words : Words text)
include words

theorem ne_of_mem
    {c d : Char}
    (member : c ∈ text)
    (noLetter : d.isAlpha = false)
    (noSpace : d ≠ ' ') :
    c ≠ d := by
  rcases words.letters c member with isAlpha | rfl
  · exact ne_of_isAlpha isAlpha noLetter
  · exact noSpace.symm

theorem notMem
    {c : Char}
    (noLetter : c.isAlpha = false)
    (noSpace : c ≠ ' ') :
    c ∉ text :=
  fun member => words.ne_of_mem member noLetter noSpace rfl

theorem lines_eq : lines text = [text] :=
  lines_of_notMem (words.notMem (by decide) (by decide))

end Words

end Text

namespace Markdown

open Reader (IsMarker)

variable {options : Options}

namespace Reader

/-- Without a full stop, a colon and an at sign there is no address in a text. -/
theorem Autolink.find?_eq_none
    {text : List Char}
    (noMark : ∀ c ∈ text, c ≠ '.' ∧ c ≠ ':' ∧ c ≠ '@')
    (before : List Char)
    (depth : Int) :
    find? before depth text = none := by
  induction text generalizing before depth with
  | nil => rfl
  | cons c rest inductionHypothesis =>
      obtain ⟨⟨-, noColon, noSign⟩, others⟩ := List.forall_mem_cons.mp noMark
      have noWeb : web? before (c :: rest) = none := by
        have noPrefix : "www.".toList.isPrefixOf (c :: rest) = false := by
          rw [← Bool.not_eq_true, List.isPrefixOf_iff_prefix]
          exact fun isPrefix => (noMark '.' (isPrefix.subset (by decide))).1 rfl
        rw [web?, noPrefix]
        simp
      rw [find?, if_neg noColon, if_neg noSign, noWeb]
      simp only [ite_self]
      exact inductionHypothesis others _ _

theorem Inline.dropTaskMarker_eq_self
    {text : List Char}
    (noSpace : ∀ c ∈ text.head?, Text.isAsciiSpace c = false)
    (noBracket : text.head? ≠ some '[') :
    dropTaskMarker text = text := by
  have whole := Text.trimStart_eq_self noSpace
  rw [Text.trimStart] at whole
  rw [dropTaskMarker, whole]
  split
  · exact absurd rfl noBracket
  · rfl

end Reader

open Text (Words)

section Words

variable {text : List Char} (words : Words text)
include words

theorem isPlainLine_of_words : isPlainLine options text = true := by
  have visible {c : Char} (isAlpha : c.isAlpha = true) := Text.isBlank_of_isAlpha isAlpha
  have trimmed : isTrimmedLine text = true := by
    simp only [isTrimmedLine, Bool.and_eq_true, Bool.not_eq_true', List.isEmpty_eq_false_iff,
      Option.all_eq_true]
    exact ⟨⟨words.some, fun c isFirst => visible (words.first c isFirst)⟩,
      fun c isLast => visible (words.last c isLast)⟩
  have kept : text.all isKept = true := List.all_eq_true.mpr fun c member => by
    rw [isKept, Bool.and_eq_true, bne_iff_ne, bne_iff_ne]
    refine ⟨words.ne_of_mem member (by decide) (by decide), ?_⟩
    rcases words.letters c member with isAlpha | rfl
    · have := Text.toNat_of_isAlpha isAlpha
      omega
    · decide
  have noMark : ∀ c ∈ text, c ≠ '.' ∧ c ≠ ':' ∧ c ≠ '@' := fun c member =>
    ⟨words.ne_of_mem member (by decide) (by decide), words.ne_of_mem member (by decide) (by decide),
      words.ne_of_mem member (by decide) (by decide)⟩
  have noAddress := Reader.Autolink.find?_eq_none noMark [] 0
  have noReference := Reader.holdsLongReference_of_notMem (words.notMem (c := '&') (by decide) (by decide))
  rw [isPlainLine, trimmed, kept, noAddress, noReference]
  simp

theorem isPlainParagraph_of_words : isPlainParagraph options (Text.lines text) = true := by
  have noTask : Reader.Inline.dropTaskMarker text = text := by
    refine Reader.Inline.dropTaskMarker_eq_self
      (fun c isFirst => Text.isAsciiSpace_eq_false (Text.isBlank_of_isAlpha (words.first c isFirst)))
      fun isBracket => ?_
    cases words.first '[' isBracket
  rw [words.lines_eq, isPlainParagraph]
  simp [isPlainLine_of_words words, noTask]

end Words

theorem isPlainLanguage_of_isWord
    {word : List Char}
    (isWord : Text.isWord word = true) :
    isPlainLanguage word = true := by
  simp only [Text.isWord, Bool.and_eq_true, List.all_eq_true] at isWord
  simp only [isPlainLanguage, Bool.and_eq_true, List.all_eq_true, bne_iff_ne, Bool.not_eq_true', isKept]
  refine ⟨by simpa using isWord.1, fun c member => ?_⟩
  have isAlpha := isWord.2 c member
  have range := Text.toNat_of_isAlpha isAlpha
  exact ⟨⟨⟨⟨Text.isBlank_of_isAlpha isAlpha, Text.ne_of_isAlpha isAlpha (by decide), by omega⟩,
    Text.ne_of_isAlpha isAlpha (by decide)⟩, Text.ne_of_isAlpha isAlpha (by decide)⟩,
    Text.ne_of_isAlpha isAlpha (by decide)⟩

/-! ## Documents of words -/

/-- Whether a character of code is neither a tab nor one that a reader of lines changes. -/
def isCodeChar (c : Char) : Bool :=
  c != '\r' && c != '\t' && c.toNat != 0

namespace Node

mutual

/-- Whether a node is a block of words, code or other such blocks. Items begin with a paragraph. -/
def isStructured : Node → Bool
  | .heading depth [.text value] => 1 ≤ depth.toNat && depth.toNat ≤ 6 && Text.areWords value.toList
  | .paragraph [.text value] => Text.areWords value.toList
  | .list _ items => !items.isEmpty && areStructuredItems items
  | .code lang value => lang.all (Text.isWord ·.toList) && value.toList.all isCodeChar
  | .blockquote children => !children.isEmpty && areStructured children
  | .thematicBreak => true
  | _ => false

/-- Whether every one of some nodes is such a block. -/
def areStructured : List Node → Bool
  | [] => true
  | node :: rest => node.isStructured && areStructured rest

/-- Whether some nodes are items of such blocks. -/
def areStructuredItems : List Node → Bool
  | [] => true
  | .listItem children :: rest =>
      children.head?.any isParagraph && areStructured children && areStructuredItems rest
  | _ :: _ => false

end

mutual

/-- Whether the number of every item inside a node has at most nine digits, as a marker has. -/
def isNumberable : Node → Bool
  | .list ordered items => (!ordered || items.length < 1000000000) && areNumberable items
  | .listItem children | .blockquote children => areNumberable children
  | _ => true

/-- Whether this is so in every one of some nodes. -/
def areNumberable : List Node → Bool
  | [] => true
  | node :: rest => node.isNumberable && areNumberable rest

end

mutual

/-- Blocks of words are plain, whatever extensions are on. -/
theorem isPlain_of_isStructured :
    ∀ node : Node, node.isStructured = true → node.isNumberable = true → node.isPlain options = true
  | .heading depth [.text value], structured, _ => by
      rw [isStructured, Bool.and_eq_true] at structured
      have words := Text.words_of_areWords structured.2
      have single : value.toList.contains '\n' = false := by
        simpa using words.notMem (c := '\n') (by decide) (by decide)
      rw [isPlain, structured.1, single, isPlainLine_of_words words]
      rfl
  | .paragraph [.text value], structured, _ =>
      isPlainParagraph_of_words (Text.words_of_areWords structured)
  | .list ordered items, structured, numberable => by
      rw [isStructured, Bool.and_eq_true] at structured
      rw [isNumberable, Bool.and_eq_true] at numberable
      rw [isPlain, structured.1, numberable.1,
        arePlainItems_of_areStructuredItems ordered items structured.2 numberable.2]
      rfl
  | .code lang value, structured, _ => by
      rw [isStructured, Bool.and_eq_true] at structured
      rw [isPlain, Bool.and_eq_true]
      refine ⟨?_, List.all_eq_true.mpr fun c member => ?_⟩
      · cases lang with
        | none => rfl
        | some word => exact isPlainLanguage_of_isWord structured.1
      · have isCode := List.all_eq_true.mp structured.2 c member
        rw [isCodeChar, Bool.and_eq_true, Bool.and_eq_true] at isCode
        exact Bool.and_eq_true_iff.mpr ⟨isCode.1.1, isCode.2⟩
  | .blockquote children, structured, numberable => by
      rw [isStructured, Bool.and_eq_true] at structured
      rw [isPlain, structured.1, arePlain_of_areStructured children structured.2 numberable]
      rfl
  | .thematicBreak, _, _ => rfl

theorem arePlain_of_areStructured :
    ∀ nodes : List Node, areStructured nodes = true → areNumberable nodes = true →
      arePlain options nodes = true
  | [], _, _ => rfl
  | node :: rest, structured, numberable => by
      rw [areStructured, Bool.and_eq_true] at structured
      rw [areNumberable, Bool.and_eq_true] at numberable
      rw [arePlain, isPlain_of_isStructured node structured.1 numberable.1,
        arePlain_of_areStructured rest structured.2 numberable.2]
      rfl

theorem arePlainItems_of_areStructuredItems
    (ordered : Bool) :
    ∀ items : List Node, areStructuredItems items = true → areNumberable items = true →
      arePlainItems options ordered items = true
  | [], _, _ => rfl
  | .listItem children :: rest, structured, numberable => by
      rw [areStructuredItems, Bool.and_eq_true, Bool.and_eq_true] at structured
      rw [areNumberable, isNumberable, Bool.and_eq_true] at numberable
      obtain ⟨⟨paragraph, inside⟩, others⟩ := structured
      rw [arePlainItems, arePlain_of_areStructured children inside numberable.1,
        arePlainItems_of_areStructuredItems ordered rest others numberable.2]
      cases children with
      | nil => cases paragraph
      | cons first more =>
          cases first with
          | paragraph content => simp [isRule]
          | _ => cases paragraph

end

end Node

/-! ## The first character -/

/-- A text begins with a character of one byte, and so with no byte order mark. -/
def BeginsNarrow (text : List Char) : Prop :=
  ∃ c rest, text = c :: rest ∧ c.toNat < 128

theorem BeginsNarrow.append
    {text : List Char}
    (begins : BeginsNarrow text)
    (rest : List Char) :
    BeginsNarrow (text ++ rest) := by
  obtain ⟨c, others, rfl, narrow⟩ := begins
  exact ⟨c, others ++ rest, rfl, narrow⟩

theorem BeginsNarrow.unlines
    {line : List Char}
    (begins : BeginsNarrow line)
    (rest : List (List Char)) :
    BeginsNarrow (Text.unlines (line :: rest)) := by
  cases rest with
  | nil => rwa [Text.unlines_singleton]
  | cons next more =>
      rw [Text.unlines_cons line (List.cons_ne_nil next more)]
      exact begins.append _

theorem beginsNarrow_replicate
    {c : Char}
    (narrow : c.toNat < 128)
    {count : Nat}
    (positive : 0 < count) :
    BeginsNarrow (List.replicate count c) := by
  obtain ⟨more, rfl⟩ := Nat.exists_eq_add_of_le' positive
  exact ⟨c, _, List.replicate_succ, narrow⟩

theorem beginsNarrow_itemMarker
    {ordered : Bool}
    {marker : Char}
    (isMarker : IsMarker ordered marker)
    (number : Nat) :
    BeginsNarrow (itemMarker ordered marker number) := by
  obtain ⟨c, rest, cut, -⟩ := Reader.exists_itemMarker_eq_cons isMarker number
  refine ⟨c, rest, cut, ?_⟩
  rcases Reader.isDigit_or_of_mem_itemMarker isMarker (cut ▸ List.mem_cons_self) with isDigit | isSign
  · have most := (Bool.and_eq_true_iff.mp isDigit).2
    rw [decide_eq_true_eq, UInt32.le_iff_toNat_le] at most
    exact Nat.lt_of_le_of_lt most (by decide)
  · exact of_decide_eq_true (List.all_eq_true.mp
      (show ['.', ')', '-', '*'].all (·.toNat < 128) = true from rfl) c isSign)

theorem BeginsNarrow.itemText
    {marker : List Char}
    (begins : BeginsNarrow marker)
    (body : List Char) :
    BeginsNarrow (itemText marker body) := by
  rw [Markdown.itemText]
  split
  · exact begins
  · split
    · exact begins
    · exact (begins.append _).unlines _

theorem beginsNarrow_quoteText (body : List Char) : BeginsNarrow (quoteText body) := by
  rw [quoteText]
  split
  · exact ⟨'>', [], rfl, by decide⟩
  · obtain ⟨line, rest, cut⟩ := List.exists_cons_of_ne_nil (Text.lines_ne_nil body)
    rw [cut, List.map_cons]
    refine BeginsNarrow.unlines ?_ _
    split
    · exact ⟨'>', _, rfl, by decide⟩
    · exact ⟨'>', _, rfl, by decide⟩

theorem beginsNarrow_headingText
    (depth : UInt8)
    (children : List Node) :
    BeginsNarrow (headingText depth children) := by
  have hashes : BeginsNarrow (List.replicate (max 1 (min depth.toNat 6)) '#') :=
    beginsNarrow_replicate (by decide) (by omega)
  have whole (content : List Char) : BeginsNarrow
      (if content.isEmpty then List.replicate (max 1 (min depth.toNat 6)) '#'
        else List.replicate (max 1 (min depth.toNat 6)) '#' ++ ' ' :: content) := by
    split
    · exact hashes
    · exact hashes.append _
  exact whole _

theorem beginsNarrow_codeText
    (lang : Option String)
    (value : List Char) :
    BeginsNarrow (codeText lang value) := by
  rw [codeText, List.append_assoc]
  exact (beginsNarrow_replicate (by decide) (Nat.succ_pos _)).append _

theorem beginsNarrow_paragraphText
    {value : String}
    (words : Words value.toList) :
    BeginsNarrow (paragraphText [.text value]) := by
  have single := words.lines_eq
  have plain : PlainLine .plain value.toList := plainLine_of_isPlainLine (isPlainLine_of_words words)
  have spells := spells_paragraphLine (words.notMem (c := '
') (by decide) (by decide))
  rw [paragraphText_text (by simpa [single] using plain.isTrimmed), single, List.map_singleton,
    Text.unlines_singleton]
  obtain ⟨c, rest, cut⟩ := List.exists_cons_of_ne_nil (spells.ne_nil words.some)
  refine ⟨c, rest, cut, ?_⟩
  have isFirst : c ∈ (paragraphLine value.toList).head? := by
    rw [cut]
    rfl
  rcases spells.first isFirst with rfl | isFirst
  · decide
  · have := Text.toNat_of_isAlpha (words.first c isFirst)
    omega

/-- What a block of words writes begins with no byte order mark. -/
theorem beginsNarrow_blockText
    {node : Node}
    (structured : node.isStructured = true) :
    BeginsNarrow node.blockText := by
  cases node with
  | heading depth children => exact beginsNarrow_headingText depth children
  | paragraph children =>
      match children with
      | [.text value] => exact beginsNarrow_paragraphText (Text.words_of_areWords structured)
  | list ordered items =>
      obtain ⟨filled, -⟩ := Bool.and_eq_true_iff.mp structured
      cases items with
      | nil => cases filled
      | cons item rest =>
          rw [Node.blockText, Node.itemTexts]
          exact ((beginsNarrow_itemMarker (isMarker_next _ _ _) 1).itemText _).unlines _
  | code lang value => exact beginsNarrow_codeText lang value.toList
  | blockquote children => exact beginsNarrow_quoteText _
  | thematicBreak => exact ⟨'*', _, rfl, by decide⟩
  | _ => cases structured

/-- Where nothing has been written before, a block is written without a gap. -/
theorem Node.exists_siblingTexts_start
    (inItem : Bool)
    (node : Node)
    (rest : List Node) :
    ∃ others, siblingTexts inItem .start (node :: rest) = node.blockText ++ others := by
  have other (noList : ∀ ordered items, node ≠ .list ordered items) :
      ∃ others, siblingTexts inItem .start (node :: rest) = node.blockText ++ others := by
    rw [siblingTexts, if_pos (by simp [SiblingState.start]), List.nil_append]
    · exact ⟨_, rfl⟩
    · exact noList
  cases node with
  | list ordered items =>
      rw [siblingTexts, if_pos (by simp [SiblingState.start]), List.nil_append]
      exact ⟨_, rfl⟩
  | _ =>
      refine other fun ordered items same => ?_
      cases same

namespace Tree

/-- Whether a document is made of blocks of words. -/
def isStructured (tree : Tree) : Bool :=
  Node.areStructured tree.children

/-- Whether the number of every item in a document has at most nine digits. -/
def isNumberable (tree : Tree) : Bool :=
  Node.areNumberable tree.children

/-- A document begins with a byte order mark only if what its first block writes does. -/
theorem head?_toMarkdown_ne
    {tree : Tree}
    (unmarked : ∀ node ∈ tree.children.head?, ∃ c rest, node.blockText = c :: rest ∧ c.toNat ≠ 0xFEFF) :
    tree.toMarkdown.toList.head?.all (·.toNat != 0xFEFF) = true := by
  obtain ⟨children⟩ := tree
  cases children with
  | nil => rfl
  | cons node rest =>
      obtain ⟨c, more, begins, noMark⟩ := unmarked node rfl
      obtain ⟨others, written⟩ := Node.exists_siblingTexts_start false node rest
      rw [toMarkdown, blocksText, written, begins, if_neg (by simp), String.toList_ofList]
      simpa using noMark

/-- Where no byte order mark begins what its first block writes and lists are not nested too deep, a document
of plain blocks is plain. -/
theorem isPlain_of_arePlain
    {tree : Tree}
    (plain : Node.arePlain options tree.children = true)
    (shallow : tree.nesting ≤ Reader.itemContainerLimit)
    (unmarked : ∀ node ∈ tree.children.head?, ∃ c rest, node.blockText = c :: rest ∧ c.toNat ≠ 0xFEFF) :
    tree.isPlain options = true := by
  rw [isPlain, plain, decide_eq_true shallow, head?_toMarkdown_ne unmarked]
  rfl

theorem isPlain_of_isStructured
    {tree : Tree}
    (structured : tree.isStructured = true)
    (numberable : tree.isNumberable = true)
    (shallow : tree.nesting ≤ Reader.itemContainerLimit) :
    tree.isPlain options = true := by
  refine isPlain_of_arePlain
    (Node.arePlain_of_areStructured tree.children structured numberable) shallow fun node isFirst => ?_
  obtain ⟨children⟩ := tree
  obtain ⟨rest, rfl⟩ := List.head?_eq_some_iff.mp isFirst
  obtain ⟨first, -⟩ := Bool.and_eq_true_iff.mp structured
  obtain ⟨c, more, begins, narrow⟩ := beginsNarrow_blockText first
  exact ⟨c, more, begins, by omega⟩

/-- A document of blocks of words comes back from its text, whatever extensions are on and however its
quotes and lists are nested, as long as no more than 99 of them stand inside one another. -/
theorem ofMarkdown_toMarkdown_of_isStructured
    (options : Options)
    {tree : Tree}
    (structured : tree.isStructured = true)
    (numberable : tree.isNumberable = true)
    (shallow : tree.nesting ≤ Reader.itemContainerLimit) :
    ofMarkdown options tree.toMarkdown = tree :=
  ofMarkdown_toMarkdown_eq_self (isPlain_of_isStructured structured numberable shallow)

/-- Ten numbered items, so that the last is indented by one more space, each with a list directly behind
its paragraph and with code that has an empty line in it; then two neighbouring lists, the second of them
in need of another marker, and quotes in quotes. -/
theorem ofMarkdown_toMarkdown_of_nested_lists :
    let tree : Tree :=
      ⟨[.heading 3 [.text "two words"],
        .list true (List.replicate 10 (.listItem [.paragraph [.text "item"],
          .list false [.listItem [.paragraph [.text "www"]]], .code (some "rust") "a\n\n    - b"])),
        .list true [.listItem [.paragraph [.text "x"], .thematicBreak]],
        .blockquote [.blockquote [.paragraph [.text "deep"], .code none "```"], .thematicBreak]]⟩
    tree.isStructured = true ∧ tree.isNumberable = true ∧ tree.nesting ≤ Reader.itemContainerLimit ∧
      ofMarkdown .all tree.toMarkdown = tree :=
  ⟨by decide +kernel, by decide +kernel, by decide +kernel,
    ofMarkdown_toMarkdown_of_isStructured .all (by decide +kernel) (by decide +kernel)
      (by decide +kernel)⟩

end Tree

end Markdown
end TwinEditor
