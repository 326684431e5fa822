import TwinEditor.Proofs.Markdown.InlineNodes
import TwinEditor.Proofs.Markdown.Leaves
import TwinEditor.Proofs.Markdown.WrittenLines

/-!
# Plain documents

A document is plain if its headings, paragraphs and code hold text without marks, and no line of it is
one that a reader would change. Such a block is recovered from the lines that it is written as, wherever
nothing but lists is open.
-/

namespace TwinEditor
namespace Markdown

open Reader (Spells IsTrimmed Block Cursor ListKind IsSolid HoldsMoreThanRule start? listKind)
open Reader.Body (Reads Completes)

/-! ## Plain text -/

/-- Whether a line is not empty and has no white space at its ends. -/
def isTrimmedLine (line : List Char) : Bool :=
  !line.isEmpty && line.head?.all (!Text.isBlank ·) && line.getLast?.all (!Text.isBlank ·)

/-- Whether a character is kept by a reader of lines, for which a carriage return ends a line, and which
replaces NUL. -/
def isKept (c : Char) : Bool :=
  c != '\r' && c.toNat != 0

/-- Whether a line reads as itself: it has no white space at its ends, it holds no long reference, and no
address is made a link. -/
def isPlainLine
    (options : Options)
    (line : List Char) :
    Bool :=
  isTrimmedLine line && line.all isKept && !Reader.holdsLongReference line &&
    (!options.autolink || (Reader.Autolink.find? [] 0 line).isNone)

/-- Whether some lines read as a paragraph with their text: they make no table and begin with no task
marker. -/
def isPlainParagraph
    (options : Options)
    (lines : List (List Char)) :
    Bool :=
  lines.all (isPlainLine options) && (!options.tables || lines.tail.all (!Reader.isDelimiterRow ·)) &&
    (!options.tasklist || lines.head?.all fun line => Reader.Inline.dropTaskMarker line == line)

/-- Whether a word reads as itself behind a fence. -/
def isPlainLanguage (word : List Char) : Bool :=
  !word.isEmpty && word.all fun c =>
    !Text.isBlank c && isKept c && c != '\x60' && c != '&' && c != '\\'

/-- What a plain line is. -/
structure PlainLine
    (options : Options)
    (line : List Char) : Prop where
  isTrimmed : IsTrimmed line
  kept : ∀ c ∈ line, isKept c = true
  noReference : Reader.holdsLongReference line = false
  noAddress : options.autolink = true → Reader.Autolink.find? [] 0 line = none

theorem isTrimmed_of_isTrimmedLine
    {line : List Char}
    (trimmed : isTrimmedLine line = true) :
    IsTrimmed line := by
  simp only [isTrimmedLine, Bool.and_eq_true, Bool.not_eq_true', List.isEmpty_eq_false_iff,
    Option.all_eq_true] at trimmed
  obtain ⟨⟨some, first⟩, last⟩ := trimmed
  exact ⟨some, first, last⟩

theorem plainLine_of_isPlainLine
    {options : Options}
    {line : List Char}
    (plain : isPlainLine options line = true) :
    PlainLine options line := by
  simp only [isPlainLine, Bool.and_eq_true, List.all_eq_true, Bool.or_eq_true, Bool.not_eq_true',
    Option.isNone_iff_eq_none] at plain
  obtain ⟨⟨⟨trimmed, kept⟩, noReference⟩, noAddress⟩ := plain
  exact ⟨isTrimmed_of_isTrimmedLine trimmed, kept, noReference,
    fun on => noAddress.resolve_left (by simp [on])⟩

theorem PlainLine.readLongReferences_eq
    {options : Options}
    {line : List Char}
    (plain : PlainLine options line) :
    Reader.readLongReferences line = line :=
  Reader.readLongReferences_eq_self plain.noReference

/-! ## Quotes and lists inside one another -/

namespace Node

mutual

/-- The most quotes and lists that stand inside one another in a node, itself included. -/
def nesting : Node → Nat
  | .list _ items => nestings items + 1
  | .blockquote children => nestings children + 1
  | .listItem children => nestings children
  | _ => 0

/-- The most quotes and lists that stand inside one another in some nodes. -/
def nestings : List Node → Nat
  | [] => 0
  | node :: rest => max node.nesting (nestings rest)

end

theorem nesting_le_nestings_cons
    (node : Node)
    (rest : List Node) :
    node.nesting ≤ nestings (node :: rest) := by
  rw [nestings]
  exact Nat.le_max_left _ _

theorem nestings_le_of_forall
    {nodes : List Node}
    {bound : Nat}
    (each : ∀ node ∈ nodes, node.nesting ≤ bound) :
    nestings nodes ≤ bound := by
  induction nodes with
  | nil => exact Nat.zero_le bound
  | cons node rest inductionHypothesis =>
      obtain ⟨first, others⟩ := List.forall_mem_cons.mp each
      rw [nestings]
      exact Nat.max_le.mpr ⟨first, inductionHypothesis others⟩

end Node

/-- The most quotes and lists that stand inside one another in a document. -/
def Tree.nesting (tree : Tree) : Nat :=
  Node.nestings tree.children

/-! ## Plain blocks -/

namespace Node

/-- Whether a node is a thematic break. -/
def isRule : Node → Bool
  | .thematicBreak => true
  | _ => false

/-- Whether a node is a paragraph. -/
def isParagraph : Node → Bool
  | .paragraph _ => true
  | _ => false

mutual

/-- Whether a node is a block of plain text, at any depth of quotes and lists. -/
def isPlain (options : Options) : Node → Bool
  | .heading depth [.text value] =>
      1 ≤ depth.toNat && depth.toNat ≤ 6 && !value.toList.contains '\n' &&
        isPlainLine options value.toList
  | .paragraph [.text value] => isPlainParagraph options (Text.lines value.toList)
  | .list ordered items =>
      !items.isEmpty && (!ordered || items.length < 1000000000) && arePlainItems options ordered items
  | .code lang value => lang.all (isPlainLanguage ·.toList) && value.toList.all isKept
  | .blockquote children => !children.isEmpty && arePlain options children
  | .thematicBreak => true
  | _ => false

/-- Whether every one of some nodes is such a block. -/
def arePlain (options : Options) : List Node → Bool
  | [] => true
  | node :: rest => node.isPlain options && arePlain options rest

/-- Whether some nodes are items of plain blocks. A bullet and a thematic break behind it may read as
one longer break. -/
def arePlainItems (options : Options) (ordered : Bool) : List Node → Bool
  | [] => true
  | .listItem children :: rest =>
      !children.isEmpty && (ordered || !children.head?.any isRule) && arePlain options children &&
        arePlainItems options ordered rest
  | _ :: _ => false

end

end Node

/-- Whether a document is made of plain blocks. A byte order mark at its start would be dropped, and the
markers of lists that are nested too deep would be text. -/
def Tree.isPlain (options : Options) (tree : Tree) : Bool :=
  Node.arePlain options tree.children && tree.nesting ≤ Reader.itemContainerLimit &&
    tree.toMarkdown.toList.head?.all (·.toNat != 0xFEFF)

/-! ## Blocks that show as nodes -/

namespace Reader

/-- A context in which documents are read with some options. -/
structure Block.Context.IsFor
    (context : Block.Context)
    (options : Options) : Prop where
  options_eq : context.options = options
  strikethrough_eq : context.setting.strikethrough = options.strikethrough

/-- A block shows in a document as a node, wherever it stands. -/
def Block.ShowsAs
    (options : Options)
    (block : Block)
    (node : Node) : Prop :=
  ∀ (context : Block.Context) (mayBeTask : Bool) (expanded : Nat),
    context.IsFor options →
      block.toNodes context mayBeTask expanded = ([node], expanded)

/-- Some blocks show in a document as some nodes. -/
def ShowAs
    (options : Options)
    (blocks : List Block)
    (nodes : List Node) : Prop :=
  ∀ (context : Block.Context) (mayBeTask : Bool) (expanded : Nat),
    context.IsFor options →
      Block.blockNodes context mayBeTask expanded blocks = (nodes, expanded)

theorem ShowAs.nil (options : Options) : ShowAs options [] [] :=
  fun _ _ _ _ => rfl

theorem ShowAs.cons
    {options : Options}
    {block : Block}
    {blocks : List Block}
    {node : Node}
    {nodes : List Node}
    (first : block.ShowsAs options node)
    (rest : ShowAs options blocks nodes) :
    ShowAs options (block :: blocks) (node :: nodes) := by
  intro context mayBeTask expanded same
  rw [Block.blockNodes, first context mayBeTask expanded same]
  dsimp only
  rw [rest context _ expanded same]
  rfl

/-- Some items show in a list as some nodes. -/
def ItemsShowAs
    (options : Options)
    (items : List (List Block))
    (nodes : List Node) : Prop :=
  ∀ (context : Block.Context) (expanded : Nat),
    context.IsFor options → Block.itemNodes context expanded items = (nodes, expanded)

theorem ItemsShowAs.nil (options : Options) : ItemsShowAs options [] [] :=
  fun _ _ _ => rfl

theorem ItemsShowAs.cons
    {options : Options}
    {item : List Block}
    {items : List (List Block)}
    {children nodes : List Node}
    (first : ShowAs options item children)
    (rest : ItemsShowAs options items nodes) :
    ItemsShowAs options (item :: items) (.listItem children :: nodes) := by
  intro context expanded same
  rw [Block.itemNodes, first context true expanded same]
  dsimp only
  rw [rest context expanded same]

end Reader

/-! ## Blocks that are recovered -/

/-- What the first line of a written block tells those who stand around it: whether it begins a list, and
of which kind, and how many containers it opens at most. -/
structure Opens
    (kind? : Option ListKind)
    (isRule : Bool)
    (containers : Nat)
    (line : List Char) : Prop where
  isSolid : IsSolid line
  holds : isRule = false → HoldsMoreThanRule line
  kind : ∀ cursor : Cursor, cursor.Shows line → ∀ kind width content,
    start? false false cursor = some (.item kind width content) → kind? = some kind
  few : ∀ cursor : Cursor, cursor.Shows line → cursor.OpensAtMost containers

namespace Opens

variable {kind? : Option ListKind} {isRule : Bool} {containers : Nat} {line : List Char}

theorem mono
    (opens : Opens kind? isRule containers line)
    {more : Nat}
    (le : containers ≤ more) :
    Opens kind? isRule more line :=
  ⟨opens.isSolid, opens.holds, opens.kind, fun cursor shows => (opens.few cursor shows).mono le⟩

/-- A line that begins a block without containers inside, or no block. -/
theorem of_content?
    (solid : IsSolid line)
    (holds : isRule = false → HoldsMoreThanRule line)
    (leaf : ∀ cursor : Cursor, cursor.Shows line → ∀ start,
      start? false false cursor = some start → start.content? = none) :
    Opens none isRule 0 line := by
  refine ⟨solid, holds, fun cursor shows kind width content begins => ?_, leaf⟩
  cases leaf cursor shows _ begins

end Opens

/-- The lines of a node are read as a block where nothing is open. The block shows as that node, unless
something in it is replaced. -/
structure Recovers
    (options : Options)
    (node shown : Node)
    (kind? : Option ListKind)
    (lines : List (List Char)) : Prop where
  opens : ∃ line rest, lines = line :: rest ∧ Opens kind? node.isRule node.nesting line
  reads : ∃ block : Block, block.ShowsAs options shown ∧ ∀ closed, ∃ body,
    Reads options.tables ⟨closed, .none⟩ lines body ∧
      Completes options.tables (block :: closed) kind? body ∧
        (node.isParagraph = true → ∃ text refuses, body.inner = .leaf (.paragraph text refuses))
  kept : ∀ line ∈ lines, ∀ c ∈ line, isKept c = true

section Leaves

variable {options : Options}

theorem isKept_of_spells
    {written line : List Char}
    (spells : Spells written line)
    (kept : ∀ c ∈ line, isKept c = true) :
    ∀ c ∈ written, isKept c = true := by
  induction spells with
  | nil => exact kept
  | plain safe rest inductionHypothesis | exclamation rest inductionHypothesis
  | ampersand noReference sameLong rest inductionHypothesis =>
      obtain ⟨first, others⟩ := List.forall_mem_cons.mp kept
      exact List.forall_mem_cons.mpr ⟨first, inductionHypothesis others⟩
  | escaped punctuation noLong rest inductionHypothesis =>
      obtain ⟨first, others⟩ := List.forall_mem_cons.mp kept
      exact List.forall_mem_cons.mpr
        ⟨by decide, List.forall_mem_cons.mpr ⟨first, inductionHypothesis others⟩⟩

theorem isSpaceOrTab_eq_false_of_spells
    {written line : List Char}
    (spells : Spells written line)
    (isTrimmed : IsTrimmed line)
    {c : Char}
    (isFirst : c ∈ written.head?) :
    Text.isSpaceOrTab c = false := by
  rcases spells.first isFirst with rfl | isFirst
  · rfl
  · exact Text.isSpaceOrTab_eq_false (isTrimmed.first c isFirst)

theorem isAsciiSpace_eq_false_of_spells
    {written line : List Char}
    (spells : Spells written line)
    (isTrimmed : IsTrimmed line)
    {c : Char}
    (isLast : c ∈ written.getLast?) :
    Text.isAsciiSpace c = false :=
  Text.isAsciiSpace_eq_false (isTrimmed.last c (spells.getLast?_eq ▸ isLast))

/-! ### Headings -/

theorem showsAs_heading
    {depth : UInt8}
    {content : List Char}
    {value : String}
    (single : '\n' ∉ value.toList)
    (spells : Spells content value.toList)
    (plain : PlainLine options value.toList) :
    (Block.heading depth.toNat content).ShowsAs options (.heading depth [.text value]) := by
  intro context mayBeTask expanded same
  have cut := Text.lines_of_notMem single
  have shown := @Reader.inlineNodes_of_spells context (fun _ => content) value
    (by simpa [cut] using spells) (by simpa [cut] using plain.isTrimmed)
    (fun on => by simpa [cut, plain.readLongReferences_eq] using plain.noAddress (same.options_eq ▸ on))
    false (by simp) content
    (by
      rw [cut, List.map_singleton, Text.unlines_singleton]
      exact Text.trimEnd_eq_self fun c => isAsciiSpace_eq_false_of_spells spells plain.isTrimmed)
    expanded
  rw [plain.readLongReferences_eq, String.ofList_toList] at shown
  rw [Block.toNodes, shown, UInt8.ofNat_toNat]

/-- A heading is recovered from its line if its content is. -/
theorem recovers_heading
    {depth : UInt8}
    (positive : 1 ≤ depth.toNat)
    {children : List Node}
    {content : List Char}
    (single : '\n' ∉ content)
    (written : headingText depth children = List.replicate depth.toNat '#' ++ ' ' :: content)
    (isHeading : Reader.heading? (List.replicate depth.toNat '#' ++ ' ' :: content) =
      some (depth.toNat, content))
    (shown : (Block.heading depth.toNat content).ShowsAs options (.heading depth children))
    (kept : ∀ c ∈ content, isKept c = true) :
    Recovers options (.heading depth children) (.heading depth children) none
      (Text.lines (headingText depth children)) := by
  have whole : Text.lines (headingText depth children) =
      [List.replicate depth.toNat '#' ++ ' ' :: content] := by
    rw [written]
    exact Text.lines_of_notMem (by simp [single])
  have sign : '#' ∈ List.replicate depth.toNat '#' ++ ' ' :: content := by
    simp [Nat.ne_of_gt positive]
  have opens : Opens none false 0 (List.replicate depth.toNat '#' ++ ' ' :: content) := by
    refine .of_content? ?_ (fun _ => ⟨'#', sign, by decide⟩) fun cursor shows start begins => ?_
    · obtain ⟨more, same⟩ := Nat.exists_eq_add_of_le' positive
      rw [same, List.replicate_succ]
      exact ⟨'#', _, rfl, by decide⟩
    · rw [Reader.start?_heading positive isHeading shows] at begins
      cases begins
      rfl
  rw [whole]
  refine ⟨⟨_, _, rfl, opens⟩, ⟨_, shown, fun closed =>
    ⟨_, Reader.Body.reads_heading positive isHeading _ closed,
      Reader.Body.completes_of_closed rfl _ closed, (absurd · Bool.false_ne_true)⟩⟩,
    fun line isLine c member => ?_⟩
  obtain rfl := List.mem_singleton.mp isLine
  rcases List.mem_append.mp member with isSign | member
  · rw [List.eq_of_mem_replicate isSign]
    decide
  · rcases List.mem_cons.mp member with rfl | member
    · decide
    · exact kept c member

theorem recovers_heading_text
    {depth : UInt8}
    (positive : 1 ≤ depth.toNat)
    (bounded : depth.toNat ≤ 6)
    {value : String}
    (single : '\n' ∉ value.toList)
    (plain : PlainLine options value.toList) :
    Recovers options (.heading depth [.text value]) (.heading depth [.text value]) none
      (Text.lines (headingText depth [.text value])) := by
  obtain ⟨content, written, spells, unclosed⟩ :=
    exists_headingText_text positive bounded single plain.isTrimmed
  have isHeading := Reader.heading?_replicate_append positive bounded
    (fun c => isSpaceOrTab_eq_false_of_spells spells plain.isTrimmed)
    (fun c => isAsciiSpace_eq_false_of_spells spells plain.isTrimmed) unclosed
    (spells.ne_nil plain.isTrimmed.some)
  exact recovers_heading positive spells.newline_notMem written isHeading
    (showsAs_heading single spells plain) (isKept_of_spells spells plain.kept)

/-! ### Paragraphs -/

/-- A paragraph is recovered from its lines if its content is. -/
theorem recovers_paragraph
    {children : List Node}
    {first : List Char}
    {others : List (List Char)}
    (cut : Text.lines (paragraphText children) = first :: others)
    (quiet : ∀ line ∈ first :: others, Reader.IsQuiet line)
    (holds : HoldsMoreThanRule first)
    (noDefinition : Reader.definition? ((first :: others).flatMap (· ++ ['\n'])) = none)
    (noRow : options.tables = true → ∀ line ∈ others, Reader.isDelimiterRow line = false)
    {shown : Node}
    (showsAs : (Block.paragraph ((first :: others).flatMap (· ++ ['\n']))).ShowsAs options shown)
    (kept : ∀ line ∈ first :: others, ∀ c ∈ line, isKept c = true) :
    Recovers options (.paragraph children) shown none (Text.lines (paragraphText children)) := by
  have reads := Reader.Body.reads_paragraph quiet noRow
  have single : '\n' ∉ first := Text.notMem_of_mem_lines (cut.symm ▸ List.mem_cons_self)
  obtain ⟨firstQuiet, -⟩ := List.forall_mem_cons.mp quiet
  have opens : Opens none false 0 first := by
    refine .of_content? firstQuiet.isSolid (fun _ => holds) fun cursor shows start begins => ?_
    rw [firstQuiet.start? cursor shows] at begins
    cases begins
  rw [cut]
  obtain ⟨c, rest, rfl, visible⟩ := firstQuiet.isSolid
  have noNewline : c ≠ '\n' := fun same => single (same ▸ List.mem_cons_self)
  exact ⟨⟨_, _, rfl, opens⟩, ⟨_, showsAs, fun closed => ⟨_, reads closed,
    Reader.Body.completes_paragraph noDefinition visible noNewline _ closed false,
    fun _ => ⟨_, _, rfl⟩⟩⟩, kept⟩

section Paragraph

variable {value : String}
  (trimmed : ∀ line ∈ Text.lines value.toList, IsTrimmed line)
include trimmed

/-- The text of a paragraph is read with its long references replaced. -/
theorem showsAs_paragraph
    (noAddress : options.autolink = true → ∀ line ∈ Text.lines value.toList,
      Reader.Autolink.find? [] 0 (Reader.readLongReferences line) = none)
    (noTask : options.tasklist = true → ∀ line ∈ (Text.lines value.toList).head?,
      Reader.Inline.dropTaskMarker (Reader.readLongReferences line) = Reader.readLongReferences line) :
    (Block.paragraph (((Text.lines value.toList).map paragraphLine).flatMap (· ++ ['\n']))).ShowsAs
      options (.paragraph [.text (String.ofList (Reader.readLongReferences value.toList))]) := by
  intro context mayBeTask expanded same
  have spells : ∀ line ∈ Text.lines value.toList, Spells (paragraphLine line) line :=
    fun line isLine => spells_paragraphLine (Text.notMem_of_mem_lines isLine)
  have cut := lines_paragraphText trimmed
  rw [paragraphText_text trimmed] at cut
  have kept : Text.trimEnd Text.isAsciiSpace
      (((Text.lines value.toList).map paragraphLine).flatMap (· ++ ['\n'])) =
        Text.unlines ((Text.lines value.toList).map paragraphLine) := by
    rw [← cut, Text.flatMap_lines, cut, Text.trimEnd_concat_of_pos rfl]
    refine Text.trimEnd_eq_self fun c isLast => ?_
    obtain ⟨written, member, isLast⟩ := Text.exists_getLast?_of_unlines (fun written member => by
      obtain ⟨line, isLine, rfl⟩ := List.mem_map.mp member
      exact (spells line isLine).ne_nil (trimmed line isLine).some) isLast
    obtain ⟨line, isLine, rfl⟩ := List.mem_map.mp member
    exact isAsciiSpace_eq_false_of_spells (spells line isLine) (trimmed line isLine) isLast
  have shown := Reader.inlineNodes_of_spells spells trimmed (same.options_eq ▸ noAddress)
    (fun on : (mayBeTask && context.options.tasklist) = true =>
      noTask (same.options_eq ▸ (Bool.and_eq_true_iff.mp on).2)) kept expanded
  rw [Block.toNodes, shown]

theorem recovers_paragraph_text
    (noRow : options.tables = true →
      ∀ line ∈ (Text.lines value.toList).tail, Reader.isDelimiterRow line = false)
    {shown : Node}
    (showsAs : (Block.paragraph (((Text.lines value.toList).map paragraphLine).flatMap
      (· ++ ['\n']))).ShowsAs options shown)
    (kept : ∀ line ∈ Text.lines value.toList, ∀ c ∈ line, isKept c = true) :
    Recovers options (.paragraph [.text value]) shown none
      (Text.lines (paragraphText [.text value])) := by
  have written := lines_paragraphText trimmed
  have prose : ∀ row ∈ (Text.lines value.toList).map paragraphLine, Reader.IsProse row := by
    intro row member
    obtain ⟨line, isLine, rfl⟩ := List.mem_map.mp member
    exact Escape.isProse_lineStart (Escape.spells_text (Text.notMem_of_mem_lines isLine))
      (trimmed line isLine)
  have rowsKept : ∀ row ∈ (Text.lines value.toList).map paragraphLine, ∀ c ∈ row, isKept c = true := by
    intro row member
    obtain ⟨line, isLine, rfl⟩ := List.mem_map.mp member
    exact isKept_of_spells (spells_paragraphLine (Text.notMem_of_mem_lines isLine)) (kept line isLine)
  obtain ⟨first, others, cut⟩ := List.exists_cons_of_ne_nil (Text.lines_ne_nil value.toList)
  rw [cut, List.tail_cons] at noRow
  rw [cut, List.map_cons] at showsAs written prose rowsKept
  have firstProse := prose _ List.mem_cons_self
  have noDefinition : Reader.definition? ((paragraphLine first ::
      others.map paragraphLine).flatMap (· ++ ['\n'])) = none := by
    obtain ⟨c, rest, begins, -⟩ := firstProse.first
    rw [begins] at firstProse ⊢
    exact Reader.Body.definition?_eq_none (firstProse.first_ne (by decide))
  refine recovers_paragraph written (fun line isLine => (prose line isLine).isQuiet)
    firstProse.holdsMoreThanRule noDefinition (fun on row member => ?_) showsAs rowsKept
  obtain ⟨line, isLine, rfl⟩ := List.mem_map.mp member
  exact Escape.isDelimiterRow_lineStart_text (noRow on line isLine)

end Paragraph

/-! ### Code and rules -/

theorem decodeReferences_eq_self
    {text : List Char}
    (noAmpersand : '&' ∉ text) :
    Reader.decodeReferences text = text := by
  induction text with
  | nil => rfl
  | cons c rest inductionHypothesis =>
      rw [List.mem_cons, not_or] at noAmpersand
      rw [Reader.decodeReferences] at inductionHypothesis ⊢
      rw [Reader.decodeReferencesFrom, if_neg (Ne.symm noAmpersand.1),
        inductionHypothesis noAmpersand.2]

theorem removeEscapes_eq_self
    {text : List Char}
    (noBackslash : '\\' ∉ text) :
    Reader.removeEscapes text = text := by
  induction text with
  | nil => rfl
  | cons c rest inductionHypothesis =>
      rw [List.mem_cons, not_or] at noBackslash
      rw [Reader.removeEscapes, inductionHypothesis noBackslash.2]
      exact fun _ _ same _ => noBackslash.1 same.symm

/-- A plain word behind a fence is the language of the code. -/
theorem languageOf_cleanInfo
    {word : List Char}
    (plain : isPlainLanguage word = true) :
    Block.languageOf (Reader.cleanInfo word) = some (String.ofList word) := by
  simp only [isPlainLanguage, Bool.and_eq_true, Bool.not_eq_true', List.isEmpty_eq_false_iff,
    List.all_eq_true, bne_iff_ne] at plain
  obtain ⟨filled, characters⟩ := plain
  have visible : ∀ c ∈ word, Text.isBlank c = false := fun c member => by
    simpa using (characters c member).1.1.1.1
  have trimmed : Text.trim Text.isAsciiSpace word = word :=
    Text.trim_eq_self
      (fun c isFirst => Text.isAsciiSpace_eq_false (visible c (List.mem_of_head? isFirst)))
      (fun c isLast => Text.isAsciiSpace_eq_false (visible c (List.mem_of_getLast? isLast)))
  have whole : (word.dropWhile Text.isBlank).takeWhile (!Text.isBlank ·) = word := by
    have start := @Text.trimStart_eq_self Text.isBlank word
      fun c isFirst => visible c (List.mem_of_head? isFirst)
    rw [Text.trimStart] at start
    rw [start]
    have shown : ∀ c ∈ word, (!Text.isBlank c) = true := fun c member => by rw [visible c member]; rfl
    rw [← List.append_nil word, List.takeWhile_append_of_pos shown, List.takeWhile_nil]
  have noAmpersand : '&' ∉ word := fun member => (characters _ member).1.2 rfl
  have noBackslash : '\\' ∉ word := fun member => (characters _ member).2 rfl
  rw [Reader.cleanInfo, decodeReferences_eq_self noAmpersand, trimmed,
    removeEscapes_eq_self noBackslash, Block.languageOf, whole, if_neg (by simpa using filled)]

theorem mem_lines_of_mem_codeLines
    {value line : List Char}
    (isLine : line ∈ codeLines value) :
    line ∈ Text.lines value := by
  rw [codeLines] at isLine
  split at isLine
  · cases isLine
  · exact isLine

/-- The fence around some code is longer than every run of backticks on a line of the code. -/
theorem shorter_of_mem_codeLines
    {value line : List Char}
    (isLine : line ∈ codeLines value)
    (length : Nat)
    (isRun : List.replicate length '\x60' <:+: line) :
    length < max (Text.longestRun '\x60' value) 2 + 1 := by
  have inside := isRun.trans (Text.isInfix_of_mem_lines (mem_lines_of_mem_codeLines isLine))
  have bound := Text.le_longestRun inside
  omega

section Code

variable {lang : Option String} {value : String}
  (language : ∀ word ∈ lang, isPlainLanguage word.toList = true)
include language

theorem showsAs_code :
    (Block.code (Reader.cleanInfo (lang.getD "").toList)
      ((codeLines value.toList).flatMap (· ++ ['\n']))).ShowsAs options (.code lang value) := by
  have languageKept : Block.languageOf (Reader.cleanInfo (lang.getD "").toList) = lang := by
    cases lang with
    | none => rfl
    | some word => exact (languageOf_cleanInfo (language word rfl)).trans (by simp)
  have valueKept : Block.dropLineFeed ((codeLines value.toList).flatMap (· ++ ['\n'])) =
      value.toList := by
    rw [codeLines]
    split
    · next empty => exact (List.isEmpty_iff.mp empty).symm
    · rw [Text.flatMap_lines, Block.dropLineFeed, if_pos (by simp), List.dropLast_concat]
  intro context mayBeTask expanded same
  rw [Block.toNodes, languageKept, valueKept, String.ofList_toList]

theorem of_mem_language
    {c : Char}
    (member : c ∈ (lang.getD "").toList) :
    Text.isBlank c = false ∧ isKept c = true ∧ c ≠ '\x60' := by
  cases lang with
  | none => exact absurd member (by simp)
  | some word =>
      have plain := language word rfl
      simp only [isPlainLanguage, Bool.and_eq_true, List.all_eq_true, bne_iff_ne,
        Bool.not_eq_true'] at plain
      obtain ⟨⟨⟨⟨visible, kept⟩, noTick⟩, -⟩, -⟩ := plain.2 c member
      exact ⟨visible, kept, noTick⟩

/-- A code block is recovered from its fences and the lines between. -/
theorem recovers_code
    (valueKept : ∀ c ∈ value.toList, isKept c = true) :
    Recovers options (.code lang value) (.code lang value) none
      (Text.lines (codeText lang value.toList)) := by
  have info := fun c => @of_mem_language lang language c
  have single : '\n' ∉ (lang.getD "").toList := fun member => absurd (info _ member).1 (by decide)
  have noTick : '\x60' ∉ (lang.getD "").toList := fun member => (info _ member).2.2 rfl
  have long : 3 ≤ max (Text.longestRun '\x60' value.toList) 2 + 1 := by omega
  have opens : Opens none false 0 (codeFence value.toList ++ (lang.getD "").toList) := by
    refine .of_content? ⟨'\x60', _, rfl, by decide⟩
      (fun _ => ⟨'\x60', List.mem_append_left _ (.head _), by decide⟩) fun cursor shows start begins => ?_
    rw [Reader.start?_fence long noTick shows] at begins
    cases begins
    rfl
  have fenceKept : ∀ c ∈ codeFence value.toList, isKept c = true := by
    intro c member
    rw [List.eq_of_mem_replicate member]
    decide
  rw [lines_codeText single]
  refine ⟨⟨_, _, rfl, opens⟩, ⟨_, showsAs_code language, fun closed =>
    ⟨_, Reader.Body.reads_code (fun line => shorter_of_mem_codeLines) long noTick _ closed,
      Reader.Body.completes_of_closed rfl _ closed, (absurd · Bool.false_ne_true)⟩⟩, ?_⟩
  refine List.forall_mem_cons.mpr ⟨List.forall_mem_append.mpr ⟨fenceKept, fun c member =>
    (info c member).2.1⟩, List.forall_mem_append.mpr ⟨fun line isLine c member => ?_, ?_⟩⟩
  · exact valueKept c ((Text.isInfix_of_mem_lines (mem_lines_of_mem_codeLines isLine)).subset member)
  · exact List.forall_mem_singleton.mpr fenceKept

end Code

theorem recovers_rule : Recovers options .thematicBreak .thematicBreak none [['*', '*', '*']] := by
  have opens : Opens none true 0 ['*', '*', '*'] := by
    refine .of_content? ⟨'*', _, rfl, by decide⟩ nofun fun cursor shows start begins => ?_
    rw [Reader.start?_rule shows] at begins
    cases begins
    rfl
  refine ⟨⟨_, _, rfl, opens⟩, ⟨.rule, fun _ _ _ _ => rfl, fun closed =>
    ⟨_, Reader.Body.reads_rule _ closed, Reader.Body.completes_of_closed rfl _ closed,
      (absurd · Bool.false_ne_true)⟩⟩,
    fun line isLine c member => ?_⟩
  obtain rfl := List.mem_singleton.mp isLine
  exact List.all_eq_true.mp (show ['*', '*', '*'].all isKept = true from rfl) c member

end Leaves

end Markdown
end TwinEditor
