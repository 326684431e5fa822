import TwinEditor.Markdown.Reader.OpenBlock

/-!
# What the block structure of a document is made of

Headings have a depth from one to six, lists have items, and a table has rows of one width, and only
where tables are read at all. Every line keeps this for the blocks that are finished and for those that
are open.
-/

namespace TwinEditor
namespace Markdown
namespace Reader

/-- What is true of every block that is read. -/
inductive Block.IsSound (tables : Bool) : Block → Prop
  | heading
      {depth : Nat}
      {text : List Char}
      (positive : 1 ≤ depth)
      (bounded : depth ≤ 6) :
      IsSound tables (.heading depth text)
  | paragraph {text : List Char} : IsSound tables (.paragraph text)
  | list
      {ordered : Bool}
      {items : List (List Block)}
      (some : items ≠ [])
      (inside : ∀ item ∈ items, ∀ block ∈ item, IsSound tables block) :
      IsSound tables (.list ordered items)
  | code {info value : List Char} : IsSound tables (.code info value)
  | quote
      {children : List Block}
      (inside : ∀ block ∈ children, IsSound tables block) :
      IsSound tables (.quote children)
  | rule : IsSound tables .rule
  | html {value : List Char} : IsSound tables (.html value)
  | table
      {align : List Alignment}
      {rows : List (List (List Char))}
      (on : tables = true)
      (widths : ∀ row ∈ rows, row.length = align.length) :
      IsSound tables (.table align rows)
  | definitions {found : List Definition} : IsSound tables (.definitions found)

/-- Every one of some blocks is sound. -/
def BlocksAreSound
    (tables : Bool)
    (blocks : List Block) : Prop :=
  ∀ block ∈ blocks, block.IsSound tables

/-- Every block in some items is sound. -/
def ItemsAreSound
    (tables : Bool)
    (items : List (List Block)) : Prop :=
  ∀ item ∈ items, BlocksAreSound tables item

/-- What is true of every open block of text. -/
def OpenLeaf.IsSound
    (tables : Bool) :
    OpenLeaf → Prop
  | .table align rows _ => tables = true ∧ ∀ row ∈ rows, row.length = align.length
  | _ => True

/-- What is true of all open blocks. -/
def OpenBlock.IsSound
    (tables : Bool) :
    OpenBlock → Prop
  | .none => True
  | .leaf block => block.IsSound tables
  | .quote closed inner => BlocksAreSound tables closed ∧ inner.IsSound tables
  | .list _ items => items ≠ [] ∧ ItemsAreSound tables items
  | .item _ items _ closed inner =>
      ItemsAreSound tables items ∧ BlocksAreSound tables closed ∧ inner.IsSound tables

/-- What is true of the blocks of an open document. -/
structure Body.IsSound
    (tables : Bool)
    (body : Body) : Prop where
  closed : BlocksAreSound tables body.closed
  inner : body.inner.IsSound tables

variable {tables : Bool} {closed : List Block}

theorem areSound_nil : BlocksAreSound tables [] :=
  fun _ isBlock => absurd isBlock List.not_mem_nil

theorem itemsAreSound_nil : ItemsAreSound tables [] :=
  fun _ isItem => absurd isItem List.not_mem_nil

theorem BlocksAreSound.append
    {before after : List Block}
    (first : BlocksAreSound tables before)
    (rest : BlocksAreSound tables after) :
    BlocksAreSound tables (before ++ after) :=
  List.forall_mem_append.mpr ⟨first, rest⟩

theorem BlocksAreSound.reverse
    {blocks : List Block}
    (sound : BlocksAreSound tables blocks) :
    BlocksAreSound tables blocks.reverse :=
  fun block isBlock => sound block (List.mem_reverse.mp isBlock)

theorem BlocksAreSound.cons
    {block : Block}
    {blocks : List Block}
    (first : block.IsSound tables)
    (rest : BlocksAreSound tables blocks) :
    BlocksAreSound tables (block :: blocks) :=
  List.forall_mem_cons.mpr ⟨first, rest⟩

/-! ## Blocks that end -/

theorem areSound_definitionsBlock (found : List Definition) :
    BlocksAreSound tables (definitionsBlock found) := by
  rw [definitionsBlock]
  split
  · exact areSound_nil
  · exact BlocksAreSound.cons .definitions areSound_nil

theorem OpenLeaf.IsSound.close
    {block : OpenLeaf}
    (sound : block.IsSound tables) :
    BlocksAreSound tables block.close := by
  cases block with
  | paragraph text refusesTable =>
      rw [OpenLeaf.close]
      refine BlocksAreSound.append (areSound_definitionsBlock _) ?_
      split
      · exact areSound_nil
      · exact BlocksAreSound.cons .paragraph areSound_nil
  | fenced fence length indent info value => exact BlocksAreSound.cons .code areSound_nil
  | indented value => exact BlocksAreSound.cons .code areSound_nil
  | html kind value => exact BlocksAreSound.cons .html areSound_nil
  | table align rows missing =>
      exact BlocksAreSound.cons
        (.table sound.1 fun row isRow => sound.2 row (List.mem_reverse.mp isRow)) areSound_nil

theorem ItemsAreSound.list
    {items : List (List Block)}
    (sound : ItemsAreSound tables items)
    (some : items ≠ [])
    (ordered : Bool) :
    BlocksAreSound tables [.list ordered items.reverse] := by
  refine BlocksAreSound.cons (.list (by simpa using some) fun item isItem => ?_) areSound_nil
  exact sound item (List.mem_reverse.mp isItem)

theorem OpenBlock.IsSound.close
    {block : OpenBlock}
    (sound : block.IsSound tables) :
    BlocksAreSound tables block.close := by
  induction block with
  | none => exact areSound_nil
  | leaf block => exact OpenLeaf.IsSound.close sound
  | quote closed inner inductionHypothesis =>
      exact BlocksAreSound.cons
        (.quote (BlocksAreSound.append (BlocksAreSound.reverse sound.1) (inductionHypothesis sound.2))) areSound_nil
  | list kind items => exact sound.2.list sound.1 _
  | item kind items width closed inner inductionHypothesis =>
      have last := BlocksAreSound.append (BlocksAreSound.reverse sound.2.1) (inductionHypothesis sound.2.2)
      have all : ItemsAreSound tables ((closed.reverse ++ inner.close) :: items) :=
        List.forall_mem_cons.mpr ⟨last, sound.1⟩
      exact all.list (List.cons_ne_nil _ _) _

theorem OpenBlock.IsSound.continueParagraph
    {block : OpenBlock}
    (sound : block.IsSound tables)
    (line : List Char) :
    (block.continueParagraph line).IsSound tables := by
  induction block with
  | none => exact sound
  | leaf block => cases block <;> exact sound
  | quote closed inner inductionHypothesis => exact ⟨sound.1, inductionHypothesis sound.2⟩
  | list kind items => exact sound
  | item kind items width closed inner inductionHypothesis =>
      exact ⟨sound.1, sound.2.1, inductionHypothesis sound.2.2⟩

/-! ## Blocks that begin -/

/-- What is true of the block that a line begins. -/
def Start.IsSound : Start → Prop
  | .heading depth _ => 1 ≤ depth ∧ depth ≤ 6
  | _ => True

theorem depth_of_heading?
    {line text : List Char}
    {depth : Nat}
    (isHeading : heading? line = some (depth, text)) :
    1 ≤ depth ∧ depth ≤ 6 := by
  simp only [heading?] at isHeading
  split at isHeading
  · next bounds =>
      split at isHeading
      · cases isHeading
        exact ⟨bounds.1, bounds.2.1⟩
      · split at isHeading <;> cases isHeading <;> exact ⟨bounds.1, bounds.2.1⟩
  · cases isHeading

theorem isSound_of_start?
    {inParagraph continuesParagraph : Bool}
    {cursor : Cursor}
    {start : Start}
    (begins : start? inParagraph continuesParagraph cursor = some start) :
    start.IsSound := by
  cases start with
  | heading depth text =>
      simp only [start?] at begins
      split at begins
      · split at begins <;> cases begins
      · split at begins
        · cases begins
        · split at begins
          · next isHeading =>
              cases begins
              exact depth_of_heading? isHeading
          · cases begins
          · cases begins
          · split at begins
            · cases begins
            · split at begins <;> cases begins
  | _ => trivial

namespace Body

theorem isSound_ofText
    (sound : BlocksAreSound tables closed)
    (cursor : Cursor) :
    (ofText closed cursor).IsSound tables := by
  rw [ofText]
  split <;> exact ⟨sound, trivial⟩

theorem isSound_ofHtmlLine
    (sound : BlocksAreSound tables closed)
    (kind : HtmlKind)
    (value line : List Char) :
    (ofHtmlLine closed kind value line).IsSound tables := by
  simp only [ofHtmlLine]
  split
  · exact ⟨sound.cons .html, trivial⟩
  · exact ⟨sound, trivial⟩

theorem isSound_begin
    {inside : Cursor → Body}
    (insideSound : ∀ cursor, (inside cursor).IsSound tables)
    (sound : BlocksAreSound tables closed)
    {start : Start}
    (begins : start.IsSound) :
    (begin inside closed start).IsSound tables := by
  cases start with
  | quote content => exact ⟨sound, (insideSound content).closed, (insideSound content).inner⟩
  | item kind width content =>
      exact ⟨sound, itemsAreSound_nil, (insideSound content).closed, (insideSound content).inner⟩
  | heading depth text => exact ⟨sound.cons (.heading begins.1 begins.2), trivial⟩
  | rule => exact ⟨sound.cons .rule, trivial⟩
  | fence fence length indent info => exact ⟨sound, trivial⟩
  | html kind line => exact isSound_ofHtmlLine sound kind [] line
  | indented content => exact ⟨sound, trivial⟩

theorem isSound_ofLineWithin
    (bound opened : Nat)
    (cursor : Cursor) :
    (ofLineWithin bound opened cursor).IsSound tables := by
  induction bound generalizing opened cursor with
  | zero => exact isSound_ofText areSound_nil cursor
  | succ bound inductionHypothesis =>
      rw [ofLineWithin]
      split
      · next begins =>
          exact isSound_begin (inductionHypothesis (opened + 1)) areSound_nil
            (isSound_of_start? (Option.filter_eq_some_iff.mp begins).1)
      · exact isSound_ofText areSound_nil cursor

theorem isSound_ofLine (cursor : Cursor) : (ofLine cursor).IsSound tables :=
  isSound_ofLineWithin _ 1 cursor

/-- A line that begins a block, or else is text. -/
theorem isSound_begin_or_ofText
    (sound : BlocksAreSound tables closed)
    (inParagraph continuesParagraph : Bool)
    (cursor : Cursor) :
    (match start? inParagraph continuesParagraph cursor with
      | some start => begin ofLine closed start
      | none => ofText closed cursor).IsSound tables := by
  split
  · next begins => exact isSound_begin isSound_ofLine sound (isSound_of_start? begins)
  · exact isSound_ofText sound cursor

/-! ## Lines behind others -/

theorem depth_of_underlineDepth?
    {line : List Char}
    {depth : Nat}
    (isUnderline : underlineDepth? line = some depth) :
    1 ≤ depth ∧ depth ≤ 6 := by
  cases line with
  | nil => cases isUnderline
  | cons c rest =>
      rw [underlineDepth?] at isUnderline
      split at isUnderline
      · obtain rfl := Option.some.inj isUnderline
        split <;> decide
      · cases isUnderline

theorem isSound_stepParagraph
    (sound : BlocksAreSound tables closed)
    (text : List Char)
    (refusesTable : Bool)
    (cursor : Cursor) :
    (stepParagraph tables closed text refusesTable cursor).IsSound tables := by
  have ended : BlocksAreSound tables ((OpenLeaf.paragraph text refusesTable).close.reverse ++ closed) :=
    BlocksAreSound.append (BlocksAreSound.reverse (OpenLeaf.IsSound.close trivial)) sound
  have continued (text : List Char) (refusesTable : Bool) :
      (openLeaf closed (.paragraph text refusesTable)).IsSound tables := ⟨sound, trivial⟩
  simp only [stepParagraph]
  split
  · exact ⟨ended, trivial⟩
  split
  · next isUnderline =>
      have defined : BlocksAreSound tables (definitionsBlock (takeDefinitions text).1 ++ closed) :=
        (areSound_definitionsBlock _).append sound
      split
      · exact ⟨defined, trivial⟩
      · split at isUnderline
        · cases isUnderline
        · have bounds := depth_of_underlineDepth? isUnderline
          exact ⟨defined.cons (.heading bounds.1 bounds.2), trivial⟩
  split
  · next begins => exact isSound_begin isSound_ofLine ended (isSound_of_start? begins)
  split
  · next opensTable =>
      simp only [Bool.and_eq_true] at opensTable
      split
      · next header _ _ =>
          split
          · next sameWidth =>
              refine ⟨?_, opensTable.1.1.1, fun row isRow => ?_⟩
              · split
                · exact sound
                · exact sound.cons .paragraph
              · obtain rfl := List.mem_singleton.mp isRow
                rw [List.length_map, sameWidth]
          · exact continued _ _
      · exact continued _ _
  · exact continued _ _

theorem isSound_stepTable
    (sound : BlocksAreSound tables closed)
    {align : List Alignment}
    {rows : List (List (List Char))}
    {missing : Nat}
    (isTable : (OpenLeaf.table align rows missing).IsSound tables)
    (cursor : Cursor) :
    (stepTable closed align rows missing cursor).IsSound tables := by
  have ended := (OpenLeaf.IsSound.close isTable).append sound
  simp only [stepTable]
  split
  · next begins => exact isSound_begin isSound_ofLine ended (isSound_of_start? begins)
  · split
    · split
      · refine ⟨sound, isTable.1, List.forall_mem_cons.mpr ⟨?_, isTable.2⟩⟩
        simp only [List.length_append, List.length_replicate, List.length_take]
        omega
      · exact isSound_ofText ended cursor
    · exact isSound_ofText ended cursor

theorem isSound_stepLeaf
    (sound : BlocksAreSound tables closed)
    {leaf : OpenLeaf}
    (isSound : leaf.IsSound tables)
    (cursor : Cursor) :
    (stepLeaf tables closed leaf cursor).IsSound tables := by
  have ended := BlocksAreSound.append (BlocksAreSound.reverse (OpenLeaf.IsSound.close isSound)) sound
  have afterClosing := isSound_begin_or_ofText ended false false cursor
  cases leaf with
  | paragraph text refusesTable => exact isSound_stepParagraph sound text refusesTable cursor
  | fenced fence length indent info value =>
      simp only [stepLeaf]
      split
      · exact ⟨ended, trivial⟩
      · exact ⟨sound, trivial⟩
  | indented value =>
      simp only [stepLeaf]
      split
      · exact ⟨sound, trivial⟩
      · split
        · exact ⟨sound, trivial⟩
        · exact afterClosing
  | html kind value =>
      simp only [stepLeaf]
      split
      · exact afterClosing
      · exact isSound_ofHtmlLine sound kind value _
  | table align rows missing =>
      simp only [stepLeaf]
      split
      · exact afterClosing
      · exact isSound_stepTable sound isSound cursor

theorem IsSound.close
    {body : Body}
    (sound : body.IsSound tables) :
    BlocksAreSound tables body.close :=
  BlocksAreSound.append (BlocksAreSound.reverse (OpenBlock.IsSound.close sound.inner)) sound.closed

theorem IsSound.stepUnmatched
    {body : Body}
    (sound : body.IsSound tables)
    (cursor : Cursor) :
    (stepUnmatched body cursor).IsSound tables := by
  rw [Body.stepUnmatched]
  split
  · next begins => exact isSound_begin isSound_ofLine sound.close (isSound_of_start? begins)
  · split
    · exact ⟨sound.closed, OpenBlock.IsSound.continueParagraph sound.inner _⟩
    · exact isSound_ofText sound.close cursor

theorem isSound_stepList
    (sound : BlocksAreSound tables closed)
    (kind : ListKind)
    {items : List (List Block)}
    (some : items ≠ [])
    (itemsSound : ItemsAreSound tables items)
    {unfinished : OpenBlock}
    (isSound : unfinished.IsSound tables)
    (cursor : Cursor) :
    (stepList closed kind items unfinished cursor).IsSound tables := by
  have unmatched : (stepUnmatched ⟨closed, unfinished⟩ cursor).IsSound tables :=
    IsSound.stepUnmatched ⟨sound, isSound⟩ cursor
  rw [stepList]
  split
  · split
    · exact ⟨sound, itemsSound, (isSound_ofLine _).closed, (isSound_ofLine _).inner⟩
    · exact unmatched
  · split
    · exact ⟨sound, some, itemsSound⟩
    · exact unmatched

end Body

/-- A line keeps the blocks of an open document sound. -/
theorem OpenBlock.IsSound.step
    {inner : OpenBlock}
    (isSound : inner.IsSound tables)
    {closed : List Block}
    (sound : BlocksAreSound tables closed)
    (cursor : Cursor) :
    (inner.step tables closed cursor).IsSound tables := by
  induction inner generalizing closed cursor with
  | none => exact Body.isSound_begin_or_ofText sound false false cursor
  | leaf block => exact Body.isSound_stepLeaf sound isSound cursor
  | quote quoted block inductionHypothesis =>
      rw [OpenBlock.step]
      split
      · next content _ =>
          have body := inductionHypothesis isSound.2 isSound.1 content
          exact ⟨sound, body.closed, body.inner⟩
      · have body : Body.IsSound tables ⟨closed, .quote quoted block⟩ := ⟨sound, isSound⟩
        exact body.stepUnmatched cursor
  | list kind items => exact Body.isSound_stepList sound kind isSound.1 isSound.2 isSound cursor
  | item kind items width itemClosed block inductionHypothesis =>
      rw [OpenBlock.step]
      split
      · next content _ =>
          have body := inductionHypothesis isSound.2.2 isSound.2.1 content
          exact ⟨sound, isSound.1, body.closed, body.inner⟩
      · have last := (BlocksAreSound.reverse isSound.2.1).append (OpenBlock.IsSound.close isSound.2.2)
        exact Body.isSound_stepList sound kind (List.cons_ne_nil _ _)
          (List.forall_mem_cons.mpr ⟨last, isSound.1⟩) isSound cursor

/-- Every block of a document is sound. -/
theorem areSound_readBlocks
    (tables : Bool)
    (source : List Char) :
    BlocksAreSound tables (readBlocks tables source) := by
  have follow (lines : List (List Char)) : ∀ body : Body, body.IsSound tables →
      (lines.foldl (fun (body : Body) line => body.inner.step tables body.closed (.ofLine line))
        body).IsSound tables := by
    induction lines with
    | nil => exact fun body sound => sound
    | cons line rest inductionHypothesis =>
        exact fun body sound => inductionHypothesis _ (sound.inner.step sound.closed _)
  exact (follow _ .empty ⟨areSound_nil, trivial⟩).close.reverse

end Reader
end Markdown
end TwinEditor
