import TwinEditor.Proofs.Markdown.PlainNode

/-!
# Reading back plain documents

A plain document comes back from its text. Quotes and items recover what is shown for what stands inside
them, and neighbouring blocks do not run into each other: an empty line is between them, a list behind a
list of its kind has another marker, and a list directly behind a paragraph ends it. No line opens more
containers than stand inside one another in the document, which must not be too many.
-/

namespace TwinEditor
namespace Markdown

open Reader (Block Body Cursor ListKind IsSolid HoldsMoreThanRule IsMarker Start start? listKind
  quoteLine ShowAs ItemsShowAs)
open Reader.Body (Reads Completes indentedLine)

variable {options : Options}

theorem ne_nil_of_lines_eq
    {text line : List Char}
    {rest : List (List Char)}
    (cut : Text.lines text = line :: rest)
    (solid : IsSolid line) :
    text ≠ [] := by
  rintro rfl
  exact solid.ne_nil (List.cons.inj cut).1.symm

/-! ## Quotes -/

/-- The lines of some nodes are read in a container without content as blocks that show as nodes. -/
structure RecoversAll
    (options : Options)
    (nodes shown : List Node)
    (lines : List (List Char)) : Prop where
  opens : ∃ line rest kind?, lines = line :: rest ∧
    Opens kind? (nodes.head?.any Node.isRule) (Node.nestings nodes) line
  reads : ∃ blocks kind? body, ShowAs options blocks shown ∧ Reads options.tables .empty lines body ∧
    Completes options.tables blocks.reverse kind? body
  kept : ∀ line ∈ lines, ∀ c ∈ line, isKept c = true

theorem opens_quoteLine
    {line : List Char}
    {containers : Nat}
    (few : ∀ cursor : Cursor, cursor.Shows line → cursor.OpensAtMost containers) :
    Opens none false (containers + 1) (quoteLine line) := by
  refine ⟨Reader.isSolid_quoteLine line, fun _ => ?_, fun cursor shows kind width content begins => ?_,
    fun cursor shows start begins content isContent => ?_⟩
  · exact ⟨'>', List.mem_of_head? (Reader.head?_quoteLine line), by decide⟩
  · rw [Reader.start?_quoteLine shows] at begins
    cases begins
  · rw [Reader.start?_quoteLine shows] at begins
    cases begins
    cases isContent
    exact few _ (Reader.shows_skipOneBlank shows)

theorem isKept_of_mem_quoteLine
    {line : List Char}
    (kept : ∀ c ∈ line, isKept c = true)
    {c : Char}
    (member : c ∈ quoteLine line) :
    isKept c = true := by
  rw [quoteLine] at member
  split at member
  · obtain rfl := List.mem_singleton.mp member
    decide
  · simp only [List.mem_cons] at member
    rcases member with rfl | rfl | member
    · decide
    · decide
    · exact kept c member

/-- A quote is recovered if its content is. -/
theorem RecoversAll.quote
    {children shown : List Node}
    {text : List Char}
    (recovers : RecoversAll options children shown (Text.lines text))
    (shallow : Node.nestings children < Reader.itemContainerLimit) :
    Recovers options (.blockquote children) (.blockquote shown) none (Text.lines (quoteText text)) := by
  obtain ⟨line, rest, _, cut, opens⟩ := recovers.opens
  obtain ⟨blocks, kind?, body, showAs, reads, completes⟩ := recovers.reads
  have kept := recovers.kept
  rw [lines_quoteText (ne_nil_of_lines_eq cut opens.isSolid)]
  rw [cut] at reads kept ⊢
  have showsAs : (Block.quote blocks).ShowsAs options (.blockquote shown) := by
    intro context mayBeTask expanded same
    rw [Block.toNodes, showAs context false expanded same]
  refine ⟨⟨_, _, rfl, opens_quoteLine opens.few⟩, ⟨_, showsAs, fun closed =>
    ⟨⟨closed, .quote body.closed body.inner⟩, ?_, ?_, (absurd · Bool.false_ne_true)⟩⟩,
    fun written isLine c member => ?_⟩
  · cases reads with
    | cons after step child later =>
        refine .cons _ (fun cursor shows => ?_)
          (fun isEmpty => absurd isEmpty (Reader.isSolid_quoteLine line).ne_nil) (later.quote closed)
        have inside := Reader.shows_skipOneBlank shows
        rw [Body.next_of_start? (Reader.start?_quoteLine shows false false), Body.begin,
          Body.ofLine_eq_next options.tables (opens.few _ inside) shallow, step _ inside]
  · have complete := completes.quote closed
    rwa [List.reverse_reverse] at complete
  · obtain ⟨inner, isInner, rfl⟩ := List.mem_map.mp isLine
    exact isKept_of_mem_quoteLine (kept inner isInner) member

/-! ## Items -/

theorem isOrdered_listKind
    (ordered : Bool)
    (marker : Char) :
    (listKind ordered marker).isOrdered = ordered := by
  cases ordered <;> rfl

/-- A line that begins an item of a kind begins one of a list with some items already. -/
def AwaitsItem
    (tables : Bool)
    (kind : ListKind)
    (closed : List Block)
    (done : List (List Block))
    (before : Body) : Prop :=
  ∀ (cursor content : Cursor) (line : List Char) (width : Nat),
    IsSolid line → cursor.Shows line →
    (∀ continues, start? false continues cursor = some (.item kind width content)) →
      before.next tables cursor =
        ⟨closed, .item kind done width (Body.ofLine content).closed (Body.ofLine content).inner⟩

theorem awaitsItem_none
    (tables : Bool)
    (kind : ListKind)
    (closed : List Block) :
    AwaitsItem tables kind closed [] ⟨closed, .none⟩ := by
  intro cursor content line width solid shows begins
  rw [Body.next_of_start? (begins false), Body.begin]

theorem awaitsItem_item
    (tables : Bool)
    (kind : ListKind)
    (closed : List Block)
    (done : List (List Block))
    {width : Nat}
    (wide : 0 < width)
    (inside : Body) :
    AwaitsItem tables kind closed (inside.close.reverse :: done)
      ⟨closed, .item kind done width inside.closed inside.inner⟩ := by
  intro cursor content line nextWidth solid shows begins
  have outside : Reader.itemLine? width (Reader.OpenBlock.hasChild inside.closed inside.inner) cursor =
      none := by
    rw [Reader.itemLine?, Cursor.indent_of_isSolid solid shows, Cursor.isBlank_of_isSolid solid shows,
      if_neg (Nat.not_le.mpr wide)]
    rfl
  rw [Body.next, Reader.OpenBlock.step, outside]
  dsimp only
  rw [Body.stepList, begins]
  dsimp only
  rw [if_pos rfl, Body.close, List.reverse_append, List.reverse_reverse]

/-- The lines of some items of a list, the first of which has a number, are read as blocks that show as
those items. -/
structure RecoversItems
    (options : Options)
    (ordered : Bool)
    (marker : Char)
    (number : Nat)
    (items : List Node) : Prop where
  opens : items ≠ [] → ∃ line others, IsSolid line ∧ (ordered = true ∨ HoldsMoreThanRule line) ∧
    (∀ cursor : Cursor, cursor.Shows line → cursor.OpensAtMost (Node.nestings items)) ∧
      (Node.itemTexts ordered marker number items).flatMap Text.lines =
        (itemMarker ordered marker number ++ ' ' :: line) :: others
  reads : ∃ blocks, ItemsShowAs options blocks items ∧ ∀ closed done before,
    AwaitsItem options.tables (listKind ordered marker) closed done before →
    (items = [] → Completes options.tables (.list ordered done.reverse :: closed)
      (some (listKind ordered marker)) before) →
      ∃ last, Reads options.tables before
          ((Node.itemTexts ordered marker number items).flatMap Text.lines) last ∧
        Completes options.tables (.list ordered (done.reverse ++ blocks) :: closed)
          (some (listKind ordered marker)) last
  kept : ∀ line ∈ (Node.itemTexts ordered marker number items).flatMap Text.lines,
    ∀ c ∈ line, isKept c = true

theorem recoversItems_nil
    (ordered : Bool)
    (marker : Char)
    (number : Nat) :
    RecoversItems options ordered marker number [] := by
  refine ⟨absurd rfl, ⟨[], .nil options, fun closed done before _ completes => ⟨before, .nil before, ?_⟩⟩,
    nofun⟩
  rw [List.append_nil]
  exact completes rfl

section Items

variable {ordered : Bool} {marker : Char} {number : Nat} {children : List Node} {text : List Char}
  (isMarker : IsMarker ordered marker)
include isMarker

theorem isSolid_itemMarker_append
    (number : Nat)
    (rest : List Char) :
    IsSolid (itemMarker ordered marker number ++ rest) := by
  obtain ⟨c, others, cut, visible, -⟩ := Reader.exists_itemMarker_eq_cons isMarker number
  rw [cut]
  exact ⟨c, others ++ rest, rfl, visible⟩

theorem newline_notMem_itemMarker (number : Nat) : '\n' ∉ itemMarker ordered marker number :=
  fun member => absurd (Reader.isDigit_or_of_mem_itemMarker isMarker member) (by decide)

theorem isKept_of_mem_itemMarker
    {c : Char}
    (member : c ∈ itemMarker ordered marker number) :
    isKept c = true := by
  rcases Reader.isDigit_or_of_mem_itemMarker isMarker member with isDigit | isSign
  · rw [isKept, Bool.and_eq_true, bne_iff_ne, bne_iff_ne]
    constructor
    · rintro rfl
      cases isDigit
    · intro isNul
      have least := (Bool.and_eq_true_iff.mp isDigit).1
      rw [decide_eq_true_eq, ge_iff_le, UInt32.le_iff_toNat_le, show c.val.toNat = 0 from isNul] at least
      exact absurd least (by decide)
  · exact List.all_eq_true.mp (show ['.', ')', '-', '*'].all isKept = true from rfl) c isSign

theorem kept_itemText
    (recovers : RecoversAll options children children (Text.lines text)) :
    ∀ line ∈ Text.lines (itemText (itemMarker ordered marker number) text),
      ∀ c ∈ line, isKept c = true := by
  obtain ⟨line, rest, _, cut, opens⟩ := recovers.opens
  have kept := recovers.kept
  rw [lines_itemText (newline_notMem_itemMarker isMarker number) (ne_nil_of_lines_eq cut opens.isSolid) cut]
  rw [cut] at kept
  obtain ⟨firstKept, othersKept⟩ := List.forall_mem_cons.mp kept
  refine List.forall_mem_cons.mpr ⟨fun c member => ?_, fun written isLine c member => ?_⟩
  · rcases List.mem_append.mp member with member | member
    · exact isKept_of_mem_itemMarker isMarker member
    · rcases List.mem_cons.mp member with rfl | member
      · decide
      · exact firstKept c member
  · obtain ⟨inner, isInner, rfl⟩ := List.mem_map.mp isLine
    rw [indentedLine] at member
    split at member
    · cases member
    · rcases List.mem_append.mp member with member | member
      · rw [List.eq_of_mem_replicate member]
        decide
      · exact othersKept inner isInner c member

/-- The lines of an item are read in it as they are read in an empty container. -/
theorem RecoversAll.reads_itemText
    (recovers : RecoversAll options children children (Text.lines text))
    (small : ordered = true → number < 1000000000)
    (holds : ordered = true ∨ children.head?.any Node.isRule = false)
    (shallow : Node.nestings children < Reader.itemContainerLimit) :
    ∃ blocks kind? body, ShowAs options blocks children ∧
      Completes options.tables blocks.reverse kind? body ∧
      ∀ closed done before,
        AwaitsItem options.tables (listKind ordered marker) closed done before →
          Reads options.tables before (Text.lines (itemText (itemMarker ordered marker number) text))
            ⟨closed, .item (listKind ordered marker) done
              ((itemMarker ordered marker number).length + 1) body.closed body.inner⟩ := by
  obtain ⟨line, rest, _, cut, opens⟩ := recovers.opens
  obtain ⟨blocks, kind?, body, shown, reads, completes⟩ := recovers.reads
  refine ⟨blocks, kind?, body, shown, completes, fun closed done before awaits => ?_⟩
  rw [lines_itemText (newline_notMem_itemMarker isMarker number) (ne_nil_of_lines_eq cut opens.isSolid) cut]
  rw [cut] at reads
  cases reads with
  | cons after step child later =>
      have solid := isSolid_itemMarker_append isMarker number (' ' :: line)
      refine .cons _ (fun cursor shows => ?_) (fun isEmpty => absurd isEmpty solid.ne_nil)
        (later.item closed _ done (Nat.succ_pos _))
      obtain ⟨content, showsContent, begins⟩ :=
        Reader.start?_item isMarker small opens.isSolid (holds.imp id opens.holds) shows
      rw [awaits cursor content _ _ solid shows fun continues => begins false continues nofun,
        Body.ofLine_eq_next options.tables (opens.few content showsContent) shallow,
        step content showsContent]

/-- The items of a list are recovered if the first of them and those behind it are. -/
theorem RecoversItems.cons
    {items : List Node}
    (small : ordered = true → number < 1000000000)
    (holds : ordered = true ∨ children.head?.any Node.isRule = false)
    (shallow : Node.nestings children < Reader.itemContainerLimit)
    (first : RecoversAll options children children (Text.lines (Node.siblingTexts true .start children)))
    (rest : RecoversItems options ordered marker (number + 1) items) :
    RecoversItems options ordered marker number (.listItem children :: items) := by
  obtain ⟨blocks, kind?, body, shown, completes, reads⟩ :=
    first.reads_itemText isMarker small holds shallow
  obtain ⟨others, othersShown, continues⟩ := rest.reads
  refine ⟨fun _ => ?_, ⟨blocks :: others, .cons shown othersShown,
    fun closed done before awaits _ => ?_⟩, ?_⟩
  · obtain ⟨line, more, _, cut, opens⟩ := first.opens
    rw [Node.itemTexts, Node.blockText, List.flatMap_cons,
      lines_itemText (newline_notMem_itemMarker isMarker number) (ne_nil_of_lines_eq cut opens.isSolid) cut]
    have few := fun cursor shows => (opens.few cursor shows).mono
      (Node.nesting_le_nestings_cons (.listItem children) items)
    exact ⟨line, _, opens.isSolid, holds.imp id opens.holds, few, rfl⟩
  · have wide : 0 < (itemMarker ordered marker number).length + 1 := Nat.succ_pos _
    have complete := completes.item closed (listKind ordered marker) done wide
    have awaits' := awaitsItem_item options.tables (listKind ordered marker) closed done wide body
    rw [completes.close_eq, List.reverse_reverse] at awaits'
    rw [isOrdered_listKind, List.reverse_reverse] at complete
    obtain ⟨last, later, lastCompletes⟩ := continues closed (blocks :: done) _ awaits' fun _ => complete
    refine ⟨last, ?_, ?_⟩
    · rw [Node.itemTexts, Node.blockText, List.flatMap_cons]
      exact (reads closed done before awaits).append later
    · rw [List.reverse_cons, List.append_assoc] at lastCompletes
      exact lastCompletes
  · rw [Node.itemTexts, Node.blockText, List.flatMap_cons]
    exact List.forall_mem_append.mpr ⟨kept_itemText isMarker first, rest.kept⟩

end Items

/-! ## Lists -/

/-- The first line ends a paragraph above it and begins there what it begins where nothing is open. -/
def Interrupts (lines : List (List Char)) : Prop :=
  ∀ line ∈ lines.head?, Reader.underlineDepth? line = none ∧ ∀ cursor : Cursor, cursor.Shows line →
    ∃ start, start? true true cursor = some start ∧ start? false false cursor = some start

section Lists

variable {ordered : Bool} {marker : Char} {items : List Node}
  (isMarker : IsMarker ordered marker)
  (some : items ≠ [])
  (recovers : RecoversItems options ordered marker 1 items)

include some in
theorem lines_unlines_itemTexts
    (ordered : Bool)
    (marker : Char) :
    Text.lines (Text.unlines (Node.itemTexts ordered marker 1 items)) =
      (Node.itemTexts ordered marker 1 items).flatMap Text.lines := by
  refine Text.lines_unlines_eq_flatMap ?_
  obtain ⟨item, rest, rfl⟩ := List.exists_cons_of_ne_nil some
  rw [Node.itemTexts]
  exact List.cons_ne_nil _ _

include isMarker some recovers

theorem interrupts_list :
    Interrupts (Text.lines (Text.unlines (Node.itemTexts ordered marker 1 items))) := by
  obtain ⟨line, others, solid, more, -, cut⟩ := recovers.opens some
  rw [lines_unlines_itemTexts some, cut]
  intro written isFirst
  obtain rfl := Option.some.inj isFirst
  refine ⟨Reader.underlineDepth?_itemMarker isMarker 1 solid, fun cursor shows => ?_⟩
  obtain ⟨content, -, begins⟩ := Reader.start?_item isMarker (fun _ => by decide) solid more shows
  exact ⟨_, begins true true fun _ => rfl, begins false false nofun⟩

/-- A list is recovered if its items are. -/
theorem recovers_list :
    Recovers options (.list ordered items) (.list ordered items) (.some (listKind ordered marker))
      (Text.lines (Text.unlines (Node.itemTexts ordered marker 1 items))) := by
  obtain ⟨line, others, solid, more, few, cut⟩ := recovers.opens some
  have item {cursor : Cursor} (shows : cursor.Shows (itemMarker ordered marker 1 ++ ' ' :: line)) :
      ∃ content width, content.Shows line ∧
        start? false false cursor = .some (.item (listKind ordered marker) width content) := by
    obtain ⟨content, shows, begins⟩ :=
      Reader.start?_item isMarker (fun _ => by decide) solid more shows
    exact ⟨content, _, shows, begins false false nofun⟩
  have opens : Opens (.some (listKind ordered marker)) false (Node.nestings items + 1)
      (itemMarker ordered marker 1 ++ ' ' :: line) := by
    refine ⟨isSolid_itemMarker_append isMarker 1 _,
      fun _ => Reader.holdsMoreThanRule_itemMarker isMarker 1 more,
      fun cursor shows kind width content begins => ?_,
      fun cursor shows start begins content isContent => ?_⟩
    · obtain ⟨_, _, -, isItem⟩ := item shows
      rw [isItem] at begins
      cases begins
      rfl
    · obtain ⟨_, _, inside, isItem⟩ := item shows
      rw [isItem] at begins
      cases begins
      cases isContent
      exact few content inside
  obtain ⟨blocks, shown, reads⟩ := recovers.reads
  rw [lines_unlines_itemTexts some]
  refine ⟨⟨_, _, cut, opens⟩, ⟨.list ordered blocks, ?_, fun closed => ?_⟩, recovers.kept⟩
  · intro context mayBeTask expanded same
    rw [Block.toNodes, shown context expanded same]
  · obtain ⟨last, reads, completes⟩ := reads closed [] _ (awaitsItem_none _ _ closed) (absurd · some)
    exact ⟨last, reads, completes, (absurd · Bool.false_ne_true)⟩

end Lists

/-! ## Siblings -/

/-- The kind of the preceding sibling if that is a list. -/
def SiblingState.kind? (state : SiblingState) : Option ListKind :=
  match state.previous with
  | some (.list ordered _) =>
      (if ordered then state.markers.delimiter else state.markers.bullet).map (listKind ordered)
  | _ => none

theorem SiblingState.followsParagraph_eq
    {state : SiblingState}
    {node : Node}
    (previous : state.previous = some node) :
    state.followsParagraph = node.isParagraph := by
  rw [followsParagraph, previous]
  cases node <;> rfl

theorem isMarker_next
    (markers : ListMarkers)
    (ordered followsSameKind : Bool) :
    IsMarker ordered (markers.next ordered followsSameKind) := by
  rw [ListMarkers.next]
  cases ordered with
  | false =>
      rw [if_neg Bool.false_ne_true]
      split
      · exact .inr rfl
      · exact .inl rfl
  | true =>
      rw [if_pos rfl]
      split
      · exact .inr rfl
      · exact .inl rfl

theorem listKind_inj
    {first second : Bool}
    {marker other : Char}
    (same : listKind first marker = listKind second other) :
    first = second ∧ marker = other := by
  cases first with
  | false =>
      cases second with
      | false => exact ⟨rfl, ListKind.bullet.inj same⟩
      | true => cases same
  | true =>
      cases second with
      | false => cases same
      | true => exact ⟨rfl, ListKind.ordered.inj same⟩

/-- A list is not of the kind of the list just before it. -/
theorem SiblingState.kind?_ne_next
    (state : SiblingState)
    (ordered : Bool) :
    state.kind? ≠ some (listKind ordered (state.markers.next ordered (state.followsList ordered))) := by
  intro same
  rw [kind?] at same
  split at same
  · next before items isList =>
      obtain ⟨marker, recorded, isKind⟩ := Option.map_eq_some_iff.mp same
      obtain ⟨rfl, isMarker⟩ := listKind_inj isKind
      have follows : state.followsList before = true := by
        rw [followsList, isList]
        exact beq_self_eq_true before
      rw [follows, ListMarkers.next] at isMarker
      cases before with
      | false =>
          rw [if_neg Bool.false_ne_true] at recorded isMarker
          rw [recorded] at isMarker
          split at isMarker
          · next hyphen => simp [isMarker] at hyphen
          · next other => exact other ⟨rfl, congrArg some isMarker⟩
      | true =>
          rw [if_pos rfl] at recorded isMarker
          rw [recorded] at isMarker
          split at isMarker
          · next dot => simp [isMarker] at dot
          · next other => exact other ⟨rfl, congrArg some isMarker⟩
  · cases same

/-- The next of some siblings: what it writes, which is recovered where nothing is open, and what is
remembered of it. -/
structure IsNext
    (options : Options)
    (inItem : Bool)
    (state : SiblingState)
    (node shown : Node)
    (text : List Char)
    (after : SiblingState) : Prop where
  recovers : Recovers options node shown after.kind? (Text.lines text)
  previous : after.previous = some node
  started : after.started = true
  different : ∀ kind, after.kind? = some kind → state.kind? ≠ some kind
  writes : ∃ gap, (∀ rest, Node.siblingTexts inItem state (node :: rest) =
      gap ++ text ++ Node.siblingTexts inItem after rest) ∧
    (state.started = false → gap = []) ∧
    (state.started = true → gap = ['\n', '\n'] ∨
      gap = ['\n'] ∧ state.followsParagraph = true ∧ Interrupts (Text.lines text))

theorem isNext_of_recovers
    {node shown : Node}
    (recovers : Recovers options node shown none (Text.lines node.blockText))
    (noList : ∀ ordered items, node ≠ .list ordered items)
    (inItem : Bool)
    (state : SiblingState) :
    IsNext options inItem state node shown node.blockText ⟨state.markers, some node, true⟩ := by
  obtain ⟨line, rest, cut, opens⟩ := recovers.opens
  have filled : node.blockText.isEmpty = false := by
    simpa using ne_nil_of_lines_eq cut opens.isSolid
  have noKind : (⟨state.markers, some node, true⟩ : SiblingState).kind? = none := by
    rw [SiblingState.kind?]
    cases node with
    | list ordered items => exact absurd rfl (noList ordered items)
    | _ => rfl
  refine ⟨noKind.symm ▸ recovers, rfl, rfl, fun kind isKind => ?_,
    if !state.started then [] else ['\n', '\n'], fun rest => ?_, fun off => ?_, fun on => .inl ?_⟩
  · rw [noKind] at isKind
    cases isKind
  · rw [Node.siblingTexts]
    · rw [filled, Bool.false_or, Bool.not_false, Bool.or_true]
    · exact noList
  · rw [off]
    rfl
  · rw [on]
    rfl

theorem isNext_of_list
    {ordered : Bool}
    {items : List Node}
    (recovers : ∀ marker, IsMarker ordered marker →
      Recovers options (.list ordered items) (.list ordered items) (some (listKind ordered marker))
        (Text.lines (Text.unlines (Node.itemTexts ordered marker 1 items))) ∧
      Interrupts (Text.lines (Text.unlines (Node.itemTexts ordered marker 1 items))))
    (inItem : Bool)
    (state : SiblingState) :
    IsNext options inItem state (.list ordered items) (.list ordered items)
      (Text.unlines (Node.itemTexts ordered
        (state.markers.next ordered (state.followsList ordered)) 1 items))
      ⟨state.markers.record ordered (state.markers.next ordered (state.followsList ordered)),
        some (.list ordered items), true⟩ := by
  have different := state.kind?_ne_next ordered
  have isMarker := isMarker_next state.markers ordered (state.followsList ordered)
  generalize next : state.markers.next ordered (state.followsList ordered) = marker at *
  obtain ⟨recovered, interrupts⟩ := recovers marker isMarker
  obtain ⟨line, rest, cut, opens⟩ := recovered.opens
  have filled : (Text.unlines (Node.itemTexts ordered marker 1 items)).isEmpty = false := by
    simpa using ne_nil_of_lines_eq cut opens.isSolid
  have isKind : (⟨state.markers.record ordered marker, some (.list ordered items), true⟩ :
      SiblingState).kind? = some (listKind ordered marker) := by
    cases ordered <;> rfl
  let tight := inItem && state.followsParagraph &&
    !startsWithBareMarker (Text.unlines (Node.itemTexts ordered marker 1 items))
  refine ⟨isKind.symm ▸ recovered, rfl, rfl, fun kind isSame => ?_,
    if !state.started then [] else if tight then ['\n'] else ['\n', '\n'],
    fun rest => ?_, fun off => ?_, fun on => ?_⟩
  · rw [isKind] at isSame
    exact Option.some.inj isSame ▸ different
  · rw [Node.siblingTexts, next, filled, Bool.false_or, Bool.not_false, Bool.or_true]
  · rw [off]
    rfl
  · rw [on]
    cases isTight : tight with
    | false => exact .inl rfl
    | true =>
        refine .inr ⟨rfl, ?_, interrupts⟩
        rw [Bool.and_eq_true, Bool.and_eq_true] at isTight
        exact isTight.1.2

/-- Behind recovered siblings some more are recovered. -/
def Continues
    (options : Options)
    (inItem : Bool)
    (state : SiblingState)
    (nodes shown : List Node) : Prop :=
  ∀ (body : Body) (done : List Block),
    state.started = true → Completes options.tables done state.kind? body →
    (state.followsParagraph = true → ∃ text refuses, body.inner = .leaf (.paragraph text refuses)) →
      ∃ blocks kind? lines last, ShowAs options blocks shown ∧
        (∀ written, Text.lines (written ++ Node.siblingTexts inItem state nodes) =
          Text.lines written ++ lines) ∧
        Reads options.tables body lines last ∧
        Completes options.tables (blocks.reverse ++ done) kind? last ∧
        ∀ line ∈ lines, ∀ c ∈ line, isKept c = true

theorem continues_nil
    (inItem : Bool)
    (state : SiblingState) :
    Continues options inItem state [] [] := by
  intro body done _ completes _
  refine ⟨[], _, [], body, .nil options, fun written => ?_, .nil body, completes, nofun⟩
  rw [Node.siblingTexts, List.append_nil, List.append_nil]

section Siblings

variable {inItem : Bool} {state after : SiblingState} {node shown : Node} {text : List Char}
  {nodes others : List Node} {closed : List Block} {body last : Body} {line : List Char}
  {lines : List (List Char)}

/-- A block that ends the paragraph above it is read there as where nothing is open. -/
theorem reads_of_paragraph
    (completes : Completes options.tables closed state.kind? body)
    (paragraph : ∃ text refuses, body.inner = .leaf (.paragraph text refuses))
    (solid : IsSolid line)
    (interrupts : Interrupts (line :: lines))
    (reads : Reads options.tables ⟨closed, .none⟩ (line :: lines) last) :
    Reads options.tables body (line :: lines) last := by
  obtain ⟨before, inner⟩ := body
  obtain ⟨text, refuses, rfl⟩ := paragraph
  obtain ⟨noUnderline, begins⟩ := interrupts line rfl
  cases reads with
  | cons following step child rest =>
      refine .cons following (fun cursor shows => ?_) (fun isEmpty => absurd isEmpty solid.ne_nil) rest
      obtain ⟨start, inParagraph, outside⟩ := begins cursor shows
      rw [Body.next_of_paragraph solid shows noUnderline inParagraph outside, completes.close_eq]
      exact step cursor shows

theorem continues_cons
    (isNext : IsNext options inItem state node shown text after)
    (rest : Continues options inItem after nodes others) :
    Continues options inItem state (node :: nodes) (shown :: others) := by
  intro body done started completes paragraph
  obtain ⟨line, more, cut, opens⟩ := isNext.recovers.opens
  obtain ⟨block, showsAs, reads⟩ := isNext.recovers.reads
  obtain ⟨between, reads, blockCompletes, isParagraph⟩ := reads done
  have kept := isNext.recovers.kept
  obtain ⟨gap, writes, -, gaps⟩ := isNext.writes
  obtain ⟨blocks, kind?, lines, last, showAs, splits, later, lastCompletes, laterKept⟩ :=
    rest between (block :: done) isNext.started blockCompletes
      fun follows => isParagraph (SiblingState.followsParagraph_eq isNext.previous ▸ follows)
  rw [List.append_cons, ← List.reverse_cons] at lastCompletes
  -- An empty line stands between the two blocks, or the second one ends the paragraph just above it.
  rcases gaps started with rfl | ⟨rfl, follows, interrupts⟩
  · have separate := completes.reads_empty_cons (cut ▸ reads) opens.isSolid
      fun cursor shows kind width content begins =>
        isNext.different kind (opens.kind cursor shows kind width content begins)
    rw [← cut] at separate
    refine ⟨block :: blocks, kind?, ([] :: Text.lines text) ++ lines, last, .cons showsAs showAs,
      fun written => ?_, separate.append later, lastCompletes, ?_⟩
    · rw [writes nodes, List.append_assoc, List.cons_append, Text.lines_append_newline,
        List.singleton_append, Text.lines_newline_cons, splits text, List.cons_append]
    · exact List.forall_mem_append.mpr ⟨List.forall_mem_cons.mpr ⟨nofun, kept⟩, laterKept⟩
  · have direct := reads_of_paragraph completes (paragraph follows) opens.isSolid (cut ▸ interrupts)
      (cut ▸ reads)
    rw [← cut] at direct
    refine ⟨block :: blocks, kind?, Text.lines text ++ lines, last, .cons showsAs showAs,
      fun written => ?_, direct.append later, lastCompletes, ?_⟩
    · rw [writes nodes, List.append_assoc, List.singleton_append, Text.lines_append_newline,
        splits text]
    · exact List.forall_mem_append.mpr ⟨kept, laterKept⟩

theorem recoversAll_cons
    (isNext : IsNext options inItem .start node shown text after)
    (rest : Continues options inItem after nodes others) :
    RecoversAll options (node :: nodes) (shown :: others)
      (Text.lines (Node.siblingTexts inItem .start (node :: nodes))) := by
  obtain ⟨line, more, cut, opens⟩ := isNext.recovers.opens
  obtain ⟨block, showsAs, reads⟩ := isNext.recovers.reads
  obtain ⟨between, reads, blockCompletes, isParagraph⟩ := reads []
  obtain ⟨gap, writes, noGap, -⟩ := isNext.writes
  obtain ⟨blocks, kind?, lines, last, showAs, splits, later, lastCompletes, laterKept⟩ :=
    rest between [block] isNext.started blockCompletes
      fun follows => isParagraph (SiblingState.followsParagraph_eq isNext.previous ▸ follows)
  rw [← List.reverse_cons] at lastCompletes
  rw [writes nodes, noGap rfl, List.nil_append, splits text]
  refine ⟨⟨line, more ++ lines, after.kind?, by rw [cut]; rfl,
      opens.mono (Node.nesting_le_nestings_cons node nodes)⟩,
    ⟨block :: blocks, kind?, last, .cons showsAs showAs, reads.append later, lastCompletes⟩, ?_⟩
  exact List.forall_mem_append.mpr ⟨isNext.recovers.kept, laterKept⟩

end Siblings

/-! ## Blocks inside quotes and lists -/

namespace Node

/-- Whether a node is a quote or a list. -/
def isContainer : Node → Bool
  | .list .. | .blockquote _ => true
  | _ => false

mutual

/-- Whether a node is made of quotes and lists around other blocks of some kind. -/
def isMadeOf (leaf : Node → Bool) : Node → Bool
  | .list ordered items =>
      !items.isEmpty && (!ordered || items.length < 1000000000) && areItemsMadeOf leaf ordered items
  | .blockquote children => !children.isEmpty && areMadeOf leaf children
  | node => leaf node

/-- Whether every one of some nodes is made so. -/
def areMadeOf (leaf : Node → Bool) : List Node → Bool
  | [] => true
  | node :: rest => node.isMadeOf leaf && areMadeOf leaf rest

/-- Whether some nodes are items made so. A bullet and a thematic break behind it may read as one longer
break. -/
def areItemsMadeOf (leaf : Node → Bool) (ordered : Bool) : List Node → Bool
  | [] => true
  | .listItem children :: rest =>
      !children.isEmpty && (ordered || !children.head?.any isRule) && areMadeOf leaf children &&
        areItemsMadeOf leaf ordered rest
  | _ :: _ => false

end

mutual

theorem isMadeOf_of_isPlain : (node : Node) → node.isPlain options = true →
    node.isMadeOf (isPlain options) = true
  | .list ordered items, plain => by
      rw [isPlain, Bool.and_eq_true] at plain
      rw [isMadeOf, Bool.and_eq_true]
      exact ⟨plain.1, areItemsMadeOf_of_arePlainItems items ordered plain.2⟩
  | .blockquote children, plain => by
      rw [isPlain, Bool.and_eq_true] at plain
      rw [isMadeOf, Bool.and_eq_true]
      exact ⟨plain.1, areMadeOf_of_arePlain children plain.2⟩
  | .heading .., plain | .paragraph .., plain | .listItem .., plain | .code .., plain
  | .thematicBreak, plain | .text _, plain | .strong _, plain | .emphasis _, plain
  | .inlineCode _, plain | .link .., plain | .delete _, plain | .lineBreak, plain | .html _, plain
  | .image .., plain | .table .., plain | .tableRow _, plain | .tableCell _, plain => plain

theorem areMadeOf_of_arePlain : (nodes : List Node) → arePlain options nodes = true →
    areMadeOf (isPlain options) nodes = true
  | [], _ => rfl
  | node :: rest, plain => by
      rw [arePlain, Bool.and_eq_true] at plain
      rw [areMadeOf, Bool.and_eq_true]
      exact ⟨isMadeOf_of_isPlain node plain.1, areMadeOf_of_arePlain rest plain.2⟩

theorem areItemsMadeOf_of_arePlainItems : (items : List Node) → (ordered : Bool) →
    arePlainItems options ordered items = true →
      areItemsMadeOf (isPlain options) ordered items = true
  | [], _, _ => rfl
  | .listItem children :: rest, ordered, plain => by
      rw [arePlainItems, Bool.and_eq_true, Bool.and_eq_true] at plain
      rw [areItemsMadeOf, Bool.and_eq_true, Bool.and_eq_true]
      exact ⟨⟨plain.1.1, areMadeOf_of_arePlain children plain.1.2⟩,
        areItemsMadeOf_of_arePlainItems rest ordered plain.2⟩

end

end Node

section Trees

variable {leaf : Node → Bool}

mutual

/-- A block is recovered wherever it stands among its siblings, if the blocks inside its quotes and lists
are. -/
theorem exists_isNext
    (recovers : ∀ node, node.isContainer = false → leaf node = true →
      Recovers options node node none (Text.lines node.blockText)) :
    (node : Node) → node.isMadeOf leaf = true → node.nesting ≤ Reader.itemContainerLimit →
      (inItem : Bool) → (state : SiblingState) →
        ∃ text after, IsNext options inItem state node node text after
  | .list ordered items, made, shallow, inItem, state => by
      simp only [Node.isMadeOf, Bool.and_eq_true, Bool.or_eq_true, Bool.not_eq_true',
        List.isEmpty_eq_false_iff, decide_eq_true_eq] at made
      obtain ⟨⟨nonempty, few⟩, content⟩ := made
      rw [Node.nesting] at shallow
      refine ⟨_, _, isNext_of_list (fun marker isMarker => ?_) inItem state⟩
      have inside := recoversItems_of_areItemsMadeOf recovers items ordered content shallow marker
        isMarker 1 fun isOrdered => by have := few.resolve_left (by simp [isOrdered]); omega
      exact ⟨recovers_list isMarker nonempty inside, interrupts_list isMarker nonempty inside⟩
  | .blockquote children, made, shallow, inItem, state => by
      rw [Node.isMadeOf, Bool.and_eq_true] at made
      rw [Node.nesting] at shallow
      have inside := recoversAll_of_areMadeOf recovers children made.2 (Nat.le_of_lt shallow)
        (by simpa using made.1) false
      exact ⟨_, _, isNext_of_recovers (inside.quote shallow) nofun inItem state⟩
  | .heading .., made, _, inItem, state | .paragraph .., made, _, inItem, state
  | .listItem .., made, _, inItem, state | .code .., made, _, inItem, state
  | .thematicBreak, made, _, inItem, state | .text _, made, _, inItem, state
  | .strong _, made, _, inItem, state | .emphasis _, made, _, inItem, state
  | .inlineCode _, made, _, inItem, state | .link .., made, _, inItem, state
  | .delete _, made, _, inItem, state | .lineBreak, made, _, inItem, state
  | .html _, made, _, inItem, state | .image .., made, _, inItem, state
  | .table .., made, _, inItem, state | .tableRow _, made, _, inItem, state
  | .tableCell _, made, _, inItem, state =>
      ⟨_, _, isNext_of_recovers (recovers _ rfl made) nofun inItem state⟩

/-- Such blocks are recovered behind others. -/
theorem continues_of_areMadeOf
    (recovers : ∀ node, node.isContainer = false → leaf node = true →
      Recovers options node node none (Text.lines node.blockText)) :
    (nodes : List Node) → Node.areMadeOf leaf nodes = true →
      Node.nestings nodes ≤ Reader.itemContainerLimit → (inItem : Bool) →
        (state : SiblingState) → Continues options inItem state nodes nodes
  | [], _, _, inItem, state => continues_nil inItem state
  | node :: rest, made, shallow, inItem, state => by
      rw [Node.areMadeOf, Bool.and_eq_true] at made
      rw [Node.nestings, Nat.max_le] at shallow
      obtain ⟨text, after, isNext⟩ := exists_isNext recovers node made.1 shallow.1 inItem state
      exact continues_cons isNext (continues_of_areMadeOf recovers rest made.2 shallow.2 inItem after)

/-- Such blocks are recovered where nothing stands before them. -/
theorem recoversAll_of_areMadeOf
    (recovers : ∀ node, node.isContainer = false → leaf node = true →
      Recovers options node node none (Text.lines node.blockText)) :
    (nodes : List Node) → Node.areMadeOf leaf nodes = true →
      Node.nestings nodes ≤ Reader.itemContainerLimit → nodes ≠ [] → (inItem : Bool) →
        RecoversAll options nodes nodes (Text.lines (Node.siblingTexts inItem .start nodes))
  | [], _, _, nonempty, _ => absurd rfl nonempty
  | node :: rest, made, shallow, _, inItem => by
      rw [Node.areMadeOf, Bool.and_eq_true] at made
      rw [Node.nestings, Nat.max_le] at shallow
      obtain ⟨text, after, isNext⟩ := exists_isNext recovers node made.1 shallow.1 inItem .start
      exact recoversAll_cons isNext (continues_of_areMadeOf recovers rest made.2 shallow.2 inItem after)

/-- Items of such blocks are recovered, as long as their numbers have at most nine digits. -/
theorem recoversItems_of_areItemsMadeOf
    (recovers : ∀ node, node.isContainer = false → leaf node = true →
      Recovers options node node none (Text.lines node.blockText)) :
    (items : List Node) → (ordered : Bool) → Node.areItemsMadeOf leaf ordered items = true →
      Node.nestings items < Reader.itemContainerLimit →
        (marker : Char) → IsMarker ordered marker → (number : Nat) →
          (ordered = true → number + items.length ≤ 1000000000) →
            RecoversItems options ordered marker number items
  | [], ordered, _, _, marker, _, number, _ => recoversItems_nil ordered marker number
  | .listItem children :: rest, ordered, made, shallow, marker, isMarker, number, few => by
      rw [Node.areItemsMadeOf, Bool.and_eq_true, Bool.and_eq_true, Bool.and_eq_true] at made
      obtain ⟨⟨⟨some, holds⟩, content⟩, others⟩ := made
      rw [Node.nestings, Node.nesting, Nat.max_lt] at shallow
      have first := recoversAll_of_areMadeOf recovers children content (Nat.le_of_lt shallow.1)
        (by simpa using some) true
      rw [List.length_cons] at few
      have later := recoversItems_of_areItemsMadeOf recovers rest ordered others shallow.2 marker
        isMarker (number + 1) fun isOrdered => by have := few isOrdered; omega
      exact later.cons isMarker (fun isOrdered => by have := few isOrdered; omega)
        (by simpa using holds) shallow.1 first

end

end Trees

/-! ## Whole documents -/

theorem isKept_of_mem
    {text : List Char}
    (kept : ∀ line ∈ Text.lines text, ∀ c ∈ line, isKept c = true)
    {c : Char}
    (member : c ∈ text ++ ['\n']) :
    isKept c = true := by
  rw [← Text.flatMap_lines, List.mem_flatMap] at member
  obtain ⟨line, isLine, member⟩ := member
  rcases List.mem_append.mp member with member | isNewline
  · exact kept line isLine c member
  · obtain rfl := List.mem_singleton.mp isNewline
    decide

/-- A text is read as the blocks that its lines complete. -/
theorem readBlocks_eq
    {tables : Bool}
    {text : List Char}
    {blocks : List Block}
    {kind? : Option ListKind}
    {body : Body}
    (reads : Reads tables .empty (Text.lines text) body)
    (completes : Completes tables blocks.reverse kind? body)
    (kept : ∀ line ∈ Text.lines text, ∀ c ∈ line, isKept c = true)
    (noMark : ∀ c ∈ (text ++ ['\n']).head?, c.toNat ≠ 0xFEFF) :
    Reader.readBlocks tables (text ++ ['\n']) = blocks := by
  have kept : ∀ c ∈ text ++ ['\n'], c ≠ '\r' ∧ c.toNat ≠ 0 := fun c member => by
    simpa [isKept] using isKept_of_mem kept member
  have clean := Reader.cleanSource_eq_self (fun c member => (kept c member).2) noMark
  have noReturn : '\r' ∉ text := fun member => (kept '\r' (List.mem_append_left _ member)).1 rfl
  have folded := reads.foldl_eq
  rw [Reader.readBlocks, clean, Reader.sourceLines_append_newline noReturn]
  rw [← List.reverse_reverse blocks, ← completes.close_eq, ← folded]
  rfl

/-- The lines of recovered blocks are read as blocks that show as nodes. -/
theorem RecoversAll.readBlocks
    {nodes shown : List Node}
    {text : List Char}
    (recovers : RecoversAll options nodes shown (Text.lines text))
    (noMark : ∀ c ∈ (text ++ ['\n']).head?, c.toNat ≠ 0xFEFF) :
    ShowAs options (Reader.readBlocks options.tables (text ++ ['\n'])) shown := by
  obtain ⟨blocks, kind?, last, showAs, reads, completes⟩ := recovers.reads
  rw [readBlocks_eq reads completes recovers.kept noMark]
  exact showAs

/-- A plain block that is no quote and no list is recovered from its lines. -/
theorem recovers_of_isPlain :
    (node : Node) → node.isContainer = false → node.isPlain options = true →
      Recovers options node node none (Text.lines node.blockText)
  | .heading depth [.text value], _, plain => by
      simp only [Node.isPlain, Bool.and_eq_true, decide_eq_true_eq, Bool.not_eq_true',
        List.contains_eq_mem, decide_eq_false_iff_not] at plain
      obtain ⟨⟨⟨positive, bounded⟩, single⟩, line⟩ := plain
      exact recovers_heading_text positive bounded single (plainLine_of_isPlainLine line)
  | .paragraph [.text value], _, plain => by
      simp only [Node.isPlain, isPlainParagraph, Bool.and_eq_true, List.all_eq_true, Bool.or_eq_true,
        Bool.not_eq_true', Option.all_eq_true, beq_iff_eq] at plain
      obtain ⟨⟨lines, noRow⟩, noTask⟩ := plain
      have plain : ∀ line ∈ Text.lines value.toList, PlainLine options line := fun line isLine =>
        plainLine_of_isPlainLine (lines line isLine)
      have trimmed := fun line isLine => (plain line isLine).isTrimmed
      have showsAs := showsAs_paragraph trimmed
        (fun on line isLine => by
          rw [(plain line isLine).readLongReferences_eq]
          exact (plain line isLine).noAddress on)
        (fun on line isFirst => by
          rw [(plain line (List.mem_of_head? isFirst)).readLongReferences_eq]
          exact noTask.resolve_left (by simp [on]) line isFirst)
      rw [Reader.readLongReferences_of_lines fun line isLine => (plain line isLine).noReference,
        String.ofList_toList] at showsAs
      exact recovers_paragraph_text trimmed (fun on => noRow.resolve_left (by simp [on])) showsAs
        fun line isLine => (plain line isLine).kept
  | .code lang value, _, plain => by
      rw [Node.isPlain, Bool.and_eq_true, List.all_eq_true, Option.all_eq_true] at plain
      exact recovers_code plain.1 plain.2
  | .thematicBreak, _, _ => recovers_rule

namespace Tree

/-- A document is read as the nodes that its blocks show as. A byte order mark at its start would be
dropped. -/
theorem ofMarkdown_toMarkdown_of_recoversAll
    {tree : Tree}
    {shown : List Node}
    (recovers : RecoversAll options tree.children shown
      (Text.lines (Node.siblingTexts false .start tree.children)))
    (noMark : tree.toMarkdown.toList.head?.all (·.toNat != 0xFEFF) = true) :
    ofMarkdown options tree.toMarkdown = ⟨shown⟩ := by
  obtain ⟨line, rest, _, cut, opens⟩ := recovers.opens
  have filled : (Node.siblingTexts false .start tree.children).isEmpty = false := by
    simpa using ne_nil_of_lines_eq cut opens.isSolid
  rw [toMarkdown, blocksText, filled, if_neg Bool.false_ne_true] at noMark ⊢
  rw [String.toList_ofList, Option.all_eq_true] at noMark
  have showAs := recovers.readBlocks fun c isFirst => by simpa using noMark c isFirst
  rw [ofMarkdown, String.toList_ofList, showAs _ false 0 ⟨rfl, rfl⟩]

/-- A document comes back from its text if the blocks inside its quotes and lists are recovered from
theirs and do not stand inside too many. -/
theorem ofMarkdown_toMarkdown_of_recovers
    {leaf : Node → Bool}
    (recovers : ∀ node, node.isContainer = false → leaf node = true →
      Recovers options node node none (Text.lines node.blockText))
    {tree : Tree}
    (made : Node.areMadeOf leaf tree.children = true)
    (shallow : tree.nesting ≤ Reader.itemContainerLimit)
    (noMark : tree.toMarkdown.toList.head?.all (·.toNat != 0xFEFF) = true) :
    ofMarkdown options tree.toMarkdown = tree := by
  by_cases none : tree.children = []
  · obtain ⟨children⟩ := tree
    subst none
    rfl
  · exact ofMarkdown_toMarkdown_of_recoversAll
      (recoversAll_of_areMadeOf recovers tree.children made shallow none false) noMark

/-- A plain document comes back from its text. -/
theorem ofMarkdown_toMarkdown_eq_self
    {tree : Tree}
    (plain : tree.isPlain options = true) :
    ofMarkdown options tree.toMarkdown = tree := by
  rw [isPlain, Bool.and_eq_true, Bool.and_eq_true, decide_eq_true_eq] at plain
  obtain ⟨⟨blocks, shallow⟩, noMark⟩ := plain
  exact ofMarkdown_toMarkdown_of_recovers recovers_of_isPlain
    (Node.areMadeOf_of_arePlain tree.children blocks) shallow noMark

end Tree

end Markdown
end TwinEditor
