import TwinEditor.Proofs.Markdown.LineStart

/-!
# Reading lines inside containers

What the lines of a document do to the blocks that are open. A quote or an item hands the content of
each of its lines on to what is open inside it, so that lines are read inside a container as they are
read outside. After an empty line only lists stay open, and a line that neither is indented nor
begins a further item is then read as if nothing were open.
-/

namespace TwinEditor
namespace Markdown
namespace Reader

/-! ## The first line of a container -/

namespace Cursor

theorem length_skipBlanksFrom_le
    (column : Nat)
    (line : List Char) :
    (skipBlanksFrom column line).rest.length ≤ line.length := by
  fun_induction skipBlanksFrom column line with
  | case1 column rest inductionHypothesis => exact Nat.le_succ_of_le inductionHypothesis
  | case2 column rest inductionHypothesis => exact Nat.le_succ_of_le inductionHypothesis
  | case3 column rest => exact Nat.le_refl rest.length

theorem length_dropColumnsFrom_le
    (column : Nat)
    (inTab : Bool)
    (count : Nat)
    (line : List Char) :
    (dropColumnsFrom column inTab count line).rest.length ≤ line.length := by
  fun_induction dropColumnsFrom column inTab count line with
  | case1 column inTab rest => exact Nat.le_refl rest.length
  | case2 column inTab count => exact Nat.le_refl 0
  | case3 column inTab count rest width fits inductionHypothesis =>
      exact Nat.le_succ_of_le inductionHypothesis
  | case4 column inTab count rest width wide => exact Nat.le_refl _
  | case5 column inTab count c rest other inductionHypothesis =>
      exact Nat.le_succ_of_le inductionHypothesis

theorem length_dropColumns_le
    (count : Nat)
    (cursor : Cursor) :
    (cursor.dropColumns count).rest.length ≤ cursor.rest.length :=
  length_dropColumnsFrom_le cursor.column cursor.inTab count cursor.rest

theorem rest_next (cursor : Cursor) : cursor.next.rest = cursor.rest.drop 1 := by
  fun_cases next <;> rfl

theorem rest_advance
    (count : Nat)
    (cursor : Cursor) :
    (cursor.advance count).rest = cursor.rest.drop count := by
  induction count generalizing cursor with
  | zero => rfl
  | succ count inductionHypothesis =>
      rw [advance, inductionHypothesis, rest_next, List.drop_drop, Nat.add_comm]

end Cursor

/-- The content of the container that a line begins. -/
def Start.content? : Start → Option Cursor
  | .quote content | .item _ _ content => some content
  | _ => none

theorem length_skipOneBlank_le (cursor : Cursor) :
    (skipOneBlank cursor).rest.length ≤ cursor.rest.length := by
  rw [skipOneBlank]
  split
  · exact cursor.length_dropColumns_le 1
  · exact Nat.le_refl _

theorem length_itemContent_le
    (length : Nat)
    (cursor : Cursor) :
    (itemContent length cursor).2.rest.length ≤ cursor.rest.length := by
  rw [itemContent]
  split
  · exact cursor.length_dropColumns_le _
  · exact cursor.length_dropColumns_le _

theorem pos_of_listMarker?
    {inParagraph : Bool}
    {line : List Char}
    {kind : ListKind}
    {length : Nat}
    (found : listMarker? inParagraph line = some (kind, length)) :
    0 < length ∧ line ≠ [] := by
  cases line with
  | nil => cases found
  | cons c rest =>
      refine ⟨?_, List.cons_ne_nil c rest⟩
      rw [listMarker?] at found
      split at found
      · split at found
        · obtain ⟨-, rfl⟩ := Prod.mk.inj (Option.some.inj found)
          exact Nat.one_pos
        · cases found
      · dsimp only at found
        split at found
        · split at found
          · obtain ⟨-, rfl⟩ := Prod.mk.inj (Option.some.inj found)
            exact Nat.succ_pos _
          · cases found
        · cases found

/-- A container takes at least one character of its first line for itself. -/
theorem length_content_lt
    {inParagraph continuesParagraph : Bool}
    {cursor content : Cursor}
    {start : Start}
    (begins : start? inParagraph continuesParagraph cursor = some start)
    (isContent : start.content? = some content) :
    content.rest.length < cursor.rest.length := by
  have skipped := Cursor.length_skipBlanksFrom_le cursor.column cursor.rest
  rw [← Cursor.skipBlanks] at skipped
  rw [start?] at begins
  dsimp only at begins
  split at begins
  · split at begins
    · cases begins
    · cases begins
      cases isContent
  · split at begins
    · next rest cut =>
        cases begins
        cases isContent
        have shorter := length_skipOneBlank_le (cursor.skipBlanks.advance 1)
        rw [Cursor.rest_advance, cut] at shorter
        rw [cut] at skipped
        exact Nat.lt_of_le_of_lt shorter skipped
    · split at begins
      · cases begins
        cases isContent
      · cases begins
        cases isContent
      · cases begins
        cases isContent
      · split at begins
        · cases begins
          cases isContent
        · split at begins
          · next kind length isMarker =>
              cases begins
              cases isContent
              obtain ⟨positive, some⟩ := pos_of_listMarker? isMarker
              have shorter := length_itemContent_le length (cursor.skipBlanks.advance length)
              rw [Cursor.rest_advance, List.length_drop] at shorter
              have more := List.length_pos_iff.mpr some
              omega
          · cases begins

namespace Body

theorem begin_congr
    {first second : Cursor → Body}
    {start : Start}
    (same : ∀ content, start.content? = some content → first content = second content)
    (closed : List Block) :
    begin first closed start = begin second closed start := by
  cases start with
  | quote content => rw [begin, begin, same content rfl]
  | item kind width content => rw [begin, begin, same content rfl]
  | heading depth text => rfl
  | rule => rfl
  | fence fence length indent info => rfl
  | html kind line => rfl
  | indented content => rfl

/-- The next line behind the blocks of a body. -/
def next (tables : Bool) (body : Body) (cursor : Cursor) : Body :=
  body.inner.step tables body.closed cursor

theorem next_of_start?
    {cursor : Cursor}
    {start : Start}
    (begins : start? false false cursor = some start)
    (tables : Bool)
    (closed : List Block) :
    (⟨closed, .none⟩ : Body).next tables cursor = begin ofLine closed start := by
  rw [next, OpenBlock.step, begins]

theorem next_of_not_start?
    {cursor : Cursor}
    (text : start? false false cursor = none)
    (tables : Bool)
    (closed : List Block) :
    (⟨closed, .none⟩ : Body).next tables cursor = ofText closed cursor := by
  rw [next, OpenBlock.step, text]

/-- The bound on the number of containers on a line does not matter if it is at least the length of the
line. -/
theorem ofLineWithin_succ
    {bound opened : Nat}
    {cursor : Cursor}
    (enough : cursor.rest.length ≤ bound) :
    ofLineWithin (bound + 1) opened cursor = ofLineWithin bound opened cursor := by
  induction bound generalizing opened cursor with
  | zero =>
      have ended := List.eq_nil_of_length_eq_zero (Nat.le_zero.mp enough)
      rw [ofLineWithin, ofLineWithin, start?_of_rest_eq_nil ended]
      rfl
  | succ bound inductionHypothesis =>
      rw [ofLineWithin, ofLineWithin]
      split
      · next start begins =>
          obtain ⟨begins, -⟩ := Option.filter_eq_some_iff.mp begins
          exact begin_congr (fun content isContent => inductionHypothesis
            (Nat.le_of_lt_succ (Nat.lt_of_lt_of_le (length_content_lt begins isContent) enough))) []
      · rfl

theorem ofLineWithin_eq_of_le
    {bound opened : Nat}
    {cursor : Cursor}
    (enough : cursor.rest.length ≤ bound) :
    ofLineWithin bound opened cursor = ofLineWithin cursor.rest.length opened cursor := by
  induction enough with
  | refl => rfl
  | step enough inductionHypothesis => rw [ofLineWithin_succ enough, inductionHypothesis]

end Body

/-- A line opens at most some number of containers. -/
def Cursor.OpensAtMost : Nat → Cursor → Prop
  | 0, cursor => ∀ start, start? false false cursor = some start → start.content? = none
  | count + 1, cursor => ∀ start, start? false false cursor = some start →
      ∀ content, start.content? = some content → OpensAtMost count content

theorem Cursor.OpensAtMost.succ
    {count : Nat}
    {cursor : Cursor}
    (few : cursor.OpensAtMost count) :
    cursor.OpensAtMost (count + 1) := by
  induction count generalizing cursor with
  | zero =>
      intro start begins content isContent
      rw [few start begins] at isContent
      cases isContent
  | succ count inductionHypothesis =>
      exact fun start begins content isContent =>
        inductionHypothesis (few start begins content isContent)

theorem Cursor.OpensAtMost.mono
    {count more : Nat}
    {cursor : Cursor}
    (few : cursor.OpensAtMost count)
    (le : count ≤ more) :
    cursor.OpensAtMost more := by
  induction le with
  | refl => exact few
  | step _ inductionHypothesis => exact inductionHypothesis.succ

namespace Body

/-- A block without content begins on any line, and an item on one that has opened few containers. -/
theorem mayBegin_of_content?
    {opened : Nat}
    {start : Start}
    (early : opened < itemContainerLimit ∨ start.content? = none) :
    mayBegin opened start = true := by
  cases start with
  | item kind width content => exact decide_eq_true (early.resolve_right nofun)
  | _ => rfl

/-- A line is read in a new container like in a container without content, if what it begins may begin
there and the container that this is, if any, reads the rest of the line likewise. -/
theorem ofLineWithin_eq_next_of_content
    (tables : Bool)
    {opened : Nat}
    {cursor : Cursor}
    (may : ∀ start, start? false false cursor = some start → mayBegin opened start = true)
    (inside : ∀ start, start? false false cursor = some start →
      ∀ content, start.content? = some content →
        ofLineWithin content.rest.length (opened + 1) content = ofLine content) :
    ofLineWithin cursor.rest.length opened cursor = empty.next tables cursor := by
  rw [← ofLineWithin_succ (Nat.le_refl cursor.rest.length), ofLineWithin]
  cases begins : start? false false cursor with
  | none => exact (next_of_not_start? begins tables []).symm
  | some start =>
      rw [Option.filter_some_pos (may start begins), empty, next_of_start? begins]
      refine begin_congr (fun content isContent => ?_) []
      rw [ofLineWithin_eq_of_le (Nat.le_of_lt (length_content_lt begins isContent))]
      exact inside start begins content isContent

/-- The rest of a line is read in a new container like any line in a container without content, if it does
not open too many containers. -/
theorem ofLineWithin_eq_next
    (tables : Bool)
    {count opened : Nat}
    {cursor : Cursor}
    (few : cursor.OpensAtMost count)
    (fits : opened + count ≤ itemContainerLimit) :
    ofLineWithin cursor.rest.length opened cursor = empty.next tables cursor := by
  induction count generalizing opened cursor with
  | zero =>
      refine ofLineWithin_eq_next_of_content tables
        (fun start begins => mayBegin_of_content? (.inr (few start begins)))
        (fun start begins content isContent => ?_)
      rw [few start begins] at isContent
      cases isContent
  | succ count inductionHypothesis =>
      refine ofLineWithin_eq_next_of_content tables
        (fun start begins => mayBegin_of_content? (.inl (by omega)))
        (fun start begins content isContent => ?_)
      have fewer := few start begins content isContent
      rw [ofLine, inductionHypothesis fewer (by omega), inductionHypothesis fewer (by omega)]

/-- The first line of a container is read in it like any line in a container without content. -/
theorem ofLine_eq_next
    (tables : Bool)
    {count : Nat}
    {cursor : Cursor}
    (few : cursor.OpensAtMost count)
    (fits : count < itemContainerLimit) :
    ofLine cursor = empty.next tables cursor :=
  ofLineWithin_eq_next tables few (by omega)

/-! ## Reading several lines -/

/-- A line that is indented by a number of spaces, unless it is empty. -/
def indentedLine (width : Nat) (line : List Char) : List Char :=
  if line.isEmpty then [] else List.replicate width ' ' ++ line

/-- Whether a container holds something that shows in the document. -/
def HasChild (body : Body) : Prop :=
  OpenBlock.hasChild body.closed body.inner = true

/-- Some lines lead from one body to another, at whatever columns they stand. No empty line comes before
the first child, so that an item would not end with it. -/
inductive Reads (tables : Bool) : Body → List (List Char) → Body → Prop
  | nil (body : Body) : Reads tables body [] body
  | cons
      {body last : Body}
      {line : List Char}
      {lines : List (List Char)}
      (after : Body)
      (step : ∀ cursor : Cursor, cursor.Shows line → body.next tables cursor = after)
      (child : line = [] → body.HasChild)
      (rest : Reads tables after lines last) :
      Reads tables body (line :: lines) last

namespace Reads

variable {tables : Bool} {body middle last : Body} {lines later : List (List Char)}

theorem append
    (first : Reads tables body lines middle)
    (second : Reads tables middle later last) :
    Reads tables body (lines ++ later) last := by
  induction first with
  | nil body => exact second
  | cons after step child rest inductionHypothesis =>
      exact .cons after step child (inductionHypothesis second)

theorem foldl_eq
    (reads : Reads tables body lines last) :
    lines.foldl (fun body line => body.next tables (.ofLine line)) body = last := by
  induction reads with
  | nil body => rfl
  | cons after step child rest inductionHypothesis =>
      rw [List.foldl_cons, Cursor.ofLine, step _ ⟨0, rfl⟩, inductionHypothesis]

/-- Lines are read in a quote as they are read outside. -/
theorem quote
    (reads : Reads tables body lines last)
    (closed : List Block) :
    Reads tables ⟨closed, .quote body.closed body.inner⟩ (lines.map quoteLine)
      ⟨closed, .quote last.closed last.inner⟩ := by
  induction reads with
  | nil body => exact .nil _
  | @cons body last line lines after step child rest inductionHypothesis =>
      refine .cons _ (fun cursor shows => ?_)
        (fun isEmpty => absurd isEmpty (isSolid_quoteLine line).ne_nil) inductionHypothesis
      have inside := step _ (shows_skipOneBlank shows)
      rw [next] at inside
      rw [next, OpenBlock.step, quoteContent?_quoteLine shows]
      dsimp only
      rw [inside]

/-- Lines are read in an item as they are read outside, if they are indented as far as its content. Empty
lines need no indentation. -/
theorem item
    (reads : Reads tables body lines last)
    (closed : List Block)
    (kind : ListKind)
    (items : List (List Block))
    {width : Nat}
    (wide : 0 < width) :
    Reads tables ⟨closed, .item kind items width body.closed body.inner⟩
      (lines.map (indentedLine width))
      ⟨closed, .item kind items width last.closed last.inner⟩ := by
  induction reads with
  | nil body => exact .nil _
  | @cons body last line lines after step child rest inductionHypothesis =>
      refine .cons _ (fun cursor shows => ?_) (fun _ => rfl) inductionHypothesis
      have inside : ∃ content : Cursor, content.Shows line ∧
          itemLine? width (OpenBlock.hasChild body.closed body.inner) cursor = some content := by
        cases line with
        | nil =>
            have shows : cursor.Shows [] := shows
            have present := child rfl
            rw [HasChild] at present
            rw [itemLine?, Cursor.indent_of_empty shows, Cursor.isBlank_of_empty shows, present,
              if_neg (by omega), Cursor.skipBlanks_of_empty shows]
            exact ⟨cursor, shows, rfl⟩
        | cons c rest =>
            have shows : cursor.Shows (List.replicate width ' ' ++ c :: rest) := shows
            rw [itemLine?, if_pos (Cursor.le_indent_of_shows_replicate shows)]
            exact ⟨_, Cursor.shows_dropColumns_replicate shows, rfl⟩
      obtain ⟨content, showsContent, isContent⟩ := inside
      have inside := step content showsContent
      rw [next] at inside
      rw [next, OpenBlock.step, isContent]
      dsimp only
      rw [inside]

end Reads

/-! ## Behind an empty line -/

end Body

namespace OpenBlock

/-- Whether nothing but lists and their items is open. -/
def IsCalm : OpenBlock → Prop
  | .none | .list .. => True
  | .item _ _ width _ inner => 0 < width ∧ inner.IsCalm
  | .leaf _ | .quote .. => False

/-- The kind of the outermost open block if that is a list. -/
def listKind? : OpenBlock → Option ListKind
  | .list kind _ | .item kind .. => some kind
  | _ => Option.none

theorem IsCalm.endsInParagraph
    {block : OpenBlock}
    (calm : block.IsCalm) :
    block.endsInParagraph = false := by
  induction block with
  | none => rfl
  | leaf leaf => exact calm.elim
  | quote closed inner => exact calm.elim
  | list kind items => rfl
  | item kind items width closed inner inductionHypothesis => exact inductionHypothesis calm.2

end OpenBlock

namespace Body

variable {tables : Bool} {body : Body} {line : List Char} {cursor : Cursor}

/-- A line that no open container matches and that continues no paragraph closes what is open. -/
theorem stepUnmatched_eq_next
    (calm : body.inner.endsInParagraph = false)
    (tables : Bool)
    (cursor : Cursor) :
    stepUnmatched body cursor = (⟨body.close, .none⟩ : Body).next tables cursor := by
  rw [stepUnmatched, calm]
  cases begins : start? false false cursor with
  | none => simp [next_of_not_start? begins]
  | some start => rw [next_of_start? begins]

/-- If nothing but lists is open, a line that is not indented and does not begin a further item of the
outermost list is read as if nothing were open. -/
theorem next_of_isCalm
    (calm : body.inner.IsCalm)
    (solid : IsSolid line)
    (shows : cursor.Shows line)
    (different : ∀ kind width content,
      start? false false cursor = some (.item kind width content) → body.inner.listKind? ≠ some kind)
    (tables : Bool) :
    body.next tables cursor = (⟨body.close, .none⟩ : Body).next tables cursor := by
  have ended := calm.endsInParagraph
  obtain ⟨closed, inner⟩ := body
  have ofList {kind : ListKind} {items : List (List Block)}
      (isKind : inner.listKind? = some kind) :
      stepList closed kind items inner cursor =
        (⟨close ⟨closed, inner⟩, .none⟩ : Body).next tables cursor := by
    have unmatched := @stepUnmatched_eq_next ⟨closed, inner⟩ ended tables cursor
    rw [stepList, ended]
    split
    · next nextKind width content begins =>
        have other : nextKind ≠ kind := by
          rintro rfl
          exact different nextKind width content begins isKind
        rw [if_neg other, unmatched]
    · rw [Cursor.isBlank_of_isSolid solid shows, if_neg Bool.false_ne_true, unmatched]
  cases inner with
  | none => rfl
  | leaf leaf => exact calm.elim
  | quote quoted inner => exact calm.elim
  | list kind items => exact ofList rfl
  | item kind items width itemClosed inner =>
      have outside : itemLine? width (OpenBlock.hasChild itemClosed inner) cursor = none := by
        rw [itemLine?, Cursor.indent_of_isSolid solid shows, Cursor.isBlank_of_isSolid solid shows,
          if_neg (Nat.not_le.mpr calm.1)]
        rfl
      rw [next, OpenBlock.step, outside]
      exact ofList rfl

/-- Some blocks have been read in full, the last of them perhaps a list of a kind: an empty line behind
them leaves nothing but lists open. -/
structure Completes
    (tables : Bool)
    (done : List Block)
    (kind? : Option ListKind)
    (body : Body) : Prop where
  close_eq : body.close = done
  hasChild : body.HasChild
  calms : ∃ calm : Body, (∀ cursor : Cursor, cursor.Shows [] → body.next tables cursor = calm) ∧
    calm.inner.IsCalm ∧ calm.close = done ∧ calm.inner.listKind? = kind?

namespace Completes

variable {done : List Block} {kind? : Option ListKind} {lines : List (List Char)} {last : Body}

/-- Behind completed blocks and an empty line, a block is read as if nothing were open, unless it is a
list of the same kind as the last block. -/
theorem reads_empty_cons
    (completes : body.Completes tables done kind?)
    (reads : Reads tables ⟨done, .none⟩ (line :: lines) last)
    (solid : IsSolid line)
    (different : ∀ cursor : Cursor, cursor.Shows line → ∀ kind width content,
      start? false false cursor = some (.item kind width content) → kind? ≠ some kind) :
    Reads tables body ([] :: line :: lines) last := by
  obtain ⟨calm, step, isCalm, rfl, rfl⟩ := completes.calms
  cases reads with
  | cons after next _ rest =>
      refine .cons calm step (fun _ => completes.hasChild)
        (.cons after (fun cursor shows => ?_) (fun isEmpty => absurd isEmpty solid.ne_nil) rest)
      -- Only lists are open, and the line neither belongs to an item of them nor begins one.
      rw [next_of_isCalm isCalm solid shows (different cursor shows)]
      exact next cursor shows

/-- What is true of the blocks inside a quote makes the quote complete. -/
theorem quote
    (completes : body.Completes tables done kind?)
    (closed : List Block) :
    Completes tables (.quote done.reverse :: closed) none ⟨closed, .quote body.closed body.inner⟩ := by
  have closes : close ⟨closed, .quote body.closed body.inner⟩ = .quote done.reverse :: closed := by
    rw [← completes.close_eq]
    simp [close, OpenBlock.close]
  refine ⟨closes, rfl, ⟨.quote done.reverse :: closed, .none⟩, fun cursor shows => ?_, trivial, rfl,
    rfl⟩
  have outside : quoteContent? cursor = none := by
    obtain ⟨column, rfl⟩ := shows
    rw [quoteContent?, if_neg (by simp [Cursor.skipBlanks])]
  have text := start?_of_rest_eq_nil (congrArg Cursor.rest shows.choose_spec)
  rw [next, OpenBlock.step, outside]
  dsimp only
  rw [stepUnmatched, text, Cursor.isBlank_of_empty shows]
  dsimp only
  rw [Bool.not_true, Bool.false_and, if_neg Bool.false_ne_true, closes, ofText,
    Cursor.isBlank_of_empty shows, if_pos rfl]

/-- What is true of the blocks inside the last item of a list makes the list complete. -/
theorem item
    (completes : body.Completes tables done kind?)
    (closed : List Block)
    (kind : ListKind)
    (items : List (List Block))
    {width : Nat}
    (wide : 0 < width) :
    Completes tables (.list kind.isOrdered (done.reverse :: items).reverse :: closed) (some kind)
      ⟨closed, .item kind items width body.closed body.inner⟩ := by
  have closes {inside : Body} (same : inside.close = done) :
      close ⟨closed, .item kind items width inside.closed inside.inner⟩ =
        .list kind.isOrdered (done.reverse :: items).reverse :: closed := by
    rw [← same]
    simp [close, OpenBlock.close]
  obtain ⟨calm, step, isCalm, same, -⟩ := completes.calms
  refine ⟨closes completes.close_eq, rfl, ⟨closed, .item kind items width calm.closed calm.inner⟩,
    fun cursor shows => ?_, ⟨wide, isCalm⟩, closes same, rfl⟩
  have reads : Reads tables body [[]] calm := .cons calm step (fun _ => completes.hasChild) (.nil calm)
  -- The empty line is read inside the item, where it does what it does outside.
  cases reads.item closed kind items wide with
  | cons after next _ rest =>
      cases rest
      exact next cursor shows

end Completes

end Body
end Reader
end Markdown
end TwinEditor
