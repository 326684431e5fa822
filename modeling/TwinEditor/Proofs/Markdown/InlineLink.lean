import TwinEditor.Proofs.Markdown.KeptDestinations
import TwinEditor.Proofs.Markdown.SingleLine

/-!
# Documents of one link

A paragraph with a link around a letter alone comes back from what is written for it exactly if the
destination of the link is one that reading leaves as it is.
-/

namespace TwinEditor
namespace Markdown

open Reader (isControl)

/-- What is written for a link around a letter. -/
def linkLine
    (letter : Char)
    (url : List Char) :
    List Char :=
  '[' :: letter :: ']' :: '(' :: (linkDestination url ++ [')'])

/-! ## Letters -/

section Alphanumeric

variable {letter : Char} (alphanumeric : Text.isAlphanumeric letter = true)
include alphanumeric

theorem isControl_eq_false_of_isAlphanumeric : isControl letter = false := by
  have ascii : ∀ code < 128, isControl (Char.ofNat code) = true →
      (Char.ofNat code).isAlphanum = false := by decide
  refine Bool.eq_false_iff.mpr fun control => ?_
  have low : letter.toNat < 128 := by
    rw [isControl, Bool.or_eq_true, decide_eq_true_eq, beq_iff_eq] at control
    omega
  have other := ascii letter.toNat low
  rw [Char.ofNat_toNat] at other
  rw [Text.isAlphanumeric, if_pos low, other control] at alphanumeric
  cases alphanumeric

theorem notMem_inlineOpeners_of_isAlphanumeric : letter ∉ Reader.inlineOpeners := by
  intro member
  simp only [Reader.inlineOpeners, List.mem_cons, List.not_mem_nil, or_false] at member
  rcases member with rfl | rfl | rfl | rfl | rfl | rfl | rfl | rfl | rfl | rfl | rfl
  all_goals cases alphanumeric

end Alphanumeric

/-! ## The line of a link -/

theorem linkLine_eq_concat
    (letter : Char)
    (url : List Char) :
    linkLine letter url = '[' :: letter :: ']' :: '(' :: linkDestination url ++ [')'] :=
  rfl

theorem trimEnd_linkLine
    (letter : Char)
    (url : List Char) :
    Text.trimEnd Text.isAsciiSpace (linkLine letter url) = linkLine letter url := by
  rw [linkLine_eq_concat]
  exact Text.trimEnd_concat_of_neg rfl _

theorem isKept_of_isControl_eq_false
    {c : Char}
    (visible : isControl c = false) :
    isKept c = true := by
  rw [isControl, Bool.or_eq_false_iff, decide_eq_false_iff_not] at visible
  have noReturn : c ≠ '\r' := by
    rintro rfl
    exact visible.1 (by decide)
  have noNul : c.toNat ≠ 0 := by omega
  rw [isKept, bne_iff_ne.mpr noReturn, bne_iff_ne.mpr noNul]
  rfl

theorem isControl_eq_false_of_mem_linkDestination
    {url : List Char}
    (noControl : ∀ c ∈ url, isControl c = false) :
    ∀ c ∈ linkDestination url, isControl c = false := by
  have escaped : ∀ c ∈ Reader.escapeBrackets url, isControl c = false := by
    induction url with
    | nil => exact nofun
    | cons d rest inductionHypothesis =>
        obtain ⟨first, others⟩ := List.forall_mem_cons.mp noControl
        rw [Reader.escapeBrackets_cons, List.forall_mem_append]
        refine ⟨?_, inductionHypothesis others⟩
        split
        · exact List.forall_mem_cons.mpr ⟨rfl, List.forall_mem_singleton.mpr first⟩
        · exact List.forall_mem_singleton.mpr first
  rw [linkDestination]
  split
  · refine List.forall_mem_cons.mpr ⟨rfl, List.forall_mem_append.mpr ⟨escaped, ?_⟩⟩
    exact List.forall_mem_singleton.mpr rfl
  · exact noControl

/-- What is shown for a link that is read. -/
theorem Reader.Inline.toNode_link
    (letter : Char)
    (destination : List Char)
    (autolink : Bool) :
    (settle autolink (.link destination [.text [letter]])).toNode =
      .link (String.ofList destination) [.text (String.singleton letter)] := by
  have children : toNodes [.text [letter]] = [.text (String.singleton letter)] := by
    have separate : ∀ value rest, toNodes [] ≠ .text value :: rest := fun _ _ same => by cases same
    rw [toNodes, toNode, consNode_text separate]
    exact if_neg (by simp)
  rw [settle, toNode, children]
  all_goals exact fun _ same => by cases same

section Line

variable {letter : Char} {url : List Char} (plain : letter ∉ Reader.inlineOpeners)
include plain

theorem escape_letter : Escape.text false [letter] = [letter] := by
  simp only [Reader.inlineOpeners, List.mem_cons, List.not_mem_nil, or_false, not_or] at plain
  simp [Escape.text, Escape.isSpecial, plain]

theorem Node.inlineText_link (url : String) :
    Node.inlineText false [.link url [.text (String.singleton letter)]] = linkLine letter url.toList := by
  simp [Node.inlineText, Node.mergeRuns, Node.appendMerged, Node.consMerged, Node.spans, Node.span,
    Span.join, Span.joinOnto, Span.plain, escape_letter plain, linkLine]

/-- A link begins no definition, since no colon stands behind its text. -/
theorem Reader.definition?_letter (behind : List Char) :
    definition? ('[' :: letter :: ']' :: '(' :: behind) = none := by
  simp only [Reader.inlineOpeners, List.mem_cons, List.not_mem_nil, or_false, not_or] at plain
  have content : labelContent? (letter :: ']' :: '(' :: behind) = some ([letter], '(' :: behind) := by
    rw [labelContent?, labelContent?]
    · rfl
    all_goals grind
  have short : utf8Length [letter] ≤ labelLimit := by
    rw [utf8Length, List.foldl_cons, List.foldl_nil, Nat.zero_add]
    exact Nat.le_trans letter.utf8Size_le_four (by decide)
  have label : label? ('[' :: letter :: ']' :: '(' :: behind) =
      some (Text.trim Text.isAsciiSpace [letter], '(' :: behind) := by
    rw [label?, content]
    exact if_pos short
  rw [definition?, label]
  dsimp only [Option.bind_eq_bind, Option.bind_some]
  split <;> rfl

/-- A link is a line of its own. -/
theorem isLoneLine_linkLine
    (visible : isControl letter = false)
    (noControl : ∀ c ∈ url, isControl c = false) :
    IsLoneLine (linkLine letter url) := by
  have inside : ∀ c ∈ letter :: ']' :: '(' :: (linkDestination url ++ [')']), isControl c = false := by
    refine List.forall_mem_cons.mpr ⟨visible, List.forall_mem_cons.mpr ⟨rfl,
      List.forall_mem_cons.mpr ⟨rfl, List.forall_mem_append.mpr ⟨?_, ?_⟩⟩⟩⟩
    · exact isControl_eq_false_of_mem_linkDestination noControl
    · exact List.forall_mem_singleton.mpr rfl
  have isLast : (linkLine letter url).getLast? = some ')' := by
    rw [linkLine_eq_concat, List.getLast?_concat]
  exact isLoneLine_cons (.inl rfl) (Reader.openingFence?_eq_none (by decide) (by decide))
    (Reader.definition?_letter plain _) isLast rfl (fun member => by cases inside _ member)
    fun c member => isKept_of_isControl_eq_false (inside c member)

/-! ## Reading the line -/

namespace Reader

/-- What has been read of a link up to the bracket behind its letter. -/
def atLetter
    (letter : Char)
    (source : List Char)
    (expanded : Nat) :
    Progress :=
  ((Progress.start expanded).openBracket false source).pushText [letter]

theorem readFrom_letter
    (setting : Setting)
    (target : List Char)
    (expanded : Nat) :
    readFrom setting [] ('[' :: letter :: ']' :: target) (.start expanded) =
      readFrom setting [letter, '['] (']' :: target)
        (atLetter letter (letter :: ']' :: target) expanded) := by
  have text : readText setting letter ([] ++ ']' :: target)
      ((Progress.start expanded).openBracket false (letter :: ']' :: target)) =
        (0, atLetter letter (letter :: ']' :: target) expanded) := by
    refine readText_eq rfl (fun c isFirst => ?_) (by simp) nofun
    obtain rfl := Option.some.inj isFirst
    rfl
  have opening : readNext setting [] '[' (letter :: ']' :: target) (.start expanded) =
      (0, (Progress.start expanded).openBracket false (letter :: ']' :: target)) := rfl
  rw [readFrom_of_readNext opening]
  exact readFrom_of_readNext ((readNext_of_safe plain).trans text)

section Target

variable {setting : Setting} {target destination rest : List Char} (expanded : Nat)

/-- If no target stands behind its letter a link begins with a bracket as text. -/
theorem exists_readFrom_of_noTarget
    (noDefinition : setting.definitions = [])
    (noTarget : parenthesizedTarget? target = none) :
    ∃ before progress, readFrom setting [] ('[' :: letter :: ']' :: target) (.start expanded) =
      readFrom setting before target progress ∧
      [.node (.text ['['])] <:+ Progress.outermost progress.pieces progress.openers := by
  have closing := @readNext_closeBracket_of_noTarget setting [letter, '['] _ _ target
    (atLetter letter (letter :: ']' :: target) expanded) rfl noDefinition noTarget
  refine ⟨_, _, (readFrom_letter plain setting target expanded).trans (readFrom_of_readNext closing), ?_⟩
  exact ⟨[.node (.text [']']), .node (.text [letter])], rfl⟩

/-- If a target stands behind its letter a link is read with the destination there. -/
theorem exists_readFrom_of_target
    (found : parenthesizedTarget? target = some (destination, rest)) :
    ∃ before progress, readFrom setting [] ('[' :: letter :: ']' :: target) (.start expanded) =
      readFrom setting before (target.drop (target.length - rest.length)) progress ∧
      progress.pieces = [.node (.link destination [.text [letter]])] ∧ progress.openers = [] := by
  have closing := @readNext_closeBracket setting [letter, '['] _ _ _ _ _
    (atLetter letter (letter :: ']' :: target) expanded) rfl rfl found
  have content : Piece.pair [.node (.text [letter])] = [.text [letter]] := (resolves_node _).pair_eq
  rw [readFrom_letter plain, readFrom, closing]
  refine ⟨_, _, rfl, ?_, rfl⟩
  rw [← content]
  rfl

end Target

end Reader

/-! ## The nodes of the line -/

section Nodes

variable {destination rest : List Char} (context : Reader.Block.Context)

theorem exists_inlineNodes_linkLine_of_noTarget
    (noDefinition : context.setting.definitions = [])
    (noTarget : Reader.parenthesizedTarget? ('(' :: (linkDestination url ++ [')'])) = none) :
    ∃ text nodes, (Reader.Block.inlineNodes context false 0 (linkLine letter url)).1 =
      .text text :: nodes := by
  obtain ⟨before, progress, reads, first⟩ :=
    Reader.exists_readFrom_of_noTarget plain 0 noDefinition noTarget
  obtain ⟨others, begins⟩ :=
    Reader.exists_readInlines_eq_cons (trimEnd_linkLine letter url) reads first
  exact Reader.exists_inlineNodes_eq_text_cons rfl begins

theorem exists_inlineNodes_linkLine_of_target
    (found : Reader.parenthesizedTarget? ('(' :: (linkDestination url ++ [')'])) =
      some (destination, rest)) :
    ∃ nodes, (Reader.Block.inlineNodes context false 0 (linkLine letter url)).1 =
      .link (String.ofList destination) [.text (String.singleton letter)] :: nodes := by
  obtain ⟨before, progress, reads, pieces, openers⟩ :=
    @Reader.exists_readFrom_of_target _ plain context.setting _ _ _ 0 found
  have first : [.node (.link destination [.text [letter]])] <:+
      Reader.Progress.outermost progress.pieces progress.openers := by
    rw [pieces, openers]
    exact List.suffix_rfl
  obtain ⟨others, begins⟩ :=
    Reader.exists_readInlines_eq_cons (trimEnd_linkLine letter url) reads first
  rw [← Reader.Inline.toNode_link letter destination context.options.autolink]
  exact Reader.exists_inlineNodes_eq_cons_of_isMark rfl begins

theorem inlineNodes_linkLine
    (found : Reader.parenthesizedTarget? ('(' :: (linkDestination url ++ [')'])) =
      some (destination, [])) :
    (Reader.Block.inlineNodes context false 0 (linkLine letter url)).1 =
      [.link (String.ofList destination) [.text (String.singleton letter)]] := by
  obtain ⟨before, progress, reads, pieces, openers⟩ :=
    @Reader.exists_readFrom_of_target _ plain context.setting _ _ _ 0 found
  rw [List.length_nil, Nat.sub_zero, List.drop_length, Reader.readFrom] at reads
  have whole : (Reader.readInlines context.setting 0 (linkLine letter url)).1 =
      [.link destination [.text [letter]]] := by
    rw [Reader.readInlines, trimEnd_linkLine]
    have finished : progress.finish = [.link destination [.text [letter]]] := by
      rw [Reader.Progress.finish, pieces, openers]
      exact (Reader.resolves_node _).pair_eq
    rw [← finished, ← reads]
    rfl
  have shows := (Reader.shows_nil false context.options.autolink).mark
    (show (Reader.Inline.link destination [.text [letter]]).isMark = true from rfl)
    (Reader.Inline.toNode_link letter destination context.options.autolink)
  rw [Reader.inlineNodes_eq, whole, shows.toNodes_eq]

end Nodes

end Line

/-! ## Documents -/

namespace Tree

section

variable {letter : Char} {url : String}
  (alphanumeric : Text.isAlphanumeric letter = true)
  (noControl : ∀ c ∈ url.toList, isControl c = false)
include alphanumeric noControl

/-- A paragraph with a link around a letter is read as one of what is read of its line. -/
theorem exists_ofMarkdown_toMarkdown_link_eq (options : Options) :
    ∃ context : Reader.Block.Context, context.setting.definitions = [] ∧
      ofMarkdown options (Tree.mk [.paragraph [.link url [.text (String.singleton letter)]]]).toMarkdown =
        ⟨[.paragraph (Reader.Block.inlineNodes context false 0 (linkLine letter url.toList)).1]⟩ := by
  have plain := notMem_inlineOpeners_of_isAlphanumeric alphanumeric
  have isLine := isLoneLine_linkLine plain (isControl_eq_false_of_isAlphanumeric alphanumeric) noControl
  obtain ⟨context, -, noDefinition, reads⟩ :=
    exists_ofMarkdown_toMarkdown_eq options (Node.inlineText_link plain url) isLine
  exact ⟨context, noDefinition, reads⟩

/-- A paragraph with a link around a letter comes back with the destination that is read. -/
theorem ofMarkdown_toMarkdown_link
    {destination : List Char}
    (found : Reader.parenthesizedTarget? ('(' :: (linkDestination url.toList ++ [')'])) =
      some (destination, []))
    (options : Options) :
    ofMarkdown options (Tree.mk [.paragraph [.link url [.text (String.singleton letter)]]]).toMarkdown =
      ⟨[.paragraph [.link (String.ofList destination) [.text (String.singleton letter)]]]⟩ := by
  have plain := notMem_inlineOpeners_of_isAlphanumeric alphanumeric
  obtain ⟨context, -, reads⟩ := exists_ofMarkdown_toMarkdown_link_eq alphanumeric noControl options
  rw [reads, inlineNodes_linkLine plain context found]

/-- If it comes back as it was, the destination of the link is a target behind the letter. -/
theorem exists_parenthesizedTarget?_eq
    {options : Options}
    (same : let tree : Tree := ⟨[.paragraph [.link url [.text (String.singleton letter)]]]⟩
      ofMarkdown options tree.toMarkdown = tree) :
    ∃ rest, Reader.parenthesizedTarget? ('(' :: (linkDestination url.toList ++ [')'])) =
      some (url.toList, rest) := by
  have plain := notMem_inlineOpeners_of_isAlphanumeric alphanumeric
  obtain ⟨context, noDefinition, reads⟩ :=
    exists_ofMarkdown_toMarkdown_link_eq alphanumeric noControl options
  have nodes := congrArg Tree.children (same.symm.trans reads)
  -- What is read first shows which target was found, whatever is left of the line behind it.
  cases found : Reader.parenthesizedTarget? ('(' :: (linkDestination url.toList ++ [')'])) with
  | none =>
      obtain ⟨text, others, isText⟩ :=
        exists_inlineNodes_linkLine_of_noTarget plain context noDefinition found
      rw [isText] at nodes
      cases nodes
  | some target =>
      obtain ⟨destination, rest⟩ := target
      obtain ⟨others, isLink⟩ := exists_inlineNodes_linkLine_of_target plain context found
      rw [isLink] at nodes
      have sameUrl : url = String.ofList destination := by
        injection nodes with first
        injection first with children
        injection children with link
        injection link
      exact ⟨rest, by rw [sameUrl, String.toList_ofList]⟩

/-- A paragraph with a link around a letter comes back exactly if reading keeps the destination of the
link. -/
theorem ofMarkdown_toMarkdown_link_iff (options : Options) :
    let tree : Tree := ⟨[.paragraph [.link url [.text (String.singleton letter)]]]⟩
    ofMarkdown options tree.toMarkdown = tree ↔ Reader.isKeptDestination url.toList = true := by
  dsimp only
  constructor
  · intro same
    obtain ⟨rest, found⟩ := exists_parenthesizedTarget?_eq alphanumeric noControl same
    exact Reader.isKeptDestination_of_parenthesizedTarget? noControl found
  · intro kept
    have found := Reader.parenthesizedTarget?_of_isKeptDestination noControl kept []
    rw [ofMarkdown_toMarkdown_link alphanumeric noControl found, String.ofList_toList]

end

/-- A destination with spaces, parentheses, angle brackets, quotes, a backslash and an ampersand. -/
theorem ofMarkdown_toMarkdown_link_of_marks :
    let url := "a\\b (c) <d> & \"e\""
    Text.isAlphanumeric 'x' = true ∧ (∀ c ∈ url.toList, isControl c = false) ∧
      let tree : Tree := ⟨[.paragraph [.link url [.text (String.singleton 'x')]]]⟩
      ofMarkdown .all tree.toMarkdown = tree :=
  ⟨by decide, by simp [isControl],
    (ofMarkdown_toMarkdown_link_iff (by decide) (by simp [isControl]) .all).mpr (by decide)⟩

/-- A backslash before punctuation, which is written as it is and which reading takes for an escape. -/
theorem ofMarkdown_toMarkdown_link_of_backslash :
    let tree : Tree := ⟨[.paragraph [.link "\\*" [.text (String.singleton 'x')]]]⟩
    ofMarkdown .all tree.toMarkdown = ⟨[.paragraph [.link "*" [.text (String.singleton 'x')]]]⟩ ∧
      ofMarkdown .all tree.toMarkdown ≠ tree := by
  have read := @ofMarkdown_toMarkdown_link 'x' "\\*" (by decide) (by simp [isControl]) ['*']
    (by decide) .all
  dsimp only
  rw [read]
  simp

end Tree

end Markdown
end TwinEditor
