import TwinEditor.Proofs.Markdown.SingleLine

/-!
# Documents of inline code

A paragraph with inline code alone comes back from what is written for it exactly if the code is none of
those that reading strips, and its fences are not too long for a reader.
-/

namespace TwinEditor
namespace Markdown

variable {value : List Char}

/-- A run of backticks that is too long to be a fence is text. -/
theorem Reader.readFrom_longRun
    {setting : Setting}
    {before tail : List Char}
    {length : Nat}
    (long : TickMemory.maxRun < length)
    (ends : tail.head? ≠ some '\x60')
    (progress : Progress) :
    readFrom setting before (List.replicate length '\x60' ++ tail) progress =
      readFrom setting ((List.replicate length '\x60').reverse ++ before) tail
        (progress.pushText (List.replicate length '\x60')) := by
  obtain ⟨more, rfl⟩ := Nat.exists_eq_add_of_lt (Nat.zero_lt_of_lt long)
  rw [Nat.zero_add] at long ⊢
  rw [List.replicate_succ]
  refine readFrom_of_readNext_eq ?_
  have isTick : readNext setting before '\x60' (List.replicate more '\x60' ++ tail) progress =
      readBackticks (List.replicate more '\x60' ++ tail) progress := rfl
  have hopeless (distance : Nat) : progress.ticks.isHopeless (more + 1) distance = true := by
    rw [TickMemory.isHopeless, decide_eq_true long, Bool.true_or]
  rw [isTick, readBackticks, takeWhile_replicate_append ends, dropWhile_replicate_append ends,
    List.length_replicate, hopeless]
  rfl

/-! ## The line of some code -/

theorem Node.inlineText_inlineCode (value : String) :
    Node.inlineText false [.inlineCode value] = codeSpan value.toList := by
  simp [Node.inlineText, Node.mergeRuns, Node.appendMerged, Node.consMerged, Node.spans, Node.span,
    Span.join, Span.joinOnto, Span.plain]

theorem mem_codeSpan
    {c : Char}
    (member : c ∈ codeSpan value) :
    c = '\x60' ∨ c = ' ' ∨ c ∈ value := by
  have mem_content {c : Char} (member : c ∈ codeContent value) : c = ' ' ∨ c ∈ value := by
    rw [codeContent] at member
    split at member
    · simpa [or_comm, or_assoc] using member
    · exact .inr member
  by_cases empty : value = []
  · subst empty
    cases member
  · rw [codeSpan_eq empty, List.mem_append, List.mem_append] at member
    rcases member with isTick | member | isTick
    · exact .inl (List.eq_of_mem_replicate isTick)
    · exact .inr (mem_content member)
    · exact .inl (List.eq_of_mem_replicate isTick)

section

variable (some : value ≠ [])
include some

/-- A line of code does not begin with a backtick behind its first fence. -/
theorem head?_codeContent_append_ne (rest : List Char) :
    (codeContent value ++ rest).head? ≠ .some '\x60' := by
  obtain ⟨c, content, cut⟩ := List.exists_cons_of_ne_nil (codeContent_ne_nil some)
  have first := @head?_codeContent_ne value
  rw [cut] at first ⊢
  exact first

/-- Code is a line of its own: its fences open no block, since there are backticks behind the first. -/
theorem isLoneLine_codeSpan
    (kept : ∀ c ∈ value, c ≠ '\n' ∧ isKept c = true) :
    IsLoneLine (codeSpan value) := by
  have characters : ∀ c ∈ codeSpan value, c ≠ '\n' ∧ isKept c = true := by
    intro c member
    rcases mem_codeSpan member with rfl | rfl | member
    · decide
    · decide
    · exact kept c member
  have noFence : Reader.openingFence? (codeSpan value) = none := by
    rw [codeSpan_eq some, List.replicate_succ, List.cons_append, Reader.openingFence?,
      ← List.cons_append, ← List.replicate_succ,
      Reader.dropWhile_replicate_append (head?_codeContent_append_ne some _)]
    simp
  have isLast : (codeSpan value).getLast? = .some '\x60' := by
    rw [codeSpan_eq some, List.replicate_succ', ← List.append_assoc, ← List.append_assoc,
      List.getLast?_concat]
  obtain ⟨rest, begins⟩ : ∃ rest, codeSpan value = '\x60' :: rest := ⟨_, codeSpan_eq some⟩
  rw [begins] at characters noFence isLast ⊢
  obtain ⟨-, others⟩ := List.forall_mem_cons.mp characters
  exact isLoneLine_cons (.inr rfl) noFence (Reader.Body.definition?_eq_none (by decide)) isLast rfl
    (fun member => (others _ member).1 rfl) fun c member => (others c member).2

/-! ## Reading the line -/

theorem trimEnd_codeSpan : Text.trimEnd Text.isAsciiSpace (codeSpan value) = codeSpan value := by
  rw [codeSpan_eq some, List.replicate_succ', ← List.append_assoc, ← List.append_assoc]
  exact Text.trimEnd_concat_of_neg rfl _

/-- Between fences that are not too long, all that is written for some code is read as code. -/
theorem inlineNodes_codeSpan
    (short : Text.longestRun '\x60' value < Reader.TickMemory.maxRun)
    (context : Reader.Block.Context)
    (expanded : Nat) :
    Reader.Block.inlineNodes context false expanded (codeSpan value) =
      ([.inlineCode (String.ofList (Reader.cleanCode (codeContent value)))], expanded) := by
  have reads := @Reader.readsAs_code context.setting true [] []
    (Text.longestRun '\x60' value + 1) (codeContent value) lt_of_isInfix_codeContent
    head?_codeContent_ne getLast?_codeContent_ne (codeContent_ne_nil some) nofun (Nat.succ_pos _) short
  have shows : Reader.Shows false context.options.autolink
      [.code (Reader.cleanCode (codeContent value))]
      [.inlineCode (String.ofList (Reader.cleanCode (codeContent value)))] :=
    (Reader.shows_nil false _).mark rfl rfl
  refine Reader.inlineNodes_of_shows reads shows (by simp) ?_ expanded
  rw [trimEnd_codeSpan some, codeSpan_eq some]

/-- Fences that are too long are read as text. -/
theorem exists_inlineNodes_codeSpan
    (long : Reader.TickMemory.maxRun ≤ Text.longestRun '\x60' value)
    (context : Reader.Block.Context)
    (expanded : Nat) :
    ∃ text nodes, (Reader.Block.inlineNodes context false expanded (codeSpan value)).1 =
      .text text :: nodes := by
  have ends := head?_codeContent_append_ne some
    (List.replicate (Text.longestRun '\x60' value + 1) '\x60')
  have reads := @Reader.readFrom_longRun context.setting [] _ _ (Nat.lt_succ_of_le long) ends
    (.start expanded)
  rw [← codeSpan_eq some] at reads
  obtain ⟨others, first⟩ :=
    Reader.exists_readInlines_eq_cons (trimEnd_codeSpan some) reads List.suffix_rfl
  exact Reader.exists_inlineNodes_eq_text_cons rfl first

end

namespace Tree

section

variable {value : String}
  (some : value ≠ "")
  (kept : ∀ c ∈ value.toList, c ≠ '\n' ∧ isKept c = true)
include some kept

/-- Between fences that are not too long a paragraph with inline code comes back with what reading leaves
of the code. -/
theorem ofMarkdown_toMarkdown_inlineCode
    (short : Text.longestRun '\x60' value.toList < Reader.TickMemory.maxRun)
    (options : Options) :
    ofMarkdown options (Tree.mk [.paragraph [.inlineCode value]]).toMarkdown =
      ⟨[.paragraph [.inlineCode (String.ofList (Reader.cleanCode (codeContent value.toList)))]]⟩ := by
  have filled : value.toList ≠ [] := by simpa using some
  obtain ⟨context, -, -, reads⟩ := exists_ofMarkdown_toMarkdown_eq options
    (Node.inlineText_inlineCode value) (isLoneLine_codeSpan filled kept)
  rw [reads, inlineNodes_codeSpan filled short]

/-- A paragraph with inline code comes back exactly if reading does not strip the code and its fences are
not too long. -/
theorem ofMarkdown_toMarkdown_inlineCode_iff (options : Options) :
    let tree : Tree := ⟨[.paragraph [.inlineCode value]]⟩
    ofMarkdown options tree.toMarkdown = tree ↔ isPlainCode value.toList = true := by
  have filled : value.toList ≠ [] := by simpa using some
  have single : '\n' ∉ value.toList := fun member => (kept _ member).1 rfl
  dsimp only
  rw [isPlainCode_iff]
  by_cases short : Text.longestRun '\x60' value.toList < Reader.TickMemory.maxRun
  · rw [ofMarkdown_toMarkdown_inlineCode some kept short]
    constructor
    · intro same
      refine ⟨filled, single, short, Bool.not_eq_true _ ▸ fun stripped => ?_⟩
      refine cleanCode_codeContent_ne single stripped ?_
      simpa [← String.toList_inj] using same
    · rintro ⟨-, -, -, notStripped⟩
      rw [cleanCode_codeContent single notStripped, String.ofList_toList]
  · obtain ⟨context, -, -, reads⟩ := exists_ofMarkdown_toMarkdown_eq options
      (Node.inlineText_inlineCode value) (isLoneLine_codeSpan filled kept)
    obtain ⟨text, nodes, isText⟩ := exists_inlineNodes_codeSpan filled (Nat.le_of_not_lt short) context 0
    rw [reads, isText]
    simp [short]

end

/-- Code with runs of backticks, a tab between them and spaces at its ends. -/
theorem ofMarkdown_toMarkdown_inlineCode_of_runs :
    let value := " ``a\t``` "
    value ≠ "" ∧ (∀ c ∈ value.toList, c ≠ '\n' ∧ isKept c = true) ∧
      let tree : Tree := ⟨[.paragraph [.inlineCode value]]⟩
      ofMarkdown .all tree.toMarkdown = tree :=
  ⟨by decide, by simp [isKept],
    (ofMarkdown_toMarkdown_inlineCode_iff (by decide) (by simp [isKept]) .all).mpr (by decide)⟩

/-- A tab between two spaces, which reading takes for spaces that writing has added. -/
theorem ofMarkdown_toMarkdown_inlineCode_of_tab :
    let tree : Tree := ⟨[.paragraph [.inlineCode " \t "]]⟩
    ofMarkdown .all tree.toMarkdown = ⟨[.paragraph [.inlineCode "\t"]]⟩ ∧
      ofMarkdown .all tree.toMarkdown ≠ tree := by
  have read := @ofMarkdown_toMarkdown_inlineCode " \t " (by decide) (by simp [isKept])
    (by decide) .all
  rw [show String.ofList (Reader.cleanCode (codeContent " \t ".toList)) = "\t" by decide] at read
  dsimp only
  rw [read]
  simp

end Tree

end Markdown
end TwinEditor
