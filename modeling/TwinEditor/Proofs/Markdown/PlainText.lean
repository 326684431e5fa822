import TwinEditor.Proofs.Markdown.LongReferences
import TwinEditor.Markdown.Reader.Document

/-!
# Reading escaped text

A line spells another if it reads as the text of that line and nothing else: what could begin markup
stands behind a backslash. Only long references, which are not escaped, are replaced by their characters.
-/

namespace TwinEditor
namespace Text

theorem isAsciiSpace_eq_false
    {c : Char}
    (visible : isBlank c = false) :
    isAsciiSpace c = false :=
  Bool.eq_false_iff.mpr fun isSpace =>
    Bool.eq_false_iff.mp visible (isBlank_of_isAsciiSpace isSpace)

theorem isSpaceOrTab_eq_false
    {c : Char}
    (visible : isBlank c = false) :
    isSpaceOrTab c = false :=
  Bool.eq_false_iff.mpr fun isSpace =>
    Bool.eq_false_iff.mp (isAsciiSpace_eq_false visible) (isAsciiSpace_of_isSpaceOrTab isSpace)

end Text

namespace Markdown
namespace Reader

/-- The characters that may begin markup inside a line if they do not stand behind a backslash. -/
def inlineOpeners : List Char :=
  ['\n', '\x60', '\\', '&', '<', '[', ']', '!', '*', '_', '~']

theorem notMem_inlineOpeners_of_isAlphanum
    {c : Char}
    (alphanumeric : c.isAlphanum = true) :
    c ∉ inlineOpeners := by
  intro member
  simp only [inlineOpeners, List.mem_cons, List.not_mem_nil, or_false] at member
  rcases member with rfl | rfl | rfl | rfl | rfl | rfl | rfl | rfl | rfl | rfl | rfl
  all_goals cases alphanumeric

/-- A long reference holds nothing that begins markup. -/
theorem IsLongReference.notMem_inlineOpeners
    {body : List Char}
    {c : Char}
    (isLong : IsLongReference body c) :
    ∀ d ∈ body ++ [';'], d ∉ inlineOpeners :=
  isLong.forall_mem (by decide) (by decide) fun _ => notMem_inlineOpeners_of_isAlphanum

/-- A written line and the line that it reads as, but for its long references. Exclamation marks need no
backslash, since no bracket stands behind one without its own; ampersands need one only in front of what
looks to a writer like the rest of a character reference. -/
inductive Spells : List Char → List Char → Prop
  | nil : Spells [] []
  | plain
      {c : Char}
      {written line : List Char}
      (safe : c ∉ inlineOpeners)
      (rest : Spells written line) :
      Spells (c :: written) (c :: line)
  | escaped
      {c : Char}
      {written line : List Char}
      (punctuation : Text.isAsciiPunctuation c = true)
      (noLong : (c == '&' && (longReference? line).isSome) = false)
      (rest : Spells written line) :
      Spells ('\\' :: c :: written) (c :: line)
  | exclamation
      {written line : List Char}
      (rest : Spells written line) :
      Spells ('!' :: written) ('!' :: line)
  | ampersand
      {written line : List Char}
      (noReference : Escape.isReferenceTail written = false)
      (sameLong : longReference? written = longReference? line)
      (rest : Spells written line) :
      Spells ('&' :: written) ('&' :: line)

namespace Spells

variable {written line : List Char}

/-- Neither a line feed nor a bracket that opens a link begins a line spelled so. -/
theorem head?_ne
    (spells : Spells written line)
    {opener : Char}
    (excluded : opener ∈ ['\n', '[']) :
    written.head? ≠ some opener := by
  have other {c : Char} (notOpener : c ∉ ['\n', '[']) : some c ≠ some opener := by
    intro same
    obtain rfl := Option.some.inj same
    exact notOpener excluded
  cases spells with
  | nil => exact nofun
  | plain safe rest =>
      simp only [inlineOpeners, List.mem_cons, not_or] at safe
      exact other (by simp [safe])
  | escaped punctuation noLong rest => exact other (by decide)
  | exclamation rest => exact other (by decide)
  | ampersand noReference sameLong rest => exact other (by decide)

theorem eq_nil
    (spells : Spells [] line) :
    line = [] := by
  cases spells
  rfl

theorem getLast?_eq
    (spells : Spells written line) :
    written.getLast? = line.getLast? := by
  induction spells with
  | nil => rfl
  | plain safe rest inductionHypothesis =>
      rw [List.getLast?_cons, List.getLast?_cons, inductionHypothesis]
  | escaped punctuation noLong rest inductionHypothesis =>
      rw [List.getLast?_cons, List.getLast?_cons, List.getLast?_cons, inductionHypothesis]
      rfl
  | exclamation rest inductionHypothesis =>
      rw [List.getLast?_cons, List.getLast?_cons, inductionHypothesis]
  | ampersand noReference sameLong rest inductionHypothesis =>
      rw [List.getLast?_cons, List.getLast?_cons, inductionHypothesis]

theorem newline_notMem
    {written line : List Char}
    (spells : Spells written line) :
    '\n' ∉ written := by
  induction spells with
  | nil => exact List.not_mem_nil
  | plain safe rest inductionHypothesis =>
      rw [List.mem_cons, not_or]
      exact ⟨fun same => safe (same ▸ by decide), inductionHypothesis⟩
  | escaped punctuation noLong rest inductionHypothesis =>
      rw [List.mem_cons, List.mem_cons, not_or, not_or]
      exact ⟨by decide, fun same => by simp [← same, Text.isAsciiPunctuation] at punctuation,
        inductionHypothesis⟩
  | exclamation rest inductionHypothesis | ampersand _ _ rest inductionHypothesis =>
      rw [List.mem_cons, not_or]
      exact ⟨by decide, inductionHypothesis⟩

/-- A written line begins with a stretch of plain text, which is read at once, up to its end or to the
next character that may begin something else. -/
theorem exists_plain
    (spells : Spells written line)
    (setting : Setting) :
    ∃ start written' line', written = start ++ written' ∧ line = start ++ line' ∧
      Spells written' line' ∧ start.all (!setting.isSpecial ·) = true ∧
      ∀ c ∈ written'.head?, setting.isSpecial c = true := by
  induction spells with
  | nil => exact ⟨[], [], [], rfl, rfl, .nil, rfl, nofun⟩
  | @plain c written line safe rest inductionHypothesis =>
      obtain ⟨start, written', line', rfl, rfl, spells, plain, special⟩ := inductionHypothesis
      have isPlain : setting.isSpecial c = false := by
        simp only [inlineOpeners, List.mem_cons, not_or] at safe
        simp [Setting.isSpecial, safe]
      refine ⟨c :: start, written', line', rfl, rfl, spells, ?_, special⟩
      rw [List.all_cons, isPlain, plain]
      rfl
  | escaped punctuation noLong rest =>
      exact ⟨[], _, _, rfl, rfl, .escaped punctuation noLong rest, rfl, fun c same => by
        obtain rfl := Option.some.inj same
        rfl⟩
  | exclamation rest =>
      exact ⟨[], _, _, rfl, rfl, .exclamation rest, rfl, fun c same => by
        obtain rfl := Option.some.inj same
        rfl⟩
  | ampersand noReference sameLong rest =>
      exact ⟨[], _, _, rfl, rfl, .ampersand noReference sameLong rest, rfl, fun c same => by
        obtain rfl := Option.some.inj same
        rfl⟩

theorem append_iff
    {start written line : List Char}
    (safe : ∀ c ∈ start, c ∉ inlineOpeners) :
    Spells (start ++ written) line ↔ ∃ line', line = start ++ line' ∧ Spells written line' := by
  induction start generalizing line with
  | nil => simp
  | cons c rest inductionHypothesis =>
      obtain ⟨first, others⟩ := List.forall_mem_cons.mp safe
      constructor
      · intro spells
        rw [List.cons_append] at spells
        generalize same : rest ++ written = behind at spells
        cases spells with
        | plain _ spells =>
            subst same
            obtain ⟨line', rfl, isSpelled⟩ := (inductionHypothesis others).mp spells
            exact ⟨line', rfl, isSpelled⟩
        | escaped | exclamation | ampersand => exact absurd (by decide) first
      · rintro ⟨line', rfl, spells⟩
        exact .plain first ((inductionHypothesis others).mpr ⟨line', rfl, spells⟩)

end Spells

/-! ## Reading one line -/

/-- What may stand behind a stretch of text: the end, or a character at which plain text stops. Text at
the end of a line ends with a visible character, and text before a bracket not with an exclamation
mark. -/
structure EndsText
    (setting : Setting)
    (line tail : List Char) : Prop where
  special : ∀ c ∈ tail.head?, setting.isSpecial c = true
  separates : Separates tail
  noImage : tail.head? = some '[' → line.getLast? ≠ some '!'
  visible : tail.head? = some '\n' → ∀ c ∈ line.getLast?, Text.isAsciiSpace c = false

theorem EndsLine.endsText
    {setting : Setting}
    {line tail : List Char}
    (ends : EndsLine tail)
    (visible : ∀ c ∈ line.getLast?, Text.isAsciiSpace c = false) :
    EndsText setting line tail := by
  refine ⟨fun c isFirst => by rw [ends c isFirst]; rfl, ends.separates, fun isBracket => ?_,
    fun _ => visible⟩
  cases ends '[' isBracket

/-- What may stand behind a text may stand behind the last part of it. -/
theorem EndsText.of_append
    {setting : Setting}
    {first line tail : List Char}
    (ends : EndsText setting (first ++ line) tail) :
    EndsText setting line tail := by
  have last {c : Char} (isLast : line.getLast? = some c) : (first ++ line).getLast? = some c := by
    rw [List.getLast?_append, isLast]
    rfl
  exact ⟨ends.special, ends.separates, fun isBracket isLast => ends.noImage isBracket (last isLast),
    fun newline c isLast => ends.visible newline c (last isLast)⟩

/-- Add several nodes. -/
def Progress.pushNodes (nodes : List Inline) (progress : Progress) : Progress :=
  { progress with pieces := (nodes.map Piece.node).reverse ++ progress.pieces }

theorem Progress.pushNodes_pushNode
    (node : Inline)
    (nodes : List Inline)
    (progress : Progress) :
    (progress.pushNode node).pushNodes nodes = progress.pushNodes (node :: nodes) := by
  simp [pushNodes, pushNode, push]

section Line

variable {setting : Setting} {before after tail written line : List Char} {c : Char}
  {progress : Progress}

theorem readNext_of_safe
    (safe : c ∉ inlineOpeners) :
    readNext setting before c after progress = readText setting c after progress := by
  simp only [inlineOpeners, List.mem_cons, not_or] at safe
  simp [readNext, safe]

theorem readNext_backslash
    (punctuation : Text.isAsciiPunctuation c = true) :
    readNext setting before '\\' (c :: after) progress = (1, progress.pushText [c]) := by
  simp [readNext, readBackslash, punctuation]

theorem readNext_exclamation
    (noBracket : after.head? ≠ some '[') :
    readNext setting before '!' after progress = (0, progress.pushText ['!']) := by
  cases after with
  | nil => simp [readNext]
  | cons d rest =>
      have other : d ≠ '[' := fun same => noBracket (congrArg some same)
      simp [readNext, other]

theorem readNext_ampersand
    (noReference : Escape.isReferenceTail after = false) :
    readNext setting before '&' after progress =
      match longReference? after with
      | some d => (10, progress.pushText [d])
      | none => (0, progress.pushText ['&']) := by
  simp only [readNext, characterReference?_eq_longReference? noReference]
  cases longReference? after <;> rfl

/-- A character behind which nothing is read along. -/
theorem readFrom_of_readNext
    {next : Progress}
    (single : readNext setting before c after progress = (0, next)) :
    readFrom setting before (c :: after) progress = readFrom setting (c :: before) after next := by
  rw [readFrom, single]
  rfl

/-- A long reference is read as its character. -/
theorem readFrom_longReference
    {body : List Char}
    (isLong : IsLongReference body c) :
    readFrom setting before ('&' :: (body ++ [';']) ++ after) progress =
      readFrom setting (('&' :: (body ++ [';'])).reverse ++ before) after (progress.pushText [c]) := by
  have other : Escape.isReferenceTail (body ++ ';' :: after) = false :=
    Bool.eq_false_iff.mpr fun seen => by
      have none := longReference?_eq_none seen
      rw [isLong.reads] at none
      cases none
  have length : (body ++ [';']).length = 10 := by simp [isLong.length_eq]
  have cut : body ++ [';'] ++ after = body ++ ';' :: after := (List.append_cons body ';' after).symm
  have next := @readNext_ampersand setting before _ progress other
  rw [isLong.reads] at next
  rw [List.cons_append, readFrom, cut, next, ← cut]
  dsimp only
  rw [List.take_left' length, List.drop_left' length, List.reverse_cons, List.append_assoc,
    List.singleton_append]

/-- White space at the end of a line would go, and so would white space behind a hard break, but the
characters there are visible. -/
theorem readText_eq
    {start : List Char}
    (plain : start.all (!setting.isSpecial ·) = true)
    (special : ∀ d ∈ after.head?, setting.isSpecial d = true)
    (visible : after.head? = some '\n' → ∀ d ∈ (c :: start).getLast?, Text.isAsciiSpace d = false)
    (begins : progress.endsInHardBreak = true → Text.isAsciiSpace c = false) :
    readText setting c (start ++ after) progress = (start.length, progress.pushText (c :: start)) := by
  have run : (start ++ after).takeWhile (!setting.isSpecial ·) = start := by
    rw [List.takeWhile_append_of_pos (List.all_eq_true.mp plain)]
    cases after with
    | nil => exact List.append_nil start
    | cons d rest => rw [List.takeWhile_cons_of_neg (by simp [special d rfl]), List.append_nil]
  have kept : (if after.head? = some '\n' then Text.trimEnd Text.isAsciiSpace (c :: start)
      else c :: start) = c :: start :=
    ite_eq_right_iff.mpr fun newline => Text.trimEnd_eq_self (visible newline)
  have whole : (if progress.endsInHardBreak then Text.trimStart Text.isAsciiSpace (c :: start)
      else c :: start) = c :: start :=
    ite_eq_right_iff.mpr fun behindBreak => Text.trimStart_eq_self fun d isFirst => by
      obtain rfl := Option.some.inj isFirst
      exact begins behindBreak
  rw [readText, run, List.drop_left, kept, whole]

end Line

/-- Whether what is written for a line is read as pieces of text. -/
def IsReadAs
    (setting : Setting)
    (written line : List Char)
    (texts : List (List Char)) : Prop :=
  ∀ (before tail : List Char) (progress : Progress),
    EndsText setting line tail →
    (progress.endsInHardBreak = true → ∀ c ∈ line.head?, Text.isAsciiSpace c = false) →
      readFrom setting before (written ++ tail) progress =
        readFrom setting (written.reverse ++ before) tail (progress.pushNodes (texts.map Inline.text))

/-- A line is read as pieces of text if its start is read as one, and what stands behind that as others. -/
theorem IsReadAs.step
    {setting : Setting}
    {spelled start written line : List Char}
    {texts : List (List Char)}
    {c : Char}
    {piece : List Char}
    (rest : IsReadAs setting written line texts)
    (reads : ∀ (before tail : List Char) (progress : Progress),
      EndsText setting (c :: start ++ line) tail →
      (progress.endsInHardBreak = true → Text.isAsciiSpace c = false) →
      readFrom setting before (spelled ++ (written ++ tail)) progress =
        readFrom setting (spelled.reverse ++ before) (written ++ tail) (progress.pushText piece))
    (some : piece ≠ []) :
    IsReadAs setting (spelled ++ written) (c :: start ++ line) (piece :: texts) := by
  intro before tail progress ends begins
  obtain ⟨d, others, rfl⟩ := List.exists_cons_of_ne_nil some
  have after := rest (spelled.reverse ++ before) tail (progress.pushText (d :: others)) ends.of_append
    nofun
  rw [List.append_assoc, reads before tail progress ends fun behindBreak => begins behindBreak c rfl,
    after, Progress.pushText, Progress.pushNodes_pushNode, List.reverse_append, List.append_assoc]
  rfl

section Steps

variable {setting : Setting} {written line : List Char} {texts : List (List Char)} {c : Char}

/-- A stretch of plain text is read at once. -/
theorem IsReadAs.plain
    {start : List Char}
    (rest : IsReadAs setting written line texts)
    (safe : c ∉ inlineOpeners)
    (plain : start.all (!setting.isSpecial ·) = true)
    (spells : Spells written line)
    (special : ∀ d ∈ written.head?, setting.isSpecial d = true) :
    IsReadAs setting (c :: start ++ written) (c :: start ++ line) ((c :: start) :: texts) := by
  refine rest.step (fun before tail progress ends begins => ?_) (List.cons_ne_nil c start)
  have stops : ∀ d ∈ (written ++ tail).head?, setting.isSpecial d = true := by
    cases written with
    | nil => exact ends.special
    | cons d others => exact special
  have ended : (written ++ tail).head? = some '\n' →
      ∀ d ∈ (c :: start).getLast?, Text.isAsciiSpace d = false := by
    intro newline
    cases written with
    | nil =>
        have visible := ends.visible newline
        rwa [spells.eq_nil, List.append_nil] at visible
    | cons d others => exact absurd newline (spells.head?_ne (by decide))
  rw [List.cons_append, readFrom, readNext_of_safe safe, readText_eq plain stops ended begins]
  dsimp only
  rw [List.take_left, List.drop_left, List.reverse_cons, List.append_assoc]
  rfl

theorem IsReadAs.escaped
    (rest : IsReadAs setting written line texts)
    (punctuation : Text.isAsciiPunctuation c = true) :
    IsReadAs setting ('\\' :: c :: written) (c :: line) ([c] :: texts) := by
  refine @IsReadAs.step setting ['\\', c] [] written line texts c [c] rest
    (fun before tail progress _ _ => ?_) (List.cons_ne_nil c [])
  rw [List.cons_append, List.singleton_append, readFrom, readNext_backslash punctuation]
  rfl

theorem IsReadAs.exclamation
    (rest : IsReadAs setting written line texts)
    (spells : Spells written line) :
    IsReadAs setting ('!' :: written) ('!' :: line) (['!'] :: texts) := by
  refine @IsReadAs.step setting ['!'] [] written line texts '!' ['!'] rest
    (fun before tail progress ends _ => ?_) (List.cons_ne_nil '!' [])
  have noBracket : (written ++ tail).head? ≠ some '[' := by
    cases written with
    | nil =>
        refine fun isBracket => ends.noImage isBracket ?_
        rw [spells.eq_nil]
        rfl
    | cons d others => exact spells.head?_ne (by decide)
  exact readFrom_of_readNext (readNext_exclamation noBracket)

/-- An ampersand behind which no reference goes on is text. -/
theorem IsReadAs.ampersand
    (rest : IsReadAs setting written line texts)
    (noReference : Escape.isReferenceTail written = false)
    (noLong : longReference? written = none) :
    IsReadAs setting ('&' :: written) ('&' :: line) (['&'] :: texts) := by
  refine @IsReadAs.step setting ['&'] [] written line texts '&' ['&'] rest
    (fun before tail progress ends _ => ?_) (List.cons_ne_nil '&' [])
  refine readFrom_of_readNext ((readNext_ampersand
    ((isReferenceTail_append ends.separates written).trans noReference)).trans ?_)
  rw [longReference?_append ends.separates, noLong]

theorem IsReadAs.longReference
    {body : List Char}
    (rest : IsReadAs setting written line texts)
    (isLong : IsLongReference body c) :
    IsReadAs setting ('&' :: (body ++ [';']) ++ written) ('&' :: (body ++ [';']) ++ line)
      ([c] :: texts) :=
  rest.step (fun _ _ _ _ _ => readFrom_longReference isLong) (List.cons_ne_nil c [])

end Steps

/-- A line is read as the text that it spells, with its long references replaced. -/
theorem exists_isReadAs_of_spells
    {written line : List Char}
    (spells : Spells written line)
    (setting : Setting) :
    ∃ texts : List (List Char), texts.flatten = readLongReferences line ∧
      IsReadAs setting written line texts := by
  -- A stretch of plain text and a long reference are read at once, so the steps of the reader are not the
  -- constructors of `Spells`: the induction is on the length.
  induction size : written.length using Nat.strongRecOn generalizing written line with
  | ind size inductionHypothesis =>
      subst size
      cases spells with
      | nil => exact ⟨[], rfl, fun before tail progress _ _ => rfl⟩
      | @plain c written line safe rest =>
          obtain ⟨start, written, line, rfl, rfl, spells, plain, special⟩ := rest.exists_plain setting
          have shorter : written.length < (c :: (start ++ written)).length := by
            rw [List.length_cons, List.length_append]
            omega
          obtain ⟨texts, flat, reads⟩ := inductionHypothesis _ shorter spells rfl
          have noAmpersand : '&' ∉ c :: start := by
            rw [List.mem_cons, not_or]
            refine ⟨fun same => safe (same ▸ by decide), fun member => ?_⟩
            cases List.all_eq_true.mp plain '&' member
          refine ⟨(c :: start) :: texts, ?_, reads.plain safe plain spells special⟩
          rw [List.flatten_cons, flat, ← List.cons_append, readLongReferences_append_of_notMem noAmpersand]
      | @escaped c written line punctuation noLong rest =>
          have shorter : written.length < ('\\' :: c :: written).length := by
            rw [List.length_cons, List.length_cons]
            omega
          obtain ⟨texts, flat, reads⟩ := inductionHypothesis _ shorter rest rfl
          refine ⟨[c] :: texts, ?_, reads.escaped punctuation⟩
          rw [List.flatten_cons, flat, readLongReferences_cons noLong, List.singleton_append]
      | exclamation rest =>
          obtain ⟨texts, flat, reads⟩ := inductionHypothesis _ (Nat.lt_succ_self _) rest rfl
          refine ⟨['!'] :: texts, ?_, reads.exclamation rest⟩
          rw [List.flatten_cons, flat, readLongReferences_cons rfl, List.singleton_append]
      | @ampersand written line noReference sameLong rest =>
          cases found : longReference? line with
          | none =>
              obtain ⟨texts, flat, reads⟩ := inductionHypothesis _ (Nat.lt_succ_self _) rest rfl
              refine ⟨['&'] :: texts, ?_, reads.ampersand noReference (sameLong.trans found)⟩
              rw [List.flatten_cons, flat, readLongReferences_cons (by rw [found]; rfl),
                List.singleton_append]
          | some d =>
              obtain ⟨body, written, rfl, isLong⟩ := exists_of_longReference? (sameLong.trans found)
              rw [List.append_cons] at rest ⊢
              obtain ⟨line, rfl, behind⟩ := (Spells.append_iff isLong.notMem_inlineOpeners).mp rest
              have shorter : written.length < ('&' :: (body ++ ';' :: written)).length := by
                rw [List.length_cons, List.length_append, List.length_cons]
                omega
              obtain ⟨texts, flat, reads⟩ := inductionHypothesis _ shorter behind rfl
              refine ⟨[d] :: texts, ?_, reads.longReference isLong⟩
              rw [List.flatten_cons, flat, List.append_assoc, List.singleton_append,
                List.singleton_append, isLong.readLongReferences_eq]

/-! ## The ends of lines -/

/-- A line that neither begins nor ends with white space, and is not empty. -/
structure IsTrimmed (line : List Char) : Prop where
  some : line ≠ []
  first : ∀ c ∈ line.head?, Text.isBlank c = false
  last : ∀ c ∈ line.getLast?, Text.isBlank c = false

/-- A written line begins with the character that the line begins with, or with a backslash. -/
theorem Spells.first
    {written line : List Char}
    (spells : Spells written line)
    {c : Char}
    (isFirst : c ∈ written.head?) :
    c = '\\' ∨ c ∈ line.head? := by
  cases spells with
  | nil => cases isFirst
  | escaped punctuation noLong rest => exact .inl (Option.some.inj isFirst).symm
  | _ => exact .inr isFirst

theorem Spells.ne_nil
    {written line : List Char}
    (spells : Spells written line)
    (some : line ≠ []) :
    written ≠ [] := by
  rintro rfl
  cases spells
  exact some rfl

/-- A line without white space at its ends is written without. -/
theorem Spells.isTrimmed
    {written line : List Char}
    (spells : Spells written line)
    (isTrimmed : IsTrimmed line) :
    IsTrimmed written := by
  refine ⟨spells.ne_nil isTrimmed.some, fun c isFirst => ?_, fun c isLast => ?_⟩
  · rcases spells.first isFirst with rfl | isFirst
    · rfl
    · exact isTrimmed.first c isFirst
  · exact isTrimmed.last c (spells.getLast?_eq ▸ isLast)

end Reader
end Markdown
end TwinEditor
