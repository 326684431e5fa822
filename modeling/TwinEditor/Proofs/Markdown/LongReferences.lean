import TwinEditor.Proofs.Markdown.Lines
import TwinEditor.Proofs.Markdown.References

/-!
# References that are not escaped

A writer escapes the ampersand of a hexadecimal reference with up to six digits, and a reader takes up to
seven. A reference with seven is long: where a text holds one, its character is read in its place.
-/

namespace TwinEditor
namespace Markdown
namespace Reader

/-- The character of the long reference that the text after an ampersand begins with. -/
def longReference? : List Char → Option Char
  | '#' :: 'x' :: rest | '#' :: 'X' :: rest =>
      if Escape.beginsWithRun Escape.isHexDigit 7 7 rest then
        some (characterOf (numberOfDigits 16 (rest.take 7)))
      else none
  | _ => none

/-- Whether there is a long reference in a text. -/
def holdsLongReference : List Char → Bool
  | [] => false
  | c :: rest => (c == '&' && (longReference? rest).isSome) || holdsLongReference rest

/-- A text with its long references replaced. The count says how many characters are part of a reference
already read. -/
def readLongReferencesFrom (skip : Nat) : List Char → List Char
  | [] => []
  | c :: rest =>
      match skip with
      | skip + 1 => readLongReferencesFrom skip rest
      | 0 =>
          if c = '&' then
            match longReference? rest with
            | some d => d :: readLongReferencesFrom 10 rest
            | none => c :: readLongReferencesFrom 0 rest
          else c :: readLongReferencesFrom 0 rest

/-- A text with its long references replaced by their characters. -/
def readLongReferences (text : List Char) : List Char :=
  readLongReferencesFrom 0 text

/-! ## What a long reference is -/

/-- A text that begins with a run of characters of a class and a semicolon, taken apart. -/
theorem exists_of_beginsWithRun
    {p : Char → Bool}
    {least most : Nat}
    {text : List Char}
    (begins : Escape.beginsWithRun p least most text = true) :
    ∃ run rest, text = run ++ ';' :: rest ∧ run.all p = true ∧ least ≤ run.length ∧
      run.length ≤ most := by
  rw [Escape.beginsWithRun, Bool.and_eq_true, Bool.and_eq_true, decide_eq_true_eq, decide_eq_true_eq,
    beq_iff_eq] at begins
  obtain ⟨⟨long, short⟩, ends⟩ := begins
  obtain ⟨rest, behind⟩ := List.head?_eq_some_iff.mp ends
  refine ⟨_, rest, ?_, List.all_takeWhile, long, short⟩
  rw [← behind, List.takeWhile_append_dropWhile]

/-- What stands between the ampersand and the semicolon of a long reference. -/
structure IsLongReference
    (body : List Char)
    (c : Char) : Prop where
  sign : ∃ others, body = '#' :: others ∧ ∀ d ∈ others, d.isAlphanum = true
  length_eq : body.length = 9
  reads : ∀ rest, longReference? (body ++ ';' :: rest) = some c

/-- What is true of the number sign, of the semicolon and of letters and digits is true of every character
of a long reference. -/
theorem IsLongReference.forall_mem
    {body : List Char}
    {c : Char}
    (isLong : IsLongReference body c)
    {p : Char → Prop}
    (sign : p '#')
    (semicolon : p ';')
    (name : ∀ d, d.isAlphanum = true → p d) :
    ∀ d ∈ body ++ [';'], p d := by
  obtain ⟨others, rfl, areName⟩ := isLong.sign
  have isBody := List.forall_mem_cons.mpr ⟨sign, fun d member => name d (areName d member)⟩
  exact List.forall_mem_append.mpr ⟨isBody, List.forall_mem_singleton.mpr semicolon⟩

theorem isLongReference_of_digits
    {sign : Char}
    (isSign : sign = 'x' ∨ sign = 'X')
    {digits : List Char}
    (areDigits : digits.all Escape.isHexDigit = true)
    (seven : digits.length = 7) :
    IsLongReference ('#' :: sign :: digits) (characterOf (numberOfDigits 16 digits)) := by
  refine ⟨⟨_, rfl, List.forall_mem_cons.mpr ⟨?_, fun d member => ?_⟩⟩, by simp [seven], fun rest => ?_⟩
  · rcases isSign with rfl | rfl <;> rfl
  · exact isAlphanum_of_isHexDigit (List.all_eq_true.mp areDigits d member)
  · have begins := beginsWithRun_append areDigits rfl (Nat.le_of_eq seven.symm) (Nat.le_of_eq seven) rest
    have taken : (digits ++ ';' :: rest).take 7 = digits := List.take_left' seven
    rcases isSign with rfl | rfl
    all_goals rw [List.cons_append, List.cons_append, longReference?, if_pos begins, taken]

/-- What is read as a long reference is one, and its semicolon. -/
theorem exists_of_longReference?
    {text : List Char}
    {c : Char}
    (found : longReference? text = some c) :
    ∃ body rest, text = body ++ ';' :: rest ∧ IsLongReference body c := by
  have digits {sign : Char} (isSign : sign = 'x' ∨ sign = 'X') {rest : List Char}
      (isNumber : (if Escape.beginsWithRun Escape.isHexDigit 7 7 rest then
        some (characterOf (numberOfDigits 16 (rest.take 7))) else none) = some c) :
      ∃ body more, '#' :: sign :: rest = body ++ ';' :: more ∧ IsLongReference body c := by
    obtain ⟨begins, same⟩ := Option.ite_none_right_eq_some.mp isNumber
    obtain ⟨digits, more, rfl, areDigits, least, most⟩ := exists_of_beginsWithRun begins
    have seven := Nat.le_antisymm most least
    rw [List.take_left' seven] at same
    exact ⟨_, more, rfl, Option.some.inj same ▸ isLongReference_of_digits isSign areDigits seven⟩
  unfold longReference? at found
  split at found
  · exact digits (.inl rfl) found
  · exact digits (.inr rfl) found
  · cases found

/-- Where there is no number of up to `most` digits, those of one digit more are the runs of that length. -/
theorem numericReference?_succ
    {isDigit : Char → Bool}
    (stops : isDigit ';' = false)
    {most : Nat}
    {text : List Char}
    (other : Escape.beginsWithRun isDigit 1 most text = false)
    (base : Nat) :
    numericReference? isDigit base (most + 1) text =
      if Escape.beginsWithRun isDigit (most + 1) (most + 1) text then
        some ([characterOf (numberOfDigits base (text.take (most + 1)))], most + 2)
      else none := by
  by_cases longest : Escape.beginsWithRun isDigit (most + 1) (most + 1) text = true
  · obtain ⟨digits, rest, rfl, areDigits, least, few⟩ := exists_of_beginsWithRun longest
    have length := Nat.le_antisymm few least
    rw [if_pos longest, numericReference?_append stops areDigits rest base (by omega) few,
      List.take_left' length, length]
  · rw [if_neg longest]
    refine Option.eq_none_iff_forall_ne_some.mpr fun reference found => longest ?_
    obtain ⟨digits, rest, rfl, areDigits, some, few, -⟩ := exists_of_numericReference? found
    rcases Nat.lt_or_eq_of_le few with short | same
    · rw [beginsWithRun_append areDigits stops some (Nat.le_of_lt_succ short)] at other
      cases other
    · exact beginsWithRun_append areDigits stops (Nat.le_of_eq same.symm) few rest

/-- A writer sees every reference but the long ones. -/
theorem characterReference?_eq_longReference?
    {text : List Char}
    (other : Escape.isReferenceTail text = false) :
    characterReference? text = (longReference? text).map fun c => ([c], 10) := by
  fun_cases Escape.isReferenceTail text with
  | case1 rest | case2 rest =>
      rw [characterReference?, numericReference?_succ rfl other 16, longReference?]
      split <;> rfl
  | case3 rest noLower noUpper =>
      rw [Escape.isReferenceTail] at other
      · rw [characterReference?, numericReference?_eq_none other 10, longReference?]
        · rfl
        · exact fun more same => noLower more (List.cons.inj same).2
        · exact fun more same => noUpper more (List.cons.inj same).2
        · exact noLower
        · exact noUpper
      · exact noLower
      · exact noUpper
  | case4 c rest noLower noUpper noSign =>
      have isStart := take_append_takeWhile_prefix (fun c => c != ' ' && c != ';') (c :: rest)
      rw [characterReference?, longReference?]
      · generalize (c :: rest).take 2 ++
          (((c :: rest).drop 2).take 30).takeWhile (fun c => c != ' ' && c != ';') = name at *
        obtain ⟨behind, text⟩ := isStart
        rw [← text] at other ⊢
        rw [List.drop_left]
        refine ite_eq_right_iff.mpr fun isName => ?_
        obtain ⟨ends, short⟩ := isName
        obtain ⟨more, rfl⟩ := List.head?_eq_some_iff.mp ends
        rw [Option.map_eq_none_iff, ← Option.not_isSome_iff_eq_none, Option.isSome_iff_exists]
        rintro ⟨chars, found⟩
        rw [isReferenceTail_of_namedReference? found short more] at other
        cases other
      all_goals
        intro _ same
        exact noSign (List.cons.inj same).1
  | case5 => rfl

/-- What a writer sees as a reference is no long one. -/
theorem longReference?_eq_none
    {text : List Char}
    (seen : Escape.isReferenceTail text = true) :
    longReference? text = none := by
  have few {rest : List Char} (begins : Escape.beginsWithRun Escape.isHexDigit 1 6 rest = true) :
      ¬Escape.beginsWithRun Escape.isHexDigit 7 7 rest = true := by
    rw [Escape.beginsWithRun, Bool.and_eq_true, Bool.and_eq_true, decide_eq_true_eq,
      decide_eq_true_eq] at begins ⊢
    omega
  fun_cases Escape.isReferenceTail text with
  | case1 rest | case2 rest => rw [longReference?, if_neg (few seen)]
  | case3 rest noLower noUpper =>
      rw [longReference?]
      · exact fun more same => noLower more (List.cons.inj same).2
      · exact fun more same => noUpper more (List.cons.inj same).2
  | case4 c rest noLower noUpper noSign =>
      rw [longReference?]
      all_goals
        intro _ same
        exact noSign (List.cons.inj same).1
  | case5 => rfl

/-! ## What stands behind a text -/

/-- What does not continue a character reference that the text before it may be part of. -/
structure Separates (tail : List Char) : Prop where
  stops : ∀ c ∈ tail.head?, c.isAlphanum = false ∧ c ≠ ';'
  alone : Escape.isReferenceTail tail = false
  aloneLong : longReference? tail = none

section Tail

variable {tail : List Char}

theorem takeWhile_append_of_head
    {p : Char → Bool}
    (other : ∀ c ∈ tail.head?, p c = false)
    (text : List Char) :
    (text ++ tail).takeWhile p = text.takeWhile p := by
  induction text with
  | nil =>
      cases tail with
      | nil => rfl
      | cons c rest => exact List.takeWhile_cons_of_neg (by simp [other c rfl])
  | cons c rest inductionHypothesis =>
      rw [List.cons_append, List.takeWhile_cons, List.takeWhile_cons, inductionHypothesis]

theorem dropWhile_append_of_head
    {p : Char → Bool}
    (other : ∀ c ∈ tail.head?, p c = false)
    (text : List Char) :
    (text ++ tail).dropWhile p = text.dropWhile p ++ tail := by
  induction text with
  | nil =>
      cases tail with
      | nil => rfl
      | cons c rest => exact List.dropWhile_cons_of_neg (by simp [other c rfl])
  | cons c rest inductionHypothesis =>
      rw [List.cons_append, List.dropWhile_cons, List.dropWhile_cons, inductionHypothesis]
      split <;> rfl

theorem beginsWithRun_append_of_stops
    (stops : ∀ c ∈ tail.head?, c.isAlphanum = false ∧ c ≠ ';')
    {p : Char → Bool}
    (inClass : ∀ c, p c = true → c.isAlphanum = true)
    (least most : Nat)
    (text : List Char) :
    Escape.beginsWithRun p least most (text ++ tail) = Escape.beginsWithRun p least most text := by
  have other : ∀ c ∈ tail.head?, p c = false := fun c isFirst =>
    Bool.eq_false_iff.mpr fun isIn => Bool.eq_false_iff.mp (stops c isFirst).1 (inClass c isIn)
  have same : ((text.dropWhile p ++ tail).head? == some ';') =
      ((text.dropWhile p).head? == some ';') := by
    cases text.dropWhile p with
    | cons c rest => rfl
    | nil =>
        cases tail with
        | nil => rfl
        | cons c rest => simpa using (stops c rfl).2
  rw [Escape.beginsWithRun, Escape.beginsWithRun, takeWhile_append_of_head other,
    dropWhile_append_of_head other, same]

/-- Whether a text continues with the rest of a character reference does not depend on what stands
behind it and does not continue one. -/
theorem isReferenceTail_append
    (separates : Separates tail)
    (text : List Char) :
    Escape.isReferenceTail (text ++ tail) = Escape.isReferenceTail text := by
  have run := @beginsWithRun_append_of_stops tail separates.stops
  fun_cases Escape.isReferenceTail text with
  | case1 rest => exact run (fun _ => isAlphanum_of_isHexDigit) 1 6 rest
  | case2 rest => exact run (fun _ => isAlphanum_of_isHexDigit) 1 6 rest
  | case3 rest noLower noUpper =>
      have decimal := run (fun c (isDigit : c.isDigit = true) => by simp [Char.isAlphanum, isDigit]) 1 7
        rest
      cases rest with
      | nil =>
          cases tail with
          | nil => rfl
          | cons c rest =>
              have other := (separates.stops c rfl).1
              rw [← decimal, List.singleton_append, List.nil_append, Escape.isReferenceTail]
              · rintro _ ⟨⟩
                cases other
              · rintro _ ⟨⟩
                cases other
      | cons c rest =>
          rw [← decimal, List.cons_append, List.cons_append, Escape.isReferenceTail]
          · exact fun after same => noLower rest (by rw [(List.cons.inj same).1])
          · exact fun after same => noUpper rest (by rw [(List.cons.inj same).1])
  | case4 c rest noLower noUpper noSign =>
      rw [List.cons_append, Escape.isReferenceTail, run fun _ isIn => isIn]
      · exact fun _ same => absurd same noSign
      · exact fun _ same => absurd same noSign
      · exact noSign
  | case5 => exact separates.alone

/-- Whether a text continues with a long reference does not depend on that either. -/
theorem longReference?_append
    (separates : Separates tail)
    (text : List Char) :
    longReference? (text ++ tail) = longReference? text := by
  cases found : longReference? text with
  | some c =>
      obtain ⟨body, rest, rfl, isLong⟩ := exists_of_longReference? found
      rw [List.append_assoc]
      exact isLong.reads _
  | none =>
      refine Option.eq_none_iff_forall_ne_some.mpr fun c whole => ?_
      obtain ⟨body, rest, same, isLong⟩ := exists_of_longReference? whole
      have noSemicolon : ∀ more, tail ≠ ';' :: more := by
        rintro more rfl
        exact (separates.stops ';' rfl).2 rfl
      rcases List.append_eq_append_iff.mp same with ⟨more, cut, rfl⟩ | ⟨more, rfl, cut⟩
      · -- The tail would begin inside of the reference.
        cases more with
        | nil => exact noSemicolon rest rfl
        | cons d more =>
            obtain ⟨others, isBody, areName⟩ := isLong.sign
            cases text with
            | nil =>
                have alone := separates.aloneLong
                rw [← List.nil_append (d :: more), ← cut, isLong.reads] at alone
                cases alone
            | cons e text =>
                rw [isBody, List.cons_append] at cut
                have isName := areName d (by rw [(List.cons.inj cut).2]; simp)
                rw [(separates.stops d rfl).1] at isName
                cases isName
      · cases more with
        | nil => exact noSemicolon rest cut.symm
        | cons d more =>
            obtain ⟨rfl, -⟩ := List.cons.inj cut
            rw [isLong.reads] at found
            cases found

end Tail

/-- What stands behind a line: nothing, or a line feed and further lines. -/
def EndsLine (tail : List Char) : Prop :=
  ∀ c ∈ tail.head?, c = '\n'

theorem EndsLine.separates
    {tail : List Char}
    (ends : EndsLine tail) :
    Separates tail := by
  cases tail with
  | nil => exact ⟨nofun, rfl, rfl⟩
  | cons c rest =>
      obtain rfl := ends c rfl
      exact ⟨fun d isFirst => by obtain rfl := Option.some.inj isFirst; decide, rfl, rfl⟩

/-! ## Reading long references -/

section Reading

variable {c : Char} {body rest : List Char}

/-- A text is read character by character, but for the long references in it. -/
theorem longReferences_induction
    {motive : List Char → Prop}
    (nil : motive [])
    (cons : ∀ c rest, (c == '&' && (longReference? rest).isSome) = false → motive rest →
      motive (c :: rest))
    (reference : ∀ body c rest, IsLongReference body c → motive rest →
      motive ('&' :: (body ++ ';' :: rest)))
    (text : List Char) :
    motive text := by
  induction size : text.length using Nat.strongRecOn generalizing text with
  | ind size inductionHypothesis =>
      subst size
      cases text with
      | nil => exact nil
      | cons c rest =>
          cases plain : c == '&' && (longReference? rest).isSome with
          | false => exact cons c rest plain (inductionHypothesis _ (Nat.lt_succ_self _) rest rfl)
          | true =>
              rw [Bool.and_eq_true, beq_iff_eq, Option.isSome_iff_exists] at plain
              obtain ⟨rfl, d, found⟩ := plain
              obtain ⟨body, rest, rfl, isLong⟩ := exists_of_longReference? found
              refine reference body d rest isLong (inductionHypothesis _ ?_ rest rfl)
              simp only [List.length_cons, List.length_append]
              omega

theorem holdsLongReference_cons
    (plain : (c == '&' && (longReference? rest).isSome) = false) :
    holdsLongReference (c :: rest) = holdsLongReference rest := by
  rw [holdsLongReference, plain, Bool.false_or]

theorem IsLongReference.holdsLongReference_eq
    (isLong : IsLongReference body c)
    (rest : List Char) :
    holdsLongReference ('&' :: (body ++ ';' :: rest)) = true := by
  rw [holdsLongReference, isLong.reads]
  rfl

theorem holdsLongReference_of_notMem
    {text : List Char}
    (noAmpersand : '&' ∉ text) :
    holdsLongReference text = false := by
  induction text with
  | nil => rfl
  | cons c rest inductionHypothesis =>
      rw [List.mem_cons, not_or] at noAmpersand
      rw [holdsLongReference, inductionHypothesis noAmpersand.2, beq_false_of_ne (Ne.symm noAmpersand.1)]
      rfl

theorem readLongReferencesFrom_eq
    (skip : Nat)
    (text : List Char) :
    readLongReferencesFrom skip text = readLongReferences (text.drop skip) := by
  induction text generalizing skip with
  | nil => rw [List.drop_nil, readLongReferences, readLongReferencesFrom, readLongReferencesFrom]
  | cons c rest inductionHypothesis =>
      cases skip with
      | zero => rfl
      | succ skip => rw [readLongReferencesFrom, inductionHypothesis, List.drop_succ_cons]

theorem readLongReferences_cons
    (plain : (c == '&' && (longReference? rest).isSome) = false) :
    readLongReferences (c :: rest) = c :: readLongReferences rest := by
  rw [readLongReferences, readLongReferencesFrom, readLongReferences]
  split
  · next isAmpersand =>
      rw [isAmpersand, beq_self_eq_true, Bool.true_and, Option.isSome_eq_false_iff,
        Option.isNone_iff_eq_none] at plain
      rw [plain]
  · rfl

theorem IsLongReference.readLongReferences_eq
    (isLong : IsLongReference body c)
    (rest : List Char) :
    readLongReferences ('&' :: (body ++ ';' :: rest)) = c :: readLongReferences rest := by
  rw [readLongReferences, readLongReferencesFrom, if_pos rfl, isLong.reads]
  dsimp only
  rw [readLongReferencesFrom_eq, List.append_cons, List.drop_left' (by simp [isLong.length_eq])]

theorem readLongReferences_append_of_notMem
    {start : List Char}
    (noAmpersand : '&' ∉ start)
    (rest : List Char) :
    readLongReferences (start ++ rest) = start ++ readLongReferences rest := by
  induction start with
  | nil => rfl
  | cons c start inductionHypothesis =>
      rw [List.mem_cons, not_or] at noAmpersand
      rw [List.cons_append, readLongReferences_cons, inductionHypothesis noAmpersand.2, List.cons_append]
      rw [beq_false_of_ne (Ne.symm noAmpersand.1), Bool.false_and]

theorem readLongReferences_eq_nil_iff
    {text : List Char} :
    readLongReferences text = [] ↔ text = [] := by
  induction text using longReferences_induction with
  | nil => rfl
  | cons c rest plain inductionHypothesis => simp [readLongReferences_cons plain]
  | reference body c rest isLong inductionHypothesis => simp [isLong.readLongReferences_eq]

theorem readLongReferences_eq_self
    {text : List Char}
    (none : holdsLongReference text = false) :
    readLongReferences text = text := by
  induction text using longReferences_induction with
  | nil => rfl
  | cons c rest plain inductionHypothesis =>
      rw [holdsLongReference_cons plain] at none
      rw [readLongReferences_cons plain, inductionHypothesis none]
  | reference body c rest isLong inductionHypothesis =>
      rw [isLong.holdsLongReference_eq] at none
      cases none

/-- A long reference takes eleven characters and stands for one. -/
theorem length_readLongReferences
    (text : List Char) :
    (readLongReferences text).length ≤ text.length ∧
      (holdsLongReference text = true → (readLongReferences text).length < text.length) := by
  induction text using longReferences_induction with
  | nil => exact ⟨Nat.le_refl 0, nofun⟩
  | cons c rest plain inductionHypothesis =>
      rw [readLongReferences_cons plain, holdsLongReference_cons plain, List.length_cons, List.length_cons]
      exact ⟨Nat.succ_le_succ inductionHypothesis.1,
        fun holds => Nat.succ_lt_succ (inductionHypothesis.2 holds)⟩
  | reference body c rest isLong inductionHypothesis =>
      rw [isLong.readLongReferences_eq]
      simp only [List.length_cons, List.length_append, isLong.length_eq]
      omega

theorem readLongReferences_eq_self_iff
    {text : List Char} :
    readLongReferences text = text ↔ holdsLongReference text = false := by
  refine ⟨fun same => Bool.eq_false_iff.mpr fun holds => ?_, readLongReferences_eq_self⟩
  have shorter := (length_readLongReferences text).2 holds
  rw [same] at shorter
  exact Nat.lt_irrefl _ shorter

theorem readLongReferences_append
    {tail : List Char}
    (separates : Separates tail)
    (text : List Char) :
    readLongReferences (text ++ tail) = readLongReferences text ++ readLongReferences tail := by
  induction text using longReferences_induction with
  | nil => rfl
  | cons c rest plain inductionHypothesis =>
      rw [readLongReferences_cons plain, List.cons_append, readLongReferences_cons, inductionHypothesis,
        List.cons_append]
      rw [longReference?_append separates, plain]
  | reference body c rest isLong inductionHypothesis =>
      rw [isLong.readLongReferences_eq, List.cons_append, List.append_assoc, List.cons_append,
        isLong.readLongReferences_eq, inductionHypothesis, List.cons_append]

/-- No long reference goes over the end of a line. -/
theorem readLongReferences_unlines
    {lines : List (List Char)}
    (some : lines ≠ []) :
    readLongReferences (Text.unlines lines) = Text.unlines (lines.map readLongReferences) := by
  induction lines with
  | nil => exact absurd rfl some
  | cons line rest inductionHypothesis =>
      by_cases last : rest = []
      · subst last
        rw [Text.unlines_singleton, List.map_singleton, Text.unlines_singleton]
      · have separates : Separates ('\n' :: Text.unlines rest) :=
          EndsLine.separates fun c isFirst => (Option.some.inj isFirst).symm
        rw [Text.unlines_cons line last, readLongReferences_append separates, readLongReferences_cons rfl,
          inductionHypothesis last, List.map_cons, Text.unlines_cons _ (by simpa using last)]

/-- A text without long references on its lines is read as it is. -/
theorem readLongReferences_of_lines
    {text : List Char}
    (none : ∀ line ∈ Text.lines text, holdsLongReference line = false) :
    readLongReferences text = text := by
  have kept : (Text.lines text).map readLongReferences = Text.lines text :=
    (List.map_congr_left fun line isLine => readLongReferences_eq_self (none line isLine)).trans
      (List.map_id _)
  have whole := readLongReferences_unlines (Text.lines_ne_nil text)
  rwa [kept, Text.unlines_lines] at whole

end Reading

end Reader
end Markdown
end TwinEditor
