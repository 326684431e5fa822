import TwinEditor.Markdown.Reader.CharacterReference

/-!
# What a character reference looks like

A character reference is a number behind a number sign, or a name of a letter with further letters and
digits. For the names this is read off the table of all of them.
-/

namespace TwinEditor
namespace Markdown
namespace Reader

/-! ## Names -/

/-- Whether a byte stands for a letter in UTF-8. -/
def isLetterByte (byte : UInt8) : Bool :=
  (65 ≤ byte && byte ≤ 90) || (97 ≤ byte && byte ≤ 122)

/-- Whether a byte stands for a letter or a digit in UTF-8. -/
def isNameByte (byte : UInt8) : Bool :=
  isLetterByte byte || (48 ≤ byte && byte ≤ 57)

/-- Whether bytes are those of a letter with at least one letter or digit behind it. -/
def areNameBytes : List UInt8 → Bool
  | first :: rest => isLetterByte first && !rest.isEmpty && rest.all isNameByte
  | [] => false

/-- The names are compared by their bytes: to take 2231 strings apart into characters would be slow. -/
theorem all_areNameBytes :
    Text.namedReferences.all (fun entry => areNameBytes entry.1.toByteArray.data.toList) = true := by
  decide +kernel

theorem isNameByte_ofNat
    {code : Nat}
    (leading : 192 ≤ code)
    (bounded : code < 256) :
    isNameByte (UInt8.ofNat code) = false := by
  have same : (UInt8.ofNat code).toNat = code := UInt8.toNat_ofNat_of_lt bounded
  simp only [isNameByte, isLetterByte, Bool.or_eq_false_iff, Bool.and_eq_false_iff,
    decide_eq_false_iff_not, UInt8.le_iff_toNat_le, same, UInt8.reduceToNat]
  omega

/-- A character whose first byte belongs to names is one of ASCII. -/
theorem utf8EncodeChar_eq_of_head
    {c : Char}
    (isName : ∀ byte ∈ (String.utf8EncodeChar c).head?, isNameByte byte = true) :
    String.utf8EncodeChar c = [UInt8.ofNat c.toNat] ∧ c.toNat < 128 := by
  have excluded {code : Nat} {rest : List UInt8} (leading : 192 ≤ code) (bounded : code < 256)
      (same : String.utf8EncodeChar c = UInt8.ofNat code :: rest) :
      String.utf8EncodeChar c = [UInt8.ofNat c.toNat] ∧ c.toNat < 128 := by
    rw [same] at isName
    exact absurd (isName _ rfl) (by simp [isNameByte_ofNat leading bounded])
  by_cases one : c.val.toNat ≤ 0x7F
  · exact ⟨by rw [String.utf8EncodeChar]; exact if_pos one, Nat.lt_succ_of_le one⟩
  · by_cases two : c.val.toNat ≤ 0x7FF
    · refine excluded ?_ ?_ (by rw [String.utf8EncodeChar]; rw [if_neg one, if_pos two])
      all_goals omega
    · by_cases three : c.val.toNat ≤ 0xFFFF
      · refine excluded ?_ ?_
          (by rw [String.utf8EncodeChar]; rw [if_neg one, if_neg two, if_pos three])
        all_goals omega
      · refine excluded ?_ ?_
          (by rw [String.utf8EncodeChar]; rw [if_neg one, if_neg two, if_neg three])
        all_goals omega

theorem isAlpha_of_isLetterByte
    {c : Char}
    (ascii : c.toNat < 128)
    (letter : isLetterByte (UInt8.ofNat c.toNat) = true) :
    c.isAlpha = true := by
  have letters : ∀ code : Fin 128,
      isLetterByte (UInt8.ofNat code) = true → (Char.ofNat code).isAlpha = true := by decide
  rw [← Char.ofNat_toNat c]
  exact letters ⟨c.toNat, ascii⟩ letter

theorem isAlphanum_of_isNameByte
    {c : Char}
    (ascii : c.toNat < 128)
    (name : isNameByte (UInt8.ofNat c.toNat) = true) :
    c.isAlphanum = true := by
  have names : ∀ code : Fin 128,
      isNameByte (UInt8.ofNat code) = true → (Char.ofNat code).isAlphanum = true := by decide
  rw [← Char.ofNat_toNat c]
  exact names ⟨c.toNat, ascii⟩ name

theorem all_isAlphanum_of_bytes
    {name : List Char}
    (bytes : (name.flatMap String.utf8EncodeChar).all isNameByte = true) :
    name.all Char.isAlphanum = true := by
  induction name with
  | nil => rfl
  | cons c rest inductionHypothesis =>
      rw [List.flatMap_cons, List.all_append, Bool.and_eq_true] at bytes
      obtain ⟨first, others⟩ := bytes
      obtain ⟨same, ascii⟩ := utf8EncodeChar_eq_of_head (c := c) fun byte isHead =>
        List.all_eq_true.mp first byte (List.mem_of_head? isHead)
      rw [same, List.all_cons, List.all_nil, Bool.and_true] at first
      rw [List.all_cons, isAlphanum_of_isNameByte ascii first, inductionHypothesis others]
      rfl

/-- A name in the table is a letter with at least one letter or digit behind it. -/
theorem exists_of_namedReference?
    {name chars : List Char}
    (found : Text.namedReference? name = some chars) :
    ∃ c rest, name = c :: rest ∧ c.isAlpha = true ∧ rest ≠ [] ∧ rest.all Char.isAlphanum = true := by
  obtain ⟨codes, isCodes, -⟩ := Option.map_eq_some_iff.mp found
  have entry : (String.ofList name, codes) ∈ Text.namedReferences := by
    obtain ⟨before, after, table, -⟩ := List.lookup_eq_some_iff.mp isCodes
    rw [table]
    exact List.mem_append_right before (.head after)
  have bytes := List.all_eq_true.mp all_areNameBytes _ entry
  have same : (String.ofList name).toByteArray.data.toList = name.flatMap String.utf8EncodeChar := by
    simp [List.utf8Encode]
  simp only [same] at bytes
  cases name with
  | nil => cases bytes
  | cons c rest =>
      obtain ⟨first, more, encoded⟩ := List.exists_cons_of_ne_nil (@String.utf8EncodeChar_ne_nil c)
      rw [List.flatMap_cons, encoded, List.cons_append, areNameBytes, Bool.and_eq_true,
        Bool.and_eq_true] at bytes
      obtain ⟨⟨letter, some⟩, others⟩ := bytes
      have isName : isNameByte first = true := by rw [isNameByte, letter, Bool.true_or]
      obtain ⟨single, ascii⟩ := utf8EncodeChar_eq_of_head (c := c) fun byte isHead => by
        rw [encoded] at isHead
        obtain rfl := Option.some.inj isHead
        exact isName
      rw [single] at encoded
      obtain ⟨rfl, rfl⟩ := List.cons.inj encoded
      rw [List.nil_append] at some others
      refine ⟨c, rest, rfl, isAlpha_of_isLetterByte ascii letter, ?_, all_isAlphanum_of_bytes others⟩
      rintro rfl
      cases some

/-! ## References -/

/-- A text that begins with characters of a class and a semicolon begins with such a run. -/
theorem beginsWithRun_append
    {p : Char → Bool}
    {run : List Char}
    (inClass : run.all p = true)
    (stops : p ';' = false)
    {least most : Nat}
    (long : least ≤ run.length)
    (short : run.length ≤ most)
    (rest : List Char) :
    Escape.beginsWithRun p least most (run ++ ';' :: rest) = true := by
  have taken : (run ++ ';' :: rest).takeWhile p = run := by
    rw [List.takeWhile_append_of_pos (List.all_eq_true.mp inClass),
      List.takeWhile_cons_of_neg (by simp [stops]), List.append_nil]
  have dropped : (run ++ ';' :: rest).dropWhile p = ';' :: rest := by
    rw [List.dropWhile_append_of_pos (List.all_eq_true.mp inClass),
      List.dropWhile_cons_of_neg (by simp [stops])]
  rw [Escape.beginsWithRun, taken, dropped]
  simp [long, short]

theorem numericReference?_eq_none
    {isDigit : Char → Bool}
    {most : Nat}
    {text : List Char}
    (other : Escape.beginsWithRun isDigit 1 most text = false)
    (base : Nat) :
    numericReference? isDigit base most text = none := by
  rw [numericReference?, if_neg]
  rintro ⟨long, short, ends⟩
  simp [Escape.beginsWithRun, long, short, ends] at other

/-- What is looked up as a name is the start of the text. -/
theorem take_append_takeWhile_prefix
    (p : Char → Bool)
    (text : List Char) :
    text.take 2 ++ ((text.drop 2).take 30).takeWhile p <+: text := by
  have tail : ((text.drop 2).take 30).takeWhile p <+: text.drop 2 :=
    (List.takeWhile_prefix p).trans (List.take_prefix 30 _)
  have whole := (List.prefix_append_right_inj (text.take 2)).mpr tail
  rwa [List.take_append_drop] at whole

/-- A name with a semicolon behind it has the shape of a character reference. -/
theorem isReferenceTail_of_namedReference?
    {name chars : List Char}
    (found : Text.namedReference? name = some chars)
    (short : name.length ≤ 31)
    (rest : List Char) :
    Escape.isReferenceTail (name ++ ';' :: rest) = true := by
  obtain ⟨c, others, rfl, letter, more, areName⟩ := exists_of_namedReference? found
  have noSign : c ≠ '#' := by
    rintro rfl
    cases letter
  have positive := List.length_pos_iff.mpr more
  rw [List.length_cons] at short
  rw [List.cons_append, Escape.isReferenceTail, letter,
    beginsWithRun_append areName rfl positive (by omega)]
  · rfl
  · exact fun _ same => absurd same noSign
  · exact fun _ same => absurd same noSign
  · exact noSign

/-! ## What a reference stands for -/

theorem isAlphanum_of_isHexDigit
    {c : Char}
    (isHexDigit : Escape.isHexDigit c = true) :
    c.isAlphanum = true := by
  simp only [Escape.isHexDigit, Bool.or_eq_true, Bool.and_eq_true, decide_eq_true_eq] at isHexDigit
  rcases isHexDigit with (isDigit | ⟨least, most⟩) | ⟨least, most⟩
  · exact Bool.or_eq_true_iff.mpr (.inr isDigit)
  · have isLower : c.isLower = true := Bool.and_eq_true_iff.mpr
      ⟨decide_eq_true least, decide_eq_true (UInt32.le_trans most (by decide))⟩
    exact Bool.or_eq_true_iff.mpr (.inl (Bool.or_eq_true_iff.mpr (.inr isLower)))
  · have isUpper : c.isUpper = true :=
      decide_eq_true ⟨least, UInt32.le_trans most (by decide : 'F'.val ≤ 'Z'.val)⟩
    exact Bool.or_eq_true_iff.mpr (.inl (Bool.or_eq_true_iff.mpr (.inl isUpper)))

/-- A reference is what stands up to its semicolon, whatever stands behind. It is longer than what it
stands for, and it is made of letters and digits behind its number sign. -/
structure IsReference
    (body chars : List Char) : Prop where
  reads : ∀ rest, characterReference? (body ++ ';' :: rest) = some (chars, body.length + 1)
  plain : ∀ c ∈ body, c = '#' ∨ c.isAlphanum = true
  shorter : chars.length < body.length + 2

section Numbers

variable {isDigit : Char → Bool}

theorem numericReference?_append
    (stops : isDigit ';' = false)
    {digits : List Char}
    (areDigits : digits.all isDigit = true)
    (rest : List Char)
    (base : Nat)
    {most : Nat}
    (some : 1 ≤ digits.length)
    (few : digits.length ≤ most) :
    numericReference? isDigit base most (digits ++ ';' :: rest) =
      .some ([characterOf (numberOfDigits base digits)], digits.length + 1) := by
  have taken : (digits ++ ';' :: rest).takeWhile isDigit = digits := by
    rw [List.takeWhile_append_of_pos (List.all_eq_true.mp areDigits),
      List.takeWhile_cons_of_neg (by simp [stops]), List.append_nil]
  have dropped : (digits ++ ';' :: rest).dropWhile isDigit = ';' :: rest := by
    rw [List.dropWhile_append_of_pos (List.all_eq_true.mp areDigits),
      List.dropWhile_cons_of_neg (by simp [stops])]
  rw [numericReference?, taken, dropped]
  exact if_pos ⟨some, few, rfl⟩

theorem exists_of_numericReference?
    {base most : Nat}
    {text : List Char}
    {reference : List Char × Nat}
    (found : numericReference? isDigit base most text = some reference) :
    ∃ digits rest, text = digits ++ ';' :: rest ∧ digits.all isDigit = true ∧ 1 ≤ digits.length ∧
      digits.length ≤ most ∧
      reference = ([characterOf (numberOfDigits base digits)], digits.length + 1) := by
  rw [numericReference?] at found
  obtain ⟨⟨some, few, ends⟩, same⟩ := Option.ite_none_right_eq_some.mp found
  obtain ⟨rest, behind⟩ := List.head?_eq_some_iff.mp ends
  refine ⟨_, rest, ?_, List.all_takeWhile, some, few, (Option.some.inj same).symm⟩
  rw [← behind, List.takeWhile_append_dropWhile]

end Numbers

theorem length_le_of_namedReference?
    {name chars : List Char}
    (found : Text.namedReference? name = some chars) :
    chars.length ≤ 2 := by
  have few : Text.namedReferences.all (fun entry => entry.2.length ≤ 2) = true := by
    decide +kernel
  obtain ⟨codes, isCodes, rfl⟩ := Option.map_eq_some_iff.mp found
  obtain ⟨before, after, table, -⟩ := List.lookup_eq_some_iff.mp isCodes
  have entry := List.all_eq_true.mp few _ (table ▸ List.mem_append_right before (.head after))
  rw [List.length_map]
  exact of_decide_eq_true entry

/-- A name is looked up up to the semicolon behind it. -/
theorem characterReference?_name
    {name chars : List Char}
    (found : Text.namedReference? name = some chars)
    (short : name.length ≤ 31)
    (rest : List Char) :
    characterReference? (name ++ ';' :: rest) = some (chars, name.length + 1) := by
  obtain ⟨c, others, rfl, letter, more, areName⟩ := exists_of_namedReference? found
  obtain ⟨d, others, rfl⟩ := List.exists_cons_of_ne_nil more
  have noSign : c ≠ '#' := by
    rintro rfl
    cases letter
  have inName : ∀ e ∈ others, (e != ' ' && e != ';') = true := by
    intro e member
    have isName := List.all_eq_true.mp areName e (.tail d member)
    rw [Bool.and_eq_true, bne_iff_ne, bne_iff_ne]
    constructor
    all_goals
      rintro rfl
      cases isName
  obtain ⟨more, left⟩ := Nat.exists_eq_add_of_lt
    (show others.length < 30 by rw [List.length_cons, List.length_cons] at short; omega)
  have tail : ((others ++ ';' :: rest).take 30).takeWhile (fun e => e != ' ' && e != ';') = others := by
    rw [left, Nat.add_assoc, List.take_length_add_append, List.take_succ_cons,
      List.takeWhile_append_of_pos inName, List.takeWhile_cons_of_neg (by decide), List.append_nil]
  have whole : (c :: d :: others ++ ';' :: rest).take 2 ++
      (((c :: d :: others ++ ';' :: rest).drop 2).take 30).takeWhile (fun e => e != ' ' && e != ';') =
        c :: d :: others :=
    congrArg (fun others => c :: d :: others) tail
  have ends : ((c :: d :: others ++ ';' :: rest).drop (c :: d :: others).length).head? = some ';' := by
    rw [List.drop_left]
    rfl
  rw [List.cons_append, characterReference?, ← List.cons_append]
  · rw [whole, found]
    exact if_pos ⟨ends, short⟩
  all_goals
    intro _ same
    exact noSign (List.cons.inj same).1

theorem isReference_name
    {name chars : List Char}
    (found : Text.namedReference? name = some chars)
    (short : name.length ≤ 31) :
    IsReference name chars := by
  have few := length_le_of_namedReference? found
  have reads := characterReference?_name found short
  obtain ⟨c, others, rfl, letter, -, areName⟩ := exists_of_namedReference? found
  refine ⟨reads, List.forall_mem_cons.mpr ⟨.inr ?_, fun d member => .inr ?_⟩, ?_⟩
  · rw [Char.isAlphanum, letter, Bool.true_or]
  · exact List.all_eq_true.mp areName d member
  · rw [List.length_cons]
    omega

section Digits

variable {digits : List Char} (some : 1 ≤ digits.length)
include some

theorem isReference_hexadecimal
    {sign : Char}
    (isSign : sign = 'x' ∨ sign = 'X')
    (areDigits : digits.all Escape.isHexDigit = true)
    (few : digits.length ≤ 7) :
    IsReference ('#' :: sign :: digits) [characterOf (numberOfDigits 16 digits)] := by
  have number (rest : List Char) := numericReference?_append rfl areDigits rest 16 some few
  refine ⟨fun rest => ?_, ?_, by simp⟩
  · rcases isSign with rfl | rfl
    all_goals
      rw [List.cons_append, List.cons_append, characterReference?, number]
      rfl
  · refine List.forall_mem_cons.mpr ⟨.inl rfl, List.forall_mem_cons.mpr ⟨.inr ?_, fun c member => .inr ?_⟩⟩
    · rcases isSign with rfl | rfl <;> rfl
    · exact isAlphanum_of_isHexDigit (List.all_eq_true.mp areDigits c member)

theorem isReference_decimal
    (areDigits : digits.all Char.isDigit = true)
    (few : digits.length ≤ 7) :
    IsReference ('#' :: digits) [characterOf (numberOfDigits 10 digits)] := by
  refine ⟨fun rest => ?_, List.forall_mem_cons.mpr ⟨.inl rfl, fun c member => .inr ?_⟩, by simp⟩
  · have number := numericReference?_append rfl areDigits rest 10 some few
    obtain ⟨d, others, rfl⟩ := List.exists_cons_of_length_pos some
    have isDigit := List.all_eq_true.mp areDigits d (.head others)
    rw [List.cons_append, characterReference?, number]
    · rfl
    all_goals
      rintro _ ⟨⟩
      cases isDigit
  · rw [Char.isAlphanum, List.all_eq_true.mp areDigits c member, Bool.or_true]

end Digits

/-- What is read as a reference is one, and its semicolon. -/
theorem exists_of_characterReference?
    {text chars : List Char}
    {length : Nat}
    (found : characterReference? text = some (chars, length)) :
    ∃ body rest, text = body ++ ';' :: rest ∧ length = body.length + 1 ∧ IsReference body chars := by
  unfold characterReference? at found
  split at found
  · obtain ⟨_, isNumber, same⟩ := Option.map_eq_some_iff.mp found
    obtain ⟨digits, rest, rfl, areDigits, some, few, rfl⟩ := exists_of_numericReference? isNumber
    cases same
    exact ⟨'#' :: 'x' :: digits, rest, rfl, rfl, isReference_hexadecimal some (.inl rfl) areDigits few⟩
  · obtain ⟨_, isNumber, same⟩ := Option.map_eq_some_iff.mp found
    obtain ⟨digits, rest, rfl, areDigits, some, few, rfl⟩ := exists_of_numericReference? isNumber
    cases same
    exact ⟨'#' :: 'X' :: digits, rest, rfl, rfl, isReference_hexadecimal some (.inr rfl) areDigits few⟩
  · obtain ⟨_, isNumber, same⟩ := Option.map_eq_some_iff.mp found
    obtain ⟨digits, rest, rfl, areDigits, some, few, rfl⟩ := exists_of_numericReference? isNumber
    cases same
    exact ⟨'#' :: digits, rest, rfl, rfl, isReference_decimal some areDigits few⟩
  · have isStart := take_append_takeWhile_prefix (fun c => c != ' ' && c != ';') text
    dsimp only at found
    generalize text.take 2 ++
      ((text.drop 2).take 30).takeWhile (fun c => c != ' ' && c != ';') = name at *
    obtain ⟨behind, rfl⟩ := isStart
    rw [List.drop_left] at found
    obtain ⟨⟨ends, short⟩, isName⟩ := Option.ite_none_right_eq_some.mp found
    obtain ⟨rest, rfl⟩ := List.head?_eq_some_iff.mp ends
    obtain ⟨_, named, same⟩ := Option.map_eq_some_iff.mp isName
    cases same
    exact ⟨name, rest, rfl, rfl, isReference_name named short⟩

end Reader
end Markdown
end TwinEditor
