import Mathlib.Data.List.Basic
import TwinEditor.Json.Printer
import TwinEditor.Json.Reader

/-!
# Reading back written JSON

A value that is written in either layout is read back as the same value, whatever stands behind it that
cannot go on with a numeral. The values are those that programs make: their integers fit in 64 bits, and
they hold no spelling of a numeral and nothing that has no value.
-/

namespace TwinEditor
namespace Json

mutual

/-- Whether a value has one written form that reads as it. -/
def isPlain : Json → Bool
  | .null | .bool _ | .string _ => true
  | .integer value => Int64.minValue.toInt ≤ value && value < UInt64.size
  | .numeral _ | .valueless => false
  | .array items => arePlainItems items
  | .object members => arePlainMembers members

/-- Whether the items of an array have one. -/
def arePlainItems : List Json → Bool
  | [] => true
  | item :: rest => item.isPlain && arePlainItems rest

/-- Whether the members of an object have one. -/
def arePlainMembers : List (String × Json) → Bool
  | [] => true
  | (_, value) :: rest => value.isPlain && arePlainMembers rest

end

/-- A natural number is written as an integer that is read as it. -/
theorem natBelow?_ofNat_of_lt
    {bound value : Nat}
    (small : value < bound) :
    natBelow? bound (.ofNat value) = some value := by
  rw [ofNat, natBelow?, if_pos ⟨Int.natCast_nonneg value, Int.ofNat_lt.mpr small⟩,
    Int.toNat_natCast]

theorem isPlain_ofNat_of_lt
    {value : Nat}
    (small : value < UInt64.size) :
    (ofNat value).isPlain = true := by
  have least : Int64.minValue.toInt = -9223372036854775808 := rfl
  rw [ofNat, isPlain, Bool.and_eq_true, decide_eq_true_eq, decide_eq_true_eq]
  exact ⟨by omega, Int.ofNat_lt.mpr small⟩

/-! ## White space -/

/-- Spaces and line breaks that may stand between two tokens. -/
def IsGap (gap : List Char) : Prop :=
  ∀ c ∈ gap, isSpace c = true

theorem isGap_lineBreak (layout : Layout) : IsGap layout.lineBreak := by
  intro c member
  cases layout with
  | compact => cases member
  | indented level =>
      rcases List.mem_cons.mp member with rfl | member
      · decide
      · rw [List.eq_of_mem_replicate member]
        decide

theorem skipSpace_append
    {gap : List Char}
    (isGap : IsGap gap)
    (text : List Char) :
    skipSpace (gap ++ text) = skipSpace text :=
  List.dropWhile_append_of_pos isGap

theorem skipSpace_cons
    {c : Char}
    (visible : isSpace c = false)
    (rest : List Char) :
    skipSpace (c :: rest) = c :: rest :=
  List.dropWhile_cons_of_neg (by simp [visible])

theorem skipSpace_gap_cons
    {gap : List Char}
    (isGap : IsGap gap)
    {c : Char}
    (visible : isSpace c = false)
    (rest : List Char) :
    skipSpace (gap ++ c :: rest) = c :: rest := by
  rw [skipSpace_append isGap, skipSpace_cons visible]

/-! ## Strings -/

theorem hexValue?_hexDigit
    {value : Nat}
    (small : value < 16) :
    hexValue? (hexDigit value) = some value := by
  have all : ∀ value : Fin 16, hexValue? (hexDigit value) = some value.val := by decide
  exact all ⟨value, small⟩

/-- The escape of a control character names its code. -/
theorem hex4?_control
    {code : Nat}
    (control : code < 0x20) :
    hex4? '0' '0' (hexDigit (code / 16)) (hexDigit (code % 16)) = some code := by
  have high : code / 16 < 16 := by omega
  have low : code % 16 < 16 := by omega
  rw [hex4?, hexValue?_hexDigit high, hexValue?_hexDigit low]
  simp only [show hexValue? '0' = some 0 from by decide, Option.bind_eq_bind, Option.bind_some,
    Option.pure_def, Option.some.injEq]
  omega

/-- A written character is read as one unit. -/
theorem readUnits_escapeChar
    (c : Char)
    (rest : List Char) :
    readUnits (escapeChar c ++ rest) =
      (readUnits rest).map fun (units, after) => (.char c :: units, after) := by
  have escape (letter : Char) (notLetter : letter ≠ 'u')
      (isEscape : simpleEscape? letter = some c) :
      readUnits ('\\' :: letter :: rest) =
        (readUnits rest).map fun (units, after) => (.char c :: units, after) := by
    rw [readUnits]
    · rw [isEscape]
      cases readUnits rest <;> rfl
    · exact fun _ _ _ _ _ isLetter _ => notLetter isLetter
  rw [escapeChar]
  split
  · next same =>
      subst same
      exact escape '"' (by decide) rfl
  split
  · next same =>
      subst same
      exact escape '\\' (by decide) rfl
  split
  · next same =>
      subst same
      exact escape 'n' (by decide) rfl
  split
  · next same =>
      subst same
      exact escape 'r' (by decide) rfl
  split
  · next same =>
      subst same
      exact escape 't' (by decide) rfl
  split
  · next same =>
      subst same
      exact escape 'b' (by decide) rfl
  split
  · next same =>
      subst same
      exact escape 'f' (by decide) rfl
  split
  · next control =>
      have isCode : StringUnit.ofCode c.toNat = .char c := by
        rw [StringUnit.ofCode, if_neg (by omega), Char.ofNat_toNat]
      simp only [List.cons_append, List.nil_append]
      rw [readUnits, hex4?_control control]
      simp only [Option.bind_eq_bind, Option.bind_some, isCode]
      cases readUnits rest <;> rfl
  · next notQuote notBackslash _ _ _ _ _ visible =>
      rw [List.singleton_append, readUnits]
      · rw [if_neg (by simp [visible, notBackslash])]
      · exact notQuote
      · exact fun _ _ _ _ _ isBackslash _ => notBackslash isBackslash
      · exact fun _ _ isBackslash _ => notBackslash isBackslash

theorem readUnits_flatMap_escapeChar
    (text rest : List Char) :
    readUnits (text.flatMap escapeChar ++ '"' :: rest) = some (text.map .char, rest) := by
  induction text with
  | nil => rfl
  | cons c text inductionHypothesis =>
      rw [List.flatMap_cons, List.append_assoc, readUnits_escapeChar, inductionHypothesis]
      rfl

theorem charsOfUnits_map_char (text : List Char) : charsOfUnits (text.map .char) = some text := by
  induction text with
  | nil => rfl
  | cons c text inductionHypothesis =>
      rw [List.map_cons, charsOfUnits, inductionHypothesis]
      rfl

/-- A written string is read as its text. -/
theorem readString_quote
    (text : String)
    (rest : List Char) :
    readString (text.toList.flatMap escapeChar ++ '"' :: rest) = some (.string text, rest) := by
  rw [readString, readUnits_flatMap_escapeChar]
  simp only [Option.bind_eq_bind, Option.bind_some, charsOfUnits_map_char, String.ofList_toList,
    Option.pure_def]

theorem quote_append
    (text rest : List Char) :
    quote text ++ rest = '"' :: (text.flatMap escapeChar ++ '"' :: rest) := by
  simp [quote]

/-! ## Integers -/

/-- A text cannot go on with a numeral that stands before it. -/
def Stops (rest : List Char) : Prop :=
  ∀ c ∈ rest.head?, c.isDigit = false ∧ c ≠ '.' ∧ c ≠ 'e' ∧ c ≠ 'E'

theorem stops_nil : Stops [] :=
  nofun

theorem stops_cons
    {c : Char}
    (isMark : c ∈ [',', ']', '\x7d', ' ', '\n', '\t', '\r'])
    (rest : List Char) :
    Stops (c :: rest) := by
  intro first isFirst
  obtain rfl := Option.some.inj isFirst
  simp only [List.mem_cons, List.not_mem_nil, or_false] at isMark
  rcases isMark with rfl | rfl | rfl | rfl | rfl | rfl | rfl <;> decide

theorem stops_gap_cons
    {gap : List Char}
    (isGap : IsGap gap)
    {c : Char}
    (isMark : c ∈ [',', ']', '\x7d'])
    (rest : List Char) :
    Stops (gap ++ c :: rest) := by
  cases gap with
  | nil =>
      refine stops_cons ?_ rest
      simp only [List.mem_cons, List.not_mem_nil, or_false] at isMark ⊢
      rcases isMark with rfl | rfl | rfl <;> decide
  | cons first more =>
      refine stops_cons ?_ _
      have isSpace := isGap first (.head _)
      simp only [Json.isSpace, Bool.or_eq_true, beq_iff_eq] at isSpace
      rcases isSpace with ((rfl | rfl) | rfl) | rfl <;> decide

/-- No number but zero is written with a zero in front. -/
theorem head?_toDigits_ne_zero
    {number : Nat}
    (positive : 0 < number) :
    (Nat.toDigits 10 number).head? ≠ some '0' := by
  induction number using Nat.strongRecOn with
  | _ number inductionHypothesis =>
      rw [Nat.toDigits_eq_if (by decide)]
      split
      · next small =>
          have all : ∀ digit : Fin 10, 0 < digit.val → [Nat.digitChar digit].head? ≠ some '0' := by
            decide
          exact all ⟨number, small⟩ positive
      · rw [List.head?_append_of_ne_nil _ Nat.toDigits_ne_nil]
        exact inductionHypothesis (number / 10) (by omega) (by omega)

theorem digitsValue_toDigits (number : Nat) : digitsValue (Nat.toDigits 10 number) = number := by
  have value := @Nat.ofDigitChars_toDigits 10 number (by decide) (by decide)
  simp only [Nat.ofDigitChars, Nat.mul_comm 10] at value
  exact value

theorem readWhole_toDigits
    (number : Nat)
    {rest : List Char}
    (stops : Stops rest) :
    readWhole (Nat.toDigits 10 number ++ rest) = some (Nat.toDigits 10 number, rest) := by
  have areDigits : ∀ c ∈ Nat.toDigits 10 number, c.isDigit = true := fun c =>
    Nat.isDigit_of_mem_toDigits (by decide) (by decide)
  have stop : rest.takeWhile Char.isDigit = [] ∧ rest.dropWhile Char.isDigit = rest := by
    cases rest with
    | nil => exact ⟨rfl, rfl⟩
    | cons c rest => simp [(stops c rfl).1]
  rcases Nat.eq_zero_or_pos number with rfl | positive
  · have isZero : Nat.toDigits 10 0 = ['0'] := by decide
    rw [isZero, List.singleton_append, readWhole, if_neg]
    cases rest with
    | nil => decide
    | cons c rest => simp [(stops c rfl).1]
  · have first := head?_toDigits_ne_zero positive
    have filled := @Nat.toDigits_ne_nil number 10
    generalize Nat.toDigits 10 number = digits at areDigits first filled ⊢
    obtain ⟨c, more, rfl⟩ := List.exists_cons_of_ne_nil filled
    rw [readWhole]
    · rw [List.takeWhile_append_of_pos areDigits, List.dropWhile_append_of_pos areDigits, stop.1, stop.2,
        List.append_nil, if_neg (by simp)]
    · intro after isZero
      rw [List.cons_append] at isZero
      exact first (congrArg some (List.cons.inj isZero).1)

theorem readFraction_of_stops
    {rest : List Char}
    (stops : Stops rest) :
    readFraction rest = some ([], rest) := by
  cases rest with
  | nil => rfl
  | cons c rest =>
      rw [readFraction]
      rintro _ same
      exact (stops c rfl).2.1 (List.cons.inj same).1

theorem readExponent_of_stops
    {rest : List Char}
    (stops : Stops rest) :
    readExponent rest = some (false, [], rest) := by
  cases rest with
  | nil => rfl
  | cons c rest =>
      rw [readExponent, if_neg]
      rintro (same | same)
      · exact (stops c rfl).2.2.1 same
      · exact (stops c rfl).2.2.2 same

/-- A written integer that fits in 64 bits is read as itself. -/
theorem readNumeral_integerDigits
    {value : Int}
    (least : Int64.minValue.toInt ≤ value)
    (most : value < UInt64.size)
    {rest : List Char}
    (stops : Stops rest) :
    readNumeral (integerDigits value ++ rest) = some (.integer value, rest) := by
  have whole := readWhole_toDigits value.natAbs stops
  have noSign : (Nat.toDigits 10 value.natAbs ++ rest).head? ≠ some '-' := by
    rw [List.head?_append_of_ne_nil _ Nat.toDigits_ne_nil]
    intro isSign
    have isDigit := @Nat.isDigit_of_mem_toDigits 10 value.natAbs _ (by decide) (by decide)
      (List.mem_of_head? isSign)
    exact absurd isDigit (by decide)
  rw [integerDigits]
  split
  · next negative =>
      rw [readNumeral]
      simp only [List.cons_append, List.head?_cons, BEq.rfl, if_true, List.drop_succ_cons,
        List.drop_zero, whole, readFraction_of_stops stops, readExponent_of_stops stops,
        Option.bind_eq_bind, Option.bind_some, Option.pure_def, Option.some.injEq, Prod.mk.injEq,
        and_true]
      rw [Numeral.value, if_neg (by simp), if_pos, digitsValue_toDigits]
      · congr 1
        omega
      · rw [digitsValue_toDigits]
        refine ⟨rfl, rfl, ?_, ?_⟩
        · omega
        · omega
  · next positive =>
      have unsigned : ((Nat.toDigits 10 value.natAbs ++ rest).head? == some '-') = false :=
        beq_false_of_ne noSign
      rw [readNumeral]
      simp only [unsigned, Bool.false_eq_true, if_false, whole, readFraction_of_stops stops,
        readExponent_of_stops stops, Option.bind_eq_bind, Option.bind_some, Option.pure_def,
        Option.some.injEq, Prod.mk.injEq, and_true]
      rw [Numeral.value, digitsValue_toDigits, if_pos ⟨rfl, Bool.false_ne_true, by omega⟩]
      congr 1
      omega

/-! ## Values -/

/-- What begins a written value: no white space, and no bracket that closes an array. -/
def BeginsValue (text : List Char) : Prop :=
  ∃ c rest, text = c :: rest ∧ isSpace c = false ∧ c ≠ ']'

theorem BeginsValue.append
    {text : List Char}
    (begins : BeginsValue text)
    (rest : List Char) :
    BeginsValue (text ++ rest) := by
  obtain ⟨c, more, rfl, visible, isOpen⟩ := begins
  exact ⟨c, more ++ rest, rfl, visible, isOpen⟩

theorem BeginsValue.length_pos
    {text : List Char}
    (begins : BeginsValue text) :
    0 < text.length := by
  obtain ⟨c, rest, rfl, -⟩ := begins
  exact Nat.succ_pos _

theorem BeginsValue.skipSpace
    {text : List Char}
    (begins : BeginsValue text)
    {gap : List Char}
    (isGap : IsGap gap) :
    skipSpace (gap ++ text) = text := by
  obtain ⟨c, rest, rfl, visible, -⟩ := begins
  exact skipSpace_gap_cons isGap visible rest

theorem beginsValue_integerDigits (value : Int) : BeginsValue (integerDigits value) := by
  rw [integerDigits]
  split
  · exact ⟨'-', _, rfl, by decide, by decide⟩
  · obtain ⟨c, rest, digits⟩ := List.exists_cons_of_ne_nil (@Nat.toDigits_ne_nil value.natAbs 10)
    have isDigit : c.isDigit = true :=
      Nat.isDigit_of_mem_toDigits (by decide) (by decide) (digits ▸ List.mem_cons_self)
    refine ⟨c, rest, digits, Bool.eq_false_iff.mpr fun isSpace => ?_, fun same => ?_⟩
    · simp only [Json.isSpace, Bool.or_eq_true, beq_iff_eq] at isSpace
      rcases isSpace with ((rfl | rfl) | rfl) | rfl <;> exact absurd isDigit (by decide)
    · exact absurd isDigit (same ▸ by decide)

theorem beginsValue_write
    {json : Json}
    (plain : json.isPlain = true)
    (layout : Layout) :
    BeginsValue (json.write layout) := by
  cases json with
  | null => exact ⟨_, _, rfl, by decide, by decide⟩
  | bool value => cases value <;> exact ⟨_, _, rfl, by decide, by decide⟩
  | integer value => exact beginsValue_integerDigits value
  | numeral spelling => cases plain
  | string value => exact ⟨_, _, rfl, by decide, by decide⟩
  | valueless => cases plain
  | array items => cases items <;> exact ⟨_, _, rfl, by decide, by decide⟩
  | object members => cases members <;> exact ⟨_, _, rfl, by decide, by decide⟩

theorem stops_writeItems
    (layout : Layout)
    (items : List Json)
    {gap : List Char}
    (isGap : IsGap gap)
    (rest : List Char) :
    Stops (writeItems layout items ++ (gap ++ ']' :: rest)) := by
  cases items with
  | nil => exact stops_gap_cons isGap (by decide) rest
  | cons item items => exact stops_cons (by decide) _

theorem stops_writeMembers
    (layout : Layout)
    (members : List (String × Json))
    {gap : List Char}
    (isGap : IsGap gap)
    (rest : List Char) :
    Stops (writeMembers layout members ++ (gap ++ '\x7d' :: rest)) := by
  cases members with
  | nil => exact stops_gap_cons isGap (by decide) rest
  | cons member members => exact stops_cons (by decide) _

/-- A numeral is what remains when a value begins with nothing else. -/
theorem readValue_integerDigits
    (fuel : Nat)
    (value : Int)
    (rest : List Char) :
    readValue (fuel + 1) (integerDigits value ++ rest) = readNumeral (integerDigits value ++ rest) := by
  obtain ⟨c, more, cut, isSign⟩ :
      ∃ c more, integerDigits value = c :: more ∧ (c = '-' ∨ c.isDigit = true) := by
    rw [integerDigits]
    split
    · exact ⟨_, _, rfl, .inl rfl⟩
    · obtain ⟨c, more, digits⟩ := List.exists_cons_of_ne_nil (@Nat.toDigits_ne_nil value.natAbs 10)
      exact ⟨c, more, digits, .inr
        (Nat.isDigit_of_mem_toDigits (by decide) (by decide) (digits ▸ List.mem_cons_self))⟩
  have differs : ∀ d : Char, d ≠ '-' → d.isDigit = false → c ≠ d := by
    rintro d notSign notDigit rfl
    rcases isSign with rfl | isDigit
    · exact notSign rfl
    · exact absurd isDigit (by simp [notDigit])
  rw [cut, List.cons_append, readValue]
  all_goals
    intro _ same
    exact differs _ (by decide) (by decide) (List.cons.inj same).1

/-- An array that is not empty is read item by item. -/
theorem readValue_array
    (fuel : Nat)
    {gap text : List Char}
    (isGap : IsGap gap)
    (begins : BeginsValue text) :
    readValue (fuel + 1) ('[' :: (gap ++ text)) =
      (readItems fuel text).map fun (items, after) => (.array items, after) := by
  obtain ⟨c, rest, rfl, visible, isOpen⟩ := begins
  rw [readValue, skipSpace_gap_cons isGap visible]
  split
  · next same => exact absurd (List.cons.inj same).1 isOpen
  · rfl

/-- An object that is not empty is read member by member. -/
theorem readValue_object
    (fuel : Nat)
    {gap : List Char}
    (isGap : IsGap gap)
    (text : List Char) :
    readValue (fuel + 1) ('\x7b' :: (gap ++ '"' :: text)) =
      (readMembers fuel ('"' :: text)).map fun (members, after) => (objectOfMembers members, after) := by
  rw [readValue, skipSpace_gap_cons isGap (by decide)]
  rfl

theorem colon_inner (layout : Layout) : layout.inner.colon = layout.colon := by
  cases layout <;> rfl

theorem exists_colon (layout : Layout) : ∃ gap, IsGap gap ∧ layout.colon = ':' :: gap := by
  cases layout with
  | compact => exact ⟨[], nofun, rfl⟩
  | indented level => exact ⟨[' '], fun c member => List.mem_singleton.mp member ▸ rfl, rfl⟩

/-- A member of an object as it is read, with its name as a value. -/
def spelled (member : String × Json) : Json × Json :=
  (.string member.1, member.2)

theorem objectOfMembers_spelled (members : List (String × Json)) :
    objectOfMembers (members.map spelled) = .object members := by
  have named : (members.map spelled).mapM
      (fun member => member.1.string?.map (·, member.2)) = some members := by
    induction members with
    | nil => rfl
    | cons member members inductionHypothesis =>
        rw [List.map_cons, List.mapM_cons, inductionHypothesis]
        rfl
  rw [objectOfMembers]
  erw [named]

section Steps

variable {fuel : Nat} {gap text more rest : List Char}
  (isGap : IsGap gap)
include isGap

theorem readItems_last
    {item : Json}
    (read : readValue fuel text = some (item, gap ++ ']' :: rest)) :
    readItems (fuel + 1) text = some ([item], rest) := by
  rw [readItems, read]
  simp only [Option.bind_eq_bind, Option.bind_some, skipSpace_gap_cons isGap (c := ']') (by decide)]
  rfl

theorem readItems_next
    {item : Json}
    {items : List Json}
    (read : readValue fuel text = some (item, ',' :: (gap ++ more)))
    (begins : BeginsValue more)
    (later : readItems fuel more = some (items, rest)) :
    readItems (fuel + 1) text = some (item :: items, rest) := by
  rw [readItems, read]
  simp only [Option.bind_eq_bind, Option.bind_some, skipSpace_cons (c := ',') (by decide),
    begins.skipSpace isGap, later]
  rfl

theorem readMembers_last
    {name : String}
    {space : List Char}
    (isSpace : IsGap space)
    (begins : BeginsValue text)
    {value : Json}
    (read : readValue fuel text = some (value, gap ++ '\x7d' :: rest)) :
    readMembers (fuel + 1) (quote name.toList ++ ':' :: (space ++ text)) =
      some ([(.string name, value)], rest) := by
  rw [quote_append, readMembers, readString_quote]
  simp only [Option.bind_eq_bind, Option.bind_some, skipSpace_cons (c := ':') (by decide),
    begins.skipSpace isSpace, read, skipSpace_gap_cons isGap (c := '\x7d') (by decide)]
  rfl

theorem readMembers_next
    {name : String}
    {space : List Char}
    (isSpace : IsGap space)
    (begins : BeginsValue text)
    {value : Json}
    {members : List (Json × Json)}
    (read : readValue fuel text = some (value, ',' :: (gap ++ more)))
    (beginsName : BeginsValue more)
    (later : readMembers fuel more = some (members, rest)) :
    readMembers (fuel + 1) (quote name.toList ++ ':' :: (space ++ text)) =
      some ((.string name, value) :: members, rest) := by
  rw [quote_append, readMembers, readString_quote]
  simp only [Option.bind_eq_bind, Option.bind_some, skipSpace_cons (c := ':') (by decide),
    begins.skipSpace isSpace, read, skipSpace_cons (c := ',') (by decide), beginsName.skipSpace isGap,
    later]
  rfl

end Steps

mutual

/-- A written value is read back, with what stands behind it left. -/
theorem readValue_write :
    (json : Json) → json.isPlain = true → (layout : Layout) → (fuel : Nat) → (rest : List Char) →
      (json.write layout).length ≤ fuel + 1 → Stops rest →
        readValue (fuel + 1) (json.write layout ++ rest) = some (json, rest)
  | .null, _, layout, fuel, rest, _, _ => by rw [write]; rfl
  | .bool true, _, layout, fuel, rest, _, _ => by rw [write]; rfl
  | .bool false, _, layout, fuel, rest, _, _ => by rw [write]; rfl
  | .integer value, plain, layout, fuel, rest, _, stops => by
      rw [isPlain, Bool.and_eq_true, decide_eq_true_eq, decide_eq_true_eq] at plain
      rw [write, readValue_integerDigits, readNumeral_integerDigits plain.1 plain.2 stops]
  | .string value, _, layout, fuel, rest, _, _ => by
      rw [write, quote_append, readValue, readString_quote]
  | .array [], _, layout, fuel, rest, _, _ => by rw [write]; rfl
  | .array (item :: items), plain, layout, fuel, rest, enough, _ => by
      rw [isPlain] at plain
      simp only [write, List.length_cons, List.length_append, List.length_nil] at enough
      have read := readItems_write item items plain layout.inner fuel layout.lineBreak rest
        (by omega) (isGap_lineBreak layout)
      rw [arePlainItems, Bool.and_eq_true] at plain
      have begins := beginsValue_write plain.1 layout.inner
      simp only [write, List.cons_append, List.append_assoc, List.nil_append]
      rw [readValue_array fuel (isGap_lineBreak layout.inner) (begins.append _), read]
      rfl
  | .object [], _, layout, fuel, rest, _, _ => by rw [write]; rfl
  | .object ((name, value) :: members), plain, layout, fuel, rest, enough, _ => by
      rw [isPlain] at plain
      simp only [write, List.length_cons, List.length_append, List.length_nil] at enough
      have read := readMembers_write name value members plain layout.inner fuel layout.lineBreak rest
        (by omega) (isGap_lineBreak layout)
      rw [quote_append, colon_inner] at read
      simp only [write, List.cons_append, List.append_assoc, List.nil_append, quote_append]
      rw [readValue_object fuel (isGap_lineBreak layout.inner), read, Option.map_some]
      dsimp only
      rw [objectOfMembers_spelled]
termination_by json => sizeOf json

/-- The written items of an array are read up to its end. -/
theorem readItems_write :
    (item : Json) → (items : List Json) → arePlainItems (item :: items) = true →
      (layout : Layout) → (fuel : Nat) → (gap rest : List Char) →
        (item.write layout).length + (writeItems layout items).length < fuel → IsGap gap →
          readItems fuel (item.write layout ++ (writeItems layout items ++ (gap ++ ']' :: rest))) =
            some (item :: items, rest)
  | item, [], plain, layout, fuel, gap, rest, enough, isGap => by
      rw [arePlainItems, Bool.and_eq_true] at plain
      have filled := (beginsValue_write plain.1 layout).length_pos
      obtain ⟨fuel, rfl⟩ : ∃ bound, fuel = bound + 2 := ⟨fuel - 2, by omega⟩
      exact readItems_last isGap (readValue_write item plain.1 layout fuel _ (by omega)
        (stops_writeItems layout [] isGap rest))
  | item, next :: items, plain, layout, fuel, gap, rest, enough, isGap => by
      rw [arePlainItems, Bool.and_eq_true] at plain
      have filled := (beginsValue_write plain.1 layout).length_pos
      obtain ⟨fuel, rfl⟩ : ∃ bound, fuel = bound + 2 := ⟨fuel - 2, by omega⟩
      have read := readValue_write item plain.1 layout fuel _ (by omega)
        (stops_writeItems layout (next :: items) isGap rest)
      simp only [writeItems, List.length_cons, List.length_append] at enough
      have later := readItems_write next items plain.2 layout (fuel + 1) gap rest (by omega) isGap
      rw [arePlainItems, Bool.and_eq_true] at plain
      have begins := (beginsValue_write plain.2.1 layout).append
        (writeItems layout items ++ (gap ++ ']' :: rest))
      simp only [writeItems, List.cons_append, List.append_assoc] at read ⊢
      exact readItems_next (isGap_lineBreak layout) read begins later
termination_by item items => sizeOf item + sizeOf items + 1

/-- The written members of an object are read up to its end. -/
theorem readMembers_write :
    (name : String) → (value : Json) → (members : List (String × Json)) →
      arePlainMembers ((name, value) :: members) = true →
        (layout : Layout) → (fuel : Nat) → (gap rest : List Char) →
          (value.write layout).length + (writeMembers layout members).length < fuel → IsGap gap →
            readMembers fuel (quote name.toList ++ (layout.colon ++ (value.write layout ++
              (writeMembers layout members ++ (gap ++ '\x7d' :: rest))))) =
                some (((name, value) :: members).map spelled, rest)
  | name, value, [], plain, layout, fuel, gap, rest, enough, isGap => by
      rw [arePlainMembers, Bool.and_eq_true] at plain
      have begins := beginsValue_write plain.1 layout
      have filled := begins.length_pos
      obtain ⟨fuel, rfl⟩ : ∃ bound, fuel = bound + 2 := ⟨fuel - 2, by omega⟩
      obtain ⟨space, isSpace, colon⟩ := exists_colon layout
      rw [colon]
      exact readMembers_last isGap isSpace (begins.append _) (readValue_write value plain.1 layout fuel _
        (by omega) (stops_writeMembers layout [] isGap rest))
  | name, value, (nextName, next) :: members, plain, layout, fuel, gap, rest, enough, isGap => by
      rw [arePlainMembers, Bool.and_eq_true] at plain
      have begins := beginsValue_write plain.1 layout
      have filled := begins.length_pos
      obtain ⟨fuel, rfl⟩ : ∃ bound, fuel = bound + 2 := ⟨fuel - 2, by omega⟩
      have read := readValue_write value plain.1 layout fuel _ (by omega)
        (stops_writeMembers layout ((nextName, next) :: members) isGap rest)
      simp only [writeMembers, List.length_cons, List.length_append] at enough
      have later := readMembers_write nextName next members plain.2 layout (fuel + 1) gap rest (by omega)
        isGap
      have beginsName : BeginsValue (quote nextName.toList) := ⟨_, _, rfl, by decide, by decide⟩
      obtain ⟨space, isSpace, colon⟩ := exists_colon layout
      simp only [writeMembers, List.cons_append, List.append_assoc] at read ⊢
      rw [colon] at read later ⊢
      exact readMembers_next (isGap_lineBreak layout) isSpace (begins.append _) read
        (beginsName.append _) later
termination_by _ value members => sizeOf value + sizeOf members + 1

end

/-- A written value is read back. -/
theorem read?_write
    {json : Json}
    (plain : json.isPlain = true)
    (layout : Layout) :
    read? (String.ofList (json.write layout)) = some json := by
  have start : skipSpace (json.write layout) = json.write layout :=
    @BeginsValue.skipSpace _ (beginsValue_write plain layout) [] nofun
  have read := readValue_write json plain layout (2 * (json.write layout).length + 1) [] (by omega)
    stops_nil
  rw [List.append_nil] at read
  rw [read?, String.toList_ofList, start, read]
  rfl

end Json
end TwinEditor
