import TwinEditor.Json.Value

/-!
# Reading JSON

The reader accepts exactly the JSON grammar: no comments, no trailing commas, no leading zeros, no
control characters inside strings, and nothing but white space around the value. A string with half
of a surrogate pair and a numeral beyond the range of binary floating point are read, but as values
that may only stand where nobody looks at them.
-/

namespace TwinEditor
namespace Json

/-- Whether a character is white space between JSON tokens. -/
def isSpace (c : Char) : Bool :=
  c == ' ' || c == '\n' || c == '\t' || c == '\r'

/-- The text from its first character that is not white space. -/
def skipSpace (text : List Char) : List Char :=
  text.dropWhile isSpace

/-- The value of a hexadecimal digit of either case. -/
def hexValue? (c : Char) : Option Nat :=
  if '0' ≤ c ∧ c ≤ '9' then some (c.toNat - 48)
  else if 'a' ≤ c ∧ c ≤ 'f' then some (c.toNat - 87)
  else if 'A' ≤ c ∧ c ≤ 'F' then some (c.toNat - 55)
  else none

/-- The value of four hexadecimal digits. -/
def hex4? (a b c d : Char) : Option Nat := do
  return (← hexValue? a) * 4096 + (← hexValue? b) * 256 + (← hexValue? c) * 16 + (← hexValue? d)

/-- A unit of a JSON string: a character, or half of a surrogate pair. -/
inductive StringUnit
  | char (c : Char)
  | surrogate (code : Nat)
  deriving Repr, DecidableEq

/-- The unit that a four-digit escape names. -/
def StringUnit.ofCode (code : Nat) : StringUnit :=
  if 0xD800 ≤ code ∧ code < 0xE000 then .surrogate code else .char (Char.ofNat code)

/-- The character that an escape letter stands for. -/
def simpleEscape? : Char → Option Char
  | '"' => some '"'
  | '\\' => some '\\'
  | '/' => some '/'
  | 'b' => some '\x08'
  | 'f' => some '\x0c'
  | 'n' => some '\n'
  | 'r' => some '\r'
  | 't' => some '\t'
  | _ => none

/-- The units of a string after its opening quote, and the text after its closing quote. -/
def readUnits : List Char → Option (List StringUnit × List Char)
  | [] => none
  | '"' :: rest => some ([], rest)
  | '\\' :: 'u' :: a :: b :: c :: d :: rest => do
      let code ← hex4? a b c d
      let (units, after) ← readUnits rest
      return (.ofCode code :: units, after)
  | '\\' :: c :: rest => do
      let escaped ← simpleEscape? c
      let (units, after) ← readUnits rest
      return (.char escaped :: units, after)
  | c :: rest =>
      if c.toNat < 0x20 ∨ c = '\\' then none
      else (readUnits rest).map fun (units, after) => (.char c :: units, after)

/-- The characters of a string, if every surrogate stands in a pair. -/
def charsOfUnits : List StringUnit → Option (List Char)
  | [] => some []
  | .char c :: rest => (charsOfUnits rest).map (c :: ·)
  | .surrogate high :: .surrogate low :: rest =>
      if high < 0xDC00 ∧ 0xDC00 ≤ low then
        (charsOfUnits rest).map
          (Char.ofNat (0x10000 + (high - 0xD800) * 0x400 + (low - 0xDC00)) :: ·)
      else none
  | .surrogate _ :: _ => none

/-- A numeral split into its parts. -/
structure Numeral where
  negative : Bool
  whole : List Char
  fraction : List Char
  exponentNegative : Bool
  exponent : List Char
  /-- Whether the numeral has neither a fraction nor an exponent. -/
  isPlain : Bool
  deriving Repr, DecidableEq

/-- The number that decimal digits write. -/
def digitsValue (digits : List Char) : Nat :=
  digits.foldl (fun value c => value * 10 + (c.toNat - 48)) 0

namespace Numeral

/-- Whether the magnitude is too large for binary floating point of 64 bits. -/
def isTooLarge (n : Numeral) : Bool :=
  let significand := digitsValue (n.whole ++ n.fraction)
  if significand = 0 ∨ n.exponentNegative ∧ n.whole.length < 308 then false
  else
    let exponent : Int :=
      (if n.exponentNegative then -(digitsValue n.exponent : Int) else digitsValue n.exponent) -
        n.fraction.length
    let digits : Int := (Nat.toDigits 10 significand).length
    if digits + exponent > 310 then true
    else if digits + exponent < 300 then false
    else
      let bound := Nat.pow 2 1024 - Nat.pow 2 970
      if 0 ≤ exponent then bound ≤ significand * Nat.pow 10 exponent.toNat
      else bound * Nat.pow 10 (-exponent).toNat ≤ significand

/-- The value of a numeral: an integer if it is plain, fits in 64 bits and is not minus zero. -/
def value (n : Numeral) (spelling : List Char) : Json :=
  let magnitude := digitsValue n.whole
  if n.isPlain ∧ ¬ n.negative ∧ magnitude < UInt64.size then .integer magnitude
  else if n.isPlain ∧ n.negative ∧ 0 < magnitude ∧ Int64.minValue.toInt ≤ -(magnitude : Int) then
    .integer (-magnitude)
  else if n.isTooLarge then .valueless
  else .numeral (String.ofList spelling)

end Numeral

/-- The whole part of a numeral: digits without a leading zero. -/
def readWhole (text : List Char) : Option (List Char × List Char) :=
  match text with
  | '0' :: rest => if rest.head?.any Char.isDigit then none else some (['0'], rest)
  | _ =>
      let digits := text.takeWhile Char.isDigit
      if digits.isEmpty then none else some (digits, text.dropWhile Char.isDigit)

/-- The fraction of a numeral, empty if there is none. -/
def readFraction (text : List Char) : Option (List Char × List Char) :=
  match text with
  | '.' :: rest =>
      let digits := rest.takeWhile Char.isDigit
      if digits.isEmpty then none else some (digits, rest.dropWhile Char.isDigit)
  | _ => some ([], text)

/-- The exponent of a numeral with its sign, empty if there is none. -/
def readExponent (text : List Char) : Option (Bool × List Char × List Char) :=
  match text with
  | c :: rest =>
      if c = 'e' ∨ c = 'E' then
        let negative := rest.head? == some '-'
        let unsigned := if negative ∨ rest.head? = some '+' then rest.drop 1 else rest
        let digits := unsigned.takeWhile Char.isDigit
        if digits.isEmpty then none
        else some (negative, digits, unsigned.dropWhile Char.isDigit)
      else some (false, [], text)
  | [] => some (false, [], [])

/-- A numeral and the text after it. -/
def readNumeral (text : List Char) : Option (Json × List Char) := do
  let negative := text.head? == some '-'
  let (whole, afterWhole) ← readWhole (if negative then text.drop 1 else text)
  let (fraction, afterFraction) ← readFraction afterWhole
  let (exponentNegative, exponent, after) ← readExponent afterFraction
  let numeral : Numeral :=
    ⟨negative, whole, fraction, exponentNegative, exponent, fraction.isEmpty && exponent.isEmpty⟩
  return (numeral.value (text.take (text.length - after.length)), after)

/-- A string after its opening quote, and the text after it. -/
def readString (text : List Char) : Option (Json × List Char) := do
  let (units, after) ← readUnits text
  match charsOfUnits units with
  | some chars => return (.string (String.ofList chars), after)
  | none => return (.valueless, after)

/-- The object with the given names and values. An object with a name that has no value has no value
itself. -/
def objectOfMembers (members : List (Json × Json)) : Json :=
  match members.mapM fun (name, value) => name.string?.map (·, value) with
  | some named => .object named
  | none => .valueless

mutual

/-- A value at the start of a text, and the text after it. -/
def readValue : Nat → List Char → Option (Json × List Char)
  | 0, _ => none
  | fuel + 1, text =>
      match text with
      | 'n' :: 'u' :: 'l' :: 'l' :: rest => some (.null, rest)
      | 't' :: 'r' :: 'u' :: 'e' :: rest => some (.bool true, rest)
      | 'f' :: 'a' :: 'l' :: 's' :: 'e' :: rest => some (.bool false, rest)
      | '"' :: rest => readString rest
      | '[' :: rest =>
          match skipSpace rest with
          | ']' :: after => some (.array [], after)
          | first => (readItems fuel first).map fun (items, after) => (.array items, after)
      | '\x7b' :: rest =>
          match skipSpace rest with
          | '\x7d' :: after => some (.object [], after)
          | first =>
              (readMembers fuel first).map fun (members, after) => (objectOfMembers members, after)
      | _ => readNumeral text

/-- The items of an array up to its closing bracket, and the text after that. -/
def readItems : Nat → List Char → Option (List Json × List Char)
  | 0, _ => none
  | fuel + 1, text => do
      let (item, after) ← readValue fuel text
      match skipSpace after with
      | ']' :: rest => return ([item], rest)
      | ',' :: rest =>
          let (items, last) ← readItems fuel (skipSpace rest)
          return (item :: items, last)
      | _ => none

/-- The members of an object up to its closing brace, and the text after that. -/
def readMembers : Nat → List Char → Option (List (Json × Json) × List Char)
  | 0, _ => none
  | fuel + 1, text => do
      let '"' :: nameText := text | none
      let (name, afterName) ← readString nameText
      let ':' :: afterColon := skipSpace afterName | none
      let (value, after) ← readValue fuel (skipSpace afterColon)
      match skipSpace after with
      | '\x7d' :: rest => return ([(name, value)], rest)
      | ',' :: rest =>
          let (members, last) ← readMembers fuel (skipSpace rest)
          return ((name, value) :: members, last)
      | _ => none

end

/-- The value that a whole text writes. -/
def read? (text : String) : Option Json :=
  let chars := text.toList
  match readValue (2 * chars.length + 2) (skipSpace chars) with
  | some (value, rest) => if (skipSpace rest).isEmpty then some value else none
  | none => none

end Json
end TwinEditor
