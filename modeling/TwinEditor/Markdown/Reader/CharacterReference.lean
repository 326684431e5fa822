import TwinEditor.Text.NamedReference
import TwinEditor.Text.Punctuation
import TwinEditor.Markdown.Escape

/-!
# Character references and backslash escapes

A character reference is a name or a number between an ampersand and a semicolon. Numbers have at most
seven digits, decimal or hexadecimal; those of no character stand for the replacement character.
-/

namespace TwinEditor
namespace Markdown
namespace Reader

/-- The value of a digit in base sixteen or below. -/
def digitValue (c : Char) : Nat :=
  if c.isDigit then c.toNat - 48
  else if 'a' ≤ c ∧ c ≤ 'f' then c.toNat - 87
  else c.toNat - 55

/-- The number that digits write in a base. -/
def numberOfDigits (base : Nat) (digits : List Char) : Nat :=
  digits.foldl (fun value c => value * base + digitValue c) 0

/-- The character with a code point. The replacement character stands for zero, for the range of the
surrogates with the code point behind it, and for what is above the last code point. -/
def characterOf (code : Nat) : Char :=
  if code = 0 ∨ (0xD800 ≤ code ∧ code ≤ 0xE000) ∨ 0x110000 ≤ code then Char.ofNat 0xFFFD
  else Char.ofNat code

/-- Between one and `most` digits of a class with a semicolon behind them, read in a base. -/
def numericReference? (isDigit : Char → Bool) (base most : Nat) (text : List Char) :
    Option (List Char × Nat) :=
  let digits := text.takeWhile isDigit
  if 1 ≤ digits.length ∧ digits.length ≤ most ∧ (text.dropWhile isDigit).head? = some ';' then
    some ([characterOf (numberOfDigits base digits)], digits.length + 1)
  else none

/-- What the character reference after an ampersand stands for, and its length. -/
def characterReference? : List Char → Option (List Char × Nat)
  | '#' :: 'x' :: rest | '#' :: 'X' :: rest =>
      (numericReference? Escape.isHexDigit 16 7 rest).map fun (chars, length) => (chars, length + 2)
  | '#' :: rest =>
      (numericReference? Char.isDigit 10 7 rest).map fun (chars, length) => (chars, length + 1)
  | text =>
      let tail := ((text.drop 2).take 30).takeWhile fun c => c != ' ' && c != ';'
      let name := text.take 2 ++ tail
      if (text.drop name.length).head? = some ';' ∧ name.length ≤ 31 then
        (Text.namedReference? name).map fun chars => (chars, name.length + 1)
      else none

/-- A text with its character references replaced. The count says how many characters are part of a
reference already read. -/
def decodeReferencesFrom (skip : Nat) : List Char → List Char
  | [] => []
  | c :: rest =>
      match skip with
      | skip + 1 => decodeReferencesFrom skip rest
      | 0 =>
          if c = '&' then
            match characterReference? rest with
            | some (chars, length) => chars ++ decodeReferencesFrom length rest
            | none => c :: decodeReferencesFrom 0 rest
          else c :: decodeReferencesFrom 0 rest

/-- A text with its character references replaced. -/
def decodeReferences (text : List Char) : List Char :=
  decodeReferencesFrom 0 text

/-- A text with its backslash escapes replaced by what they escape. -/
def removeEscapes : List Char → List Char
  | '\\' :: c :: rest =>
      if Text.isAsciiPunctuation c then c :: removeEscapes rest
      else '\\' :: removeEscapes (c :: rest)
  | c :: rest => c :: removeEscapes rest
  | [] => []

end Reader
end Markdown
end TwinEditor
