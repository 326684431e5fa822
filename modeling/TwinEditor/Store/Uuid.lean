/-!
# Identifiers

Documents and projects are identified by numbers of 128 bits. An identifier is written as 32
hexadecimal digits in five groups. It may also be read without hyphens, in braces, or as a resource
name; the digits may be of either case.
-/

namespace TwinEditor
namespace Store

/-- An identifier of 128 bits. -/
structure Uuid where
  value : BitVec 128
  deriving Repr, DecidableEq

namespace Uuid

/-- The identifier whose bits are all zero. -/
def nil : Uuid :=
  ⟨0⟩

/-- The identifier with a given number. -/
def ofNat (number : Nat) : Uuid :=
  ⟨BitVec.ofNat 128 number⟩

/-- The hexadecimal digit at a place, counted from the least significant one. -/
def digit (id : Uuid) (place : Nat) : Char :=
  Nat.digitChar ((id.value >>> (4 * place)).toNat % 16)

/-- The digits from the most significant one. -/
def digits (id : Uuid) : List Char :=
  (List.range 32).reverse.map id.digit

/-- The sizes of the groups of digits. -/
def groupSizes : List Nat :=
  [8, 4, 4, 4, 12]

/-- Cut a list into groups of given sizes. -/
def groups {α : Type} : List Nat → List α → List (List α)
  | [], _ => []
  | size :: sizes, items => items.take size :: groups sizes (items.drop size)

/-- The text of an identifier. -/
def toText (id : Uuid) : String :=
  .ofList (List.intercalate ['-'] (groups groupSizes id.digits))

/-- The value of a hexadecimal digit. -/
def digitValue? (c : Char) : Option Nat :=
  if '0' ≤ c ∧ c ≤ '9' then some (c.toNat - '0'.toNat)
  else if 'a' ≤ c ∧ c ≤ 'f' then some (c.toNat - 'a'.toNat + 10)
  else if 'A' ≤ c ∧ c ≤ 'F' then some (c.toNat - 'A'.toNat + 10)
  else none

/-- Read digits with no hyphens. -/
def ofDigits? (text : List Char) : Option Uuid := do
  let values ← text.mapM digitValue?
  if values.length = 32 then
    return ofNat (values.foldl (fun number value => 16 * number + value) 0)
  else none

/-- Read five groups of digits with hyphens between them. -/
def ofGroups? (text : List Char) : Option Uuid :=
  let places := [8, 13, 18, 23]
  if text.length = 36 ∧ places.all (text[·]? == some '-') then
    ofDigits? ((text.zipIdx.filter fun (_, place) => !places.contains place).map (·.1))
  else none

/-- Read an identifier in any of its forms. -/
def ofText? (text : String) : Option Uuid :=
  let chars := text.toList
  let resourceName := "urn:uuid:".toList
  if chars.length = 32 then ofDigits? chars
  else if chars.length = 38 then
    if chars.head? = some '\x7b' ∧ chars.getLast? = some '\x7d' then ofGroups? (chars.extract 1 37)
    else none
  else if resourceName.isPrefixOf chars then ofGroups? (chars.drop resourceName.length)
  else ofGroups? chars

end Uuid
end Store
end TwinEditor
