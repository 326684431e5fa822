import TwinEditor.Json.Value

/-!
# Records

A record is a JSON object with known members, or a JSON array that gives the same fields by position.
A known member must not repeat, an array must not be longer than the list of fields, and members with
other names are passed over. A variant is a record that also says which kind of value it is, in a
member called `type` or in the first item.
-/

namespace TwinEditor
namespace Json

/-- The fields of a record, by name or by position. -/
inductive Fields
  | named (members : List (String × Json))
  | positional (items : List Json)
  deriving Repr

namespace Fields

/-- The fields that an object or array gives. -/
def ofJson? : Json → Option Fields
  | .object members => some (.named members)
  | .array items => some (.positional items)
  | _ => none

/-- The values of the known fields in their order, with nothing for a field that is not given. -/
def read? (names : List String) : Fields → Option (List (Option Json))
  | .named members =>
      if names.any fun name => 1 < members.countP (·.1 == name) then none
      else some (names.map fun name => (members.find? (·.1 == name)).map (·.2))
  | .positional items =>
      if names.length < items.length then none
      else some (names.mapIdx fun index _ => items[index]?)

end Fields

/-- How a variant says its kind. -/
inductive KindTag
  | named (name : String)
  | numbered (position : Nat)
  deriving Repr, DecidableEq

/-- The kind that a value of the member `type` gives. Only a variant that stands inside another one
may give its kind as the position in the list of kinds. -/
def KindTag.ofJson? (nested : Bool) : Json → Option KindTag
  | .string name => some (.named name)
  | .integer value => if nested ∧ 0 ≤ value then some (.numbered value.toNat) else none
  | _ => none

/-- The kind of a variant and its other fields. -/
def variant? (nested : Bool) : Json → Option (KindTag × Fields)
  | .object members => do
      let [(_, tag)] := members.filter (·.1 == "type") | none
      return (← KindTag.ofJson? nested tag, .named (members.filter (·.1 != "type")))
  | .array (tag :: items) => do
      return (← KindTag.ofJson? nested tag, .positional items)
  | _ => none

/-- The name of a kind, given the names of all kinds in their order. -/
def KindTag.resolve (kinds : List String) : KindTag → Option String
  | .named name => some name
  | .numbered position => kinds[position]?

/-- Write a variant: its kind and further members. -/
def variant (kind : String) (members : List (String × Json)) : Json :=
  .object (("type", .string kind) :: members)

/-- Read a variant with others inside it from its kind and fields, given a bound on how deeply it is nested
and whether it stands inside another. -/
def variantWithin? {α : Type} (ofFields? : (Json → Option α) → KindTag → Fields → Option α) :
    Nat → Bool → Json → Option α
  | 0, _, _ => none
  | bound + 1, nested, json => do
      let (tag, fields) ← json.variant? nested
      ofFields? (variantWithin? ofFields? bound true) tag fields

/-- A value of a kind that has no fields. Given by position, there must be no further items. -/
def withoutFields? {α : Type} (value : α) : Fields → Option α
  | .positional (_ :: _) => none
  | _ => some value

/-- Read a list of values that may be left out. -/
def optionalList? {α : Type} (read : Json → Option α) : Option Json → Option (List α)
  | none => some []
  | some (.array items) => items.mapM read
  | some _ => none

end Json
end TwinEditor
