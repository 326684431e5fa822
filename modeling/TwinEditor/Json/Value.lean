/-!
# JSON values

A JSON value as its text gives it: members keep their order and may repeat a name, and integers are
told apart from all other numerals, because only integers are ever asked for.
-/

namespace TwinEditor

/-- A JSON value. -/
inductive Json
  | null
  | bool (value : Bool)
  /-- An integer that fits in 64 bits, signed or unsigned. -/
  | integer (value : Int)
  /-- Any other numeral, with its spelling. -/
  | numeral (spelling : String)
  | string (value : String)
  /-- A string or numeral that has no value: half of a surrogate pair, or a number too large to
  represent. It may stand only where the value is not looked at. -/
  | valueless
  | array (items : List Json)
  | object (members : List (String × Json))
  deriving Repr, BEq, Inhabited

namespace Json

mutual

/-- How deeply arrays and objects are nested in a value. -/
def depth : Json → Nat
  | .array items => depthOfItems items + 1
  | .object members => depthOfMembers members + 1
  | _ => 0

/-- The largest depth among the items of an array. -/
def depthOfItems : List Json → Nat
  | [] => 0
  | item :: rest => max item.depth (depthOfItems rest)

/-- The largest depth among the members of an object. -/
def depthOfMembers : List (String × Json) → Nat
  | [] => 0
  | (_, value) :: rest => max value.depth (depthOfMembers rest)

end

mutual

/-- Whether every string and numeral inside a value has a value. -/
def hasValue : Json → Bool
  | .valueless => false
  | .array items => itemsHaveValue items
  | .object members => membersHaveValue members
  | _ => true

/-- Whether every string and numeral inside the items of an array has a value. -/
def itemsHaveValue : List Json → Bool
  | [] => true
  | item :: rest => item.hasValue && itemsHaveValue rest

/-- Whether every string and numeral inside the members of an object has a value. -/
def membersHaveValue : List (String × Json) → Bool
  | [] => true
  | (_, value) :: rest => value.hasValue && membersHaveValue rest

end

/-- The value of the last member with a given name. -/
def member? (name : String) : Json → Option Json
  | .object members => (members.reverse.find? (·.1 == name)).map (·.2)
  | _ => none

/-- The text of a string. -/
def string? : Json → Option String
  | .string value => some value
  | _ => none

/-- The truth value of a boolean. -/
def bool? : Json → Option Bool
  | .bool value => some value
  | _ => none

/-- The items of an array. -/
def array? : Json → Option (List Json)
  | .array items => some items
  | _ => none

/-- The value of an integer. -/
def integer? : Json → Option Int
  | .integer value => some value
  | _ => none

/-- An integer that is not negative and below a bound. -/
def natBelow? (bound : Nat) : Json → Option Nat
  | .integer value => if 0 ≤ value ∧ value < bound then some value.toNat else none
  | _ => none

/-- A text or nothing: `null` stands for nothing. -/
def optionalString? : Json → Option (Option String)
  | .null => some none
  | .string value => some (some value)
  | _ => none

/-- A text, or `null` for nothing. -/
def ofOptionalString : Option String → Json
  | none => .null
  | some value => .string value

/-- A natural number as a JSON integer. -/
def ofNat (value : Nat) : Json :=
  .integer value

end Json
end TwinEditor
