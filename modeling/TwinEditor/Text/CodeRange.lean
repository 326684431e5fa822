/-!
# Ranges of code points

Character classes of the Unicode standard are given as lists of inclusive ranges of code points.
A character is in a class when one of the ranges contains its code point.
-/

namespace TwinEditor
namespace Text

/-- An inclusive range of code points. -/
structure CodeRange where
  first : Nat
  last : Nat
  deriving Repr, DecidableEq

namespace CodeRange

/-- Whether a character lies in the range. -/
def contains (range : CodeRange) (c : Char) : Bool :=
  range.first ≤ c.toNat && c.toNat ≤ range.last

/-- Whether a character lies in one of the ranges. -/
def anyContains (ranges : List CodeRange) (c : Char) : Bool :=
  ranges.any (·.contains c)

end CodeRange
end Text
end TwinEditor
