/-!
# Trimming

Removing characters of a class from either end of a text. The text of a document is handled as a list
of characters throughout.
-/

namespace TwinEditor
namespace Text

/-- The text without the characters of a class at its start. -/
def trimStart (p : Char → Bool) (text : List Char) : List Char :=
  text.dropWhile p

/-- The text without the characters of a class at its end. -/
def trimEnd (p : Char → Bool) (text : List Char) : List Char :=
  (text.reverse.dropWhile p).reverse

/-- The text without the characters of a class at either end. -/
def trim (p : Char → Bool) (text : List Char) : List Char :=
  trimEnd p (trimStart p text)

theorem trimEnd_append_takeWhile (p : Char → Bool) (text : List Char) :
    trimEnd p text ++ (text.reverse.takeWhile p).reverse = text := by
  rw [trimEnd, ← List.reverse_append, List.takeWhile_append_dropWhile, List.reverse_reverse]

theorem length_trimEnd_le (p : Char → Bool) (text : List Char) :
    (trimEnd p text).length ≤ text.length := by
  have h := congrArg List.length (trimEnd_append_takeWhile p text)
  simp only [List.length_append] at h
  omega

end Text
end TwinEditor
