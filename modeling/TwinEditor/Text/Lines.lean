/-!
# Lines

Cutting a text at a separating character and joining the pieces again. Joining is the inverse of
cutting, and a text always has at least one piece.
-/

namespace TwinEditor
namespace Text

/-- The pieces of a text between the occurrences of a separating character. -/
def splitAt (separator : Char) : List Char → List (List Char)
  | [] => [[]]
  | c :: rest =>
      if c = separator then [] :: splitAt separator rest
      else
        match splitAt separator rest with
        | [] => [[c]]
        | piece :: pieces => (c :: piece) :: pieces

/-- The lines of a text. -/
def lines (text : List Char) : List (List Char) :=
  splitAt '\n' text

/-- Lines joined by line feeds. -/
def unlines (pieces : List (List Char)) : List Char :=
  List.intercalate ['\n'] pieces

/-- The text with every line feed turned into a space. -/
def onOneLine (text : List Char) : List Char :=
  text.map fun c => if c = '\n' then ' ' else c

/-- The text with every occurrence of a character written as another text. -/
def replaceChar (target : Char) (replacement : List Char) (text : List Char) : List Char :=
  text.flatMap fun c => if c = target then replacement else [c]

/-- The length of the longest run of a character. -/
def longestRun (target : Char) (text : List Char) : Nat :=
  go 0 0 text
where
  /-- The larger of `longest` and the runs of a text that follows a run of length `current`. -/
  go (longest current : Nat) : List Char → Nat
    | [] => longest
    | c :: rest =>
        if c = target then go (max longest (current + 1)) (current + 1) rest
        else go longest 0 rest

theorem splitAt_ne_nil (separator : Char) (text : List Char) : splitAt separator text ≠ [] := by
  cases text with
  | nil => simp [splitAt]
  | cons c rest =>
    rw [splitAt]
    split
    · simp
    · split <;> simp

theorem intercalate_splitAt (separator : Char) (text : List Char) :
    List.intercalate [separator] (splitAt separator text) = text := by
  induction text with
  | nil => rfl
  | cons c rest ih =>
    rw [splitAt]
    split
    · next h =>
      obtain ⟨piece, pieces, h'⟩ := List.exists_cons_of_ne_nil (splitAt_ne_nil separator rest)
      rw [h'] at ih ⊢
      simpa [List.intercalate, List.intersperse, h] using ih
    · split
      · next h => exact absurd h (splitAt_ne_nil separator rest)
      · next piece pieces h =>
        rw [h] at ih
        cases pieces with
        | nil => simpa [List.intercalate, List.intersperse] using ih
        | cons next others => simpa [List.intercalate, List.intersperse] using ih

theorem unlines_lines (text : List Char) : unlines (lines text) = text :=
  intercalate_splitAt '\n' text

end Text
end TwinEditor
