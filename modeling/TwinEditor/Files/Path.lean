import TwinEditor.Text.Lines

/-!
# Paths

A path is the list of names that lead from the top directory to a file or directory. In its text a
slash stands between names; a single dot stays in place and two dots undo the name before them.
-/

namespace TwinEditor
namespace Files

/-- The names that lead to a file or directory, the outermost first. -/
structure Path where
  names : List String
  deriving Repr, DecidableEq

namespace Path

/-- The path that a name leads to from here. -/
def step (path : Path) (name : String) : Path :=
  if name = "" ∨ name = "." then path
  else if name = ".." then ⟨path.names.dropLast⟩
  else ⟨path.names ++ [name]⟩

/-- Read a path. -/
def ofText (text : String) : Path :=
  (Text.splitAt '/' text.toList).foldl (fun path name => path.step (.ofList name)) ⟨[]⟩

/-- The text of a path. -/
def toText (path : Path) : String :=
  "/".intercalate path.names

/-- The directory that a path lies in. -/
def parent (path : Path) : Path :=
  ⟨path.names.dropLast⟩

/-- All directories on the way to a path and the path itself, the outermost first. -/
def ancestry (path : Path) : List Path :=
  (List.range path.names.length).map fun above => ⟨path.names.take (above + 1)⟩

/-- A name up to its last dot, or the whole name when it has no dot after its first character. -/
def stem (name : List Char) : List Char :=
  match Text.splitAt '.' name |>.reverse with
  | _ :: previous :: before =>
      let stem := List.intercalate ['.'] (previous :: before).reverse
      if stem.isEmpty then name else stem
  | _ => name

/-- The path with everything after the last dot of its last name replaced. -/
def withExtension (path : Path) (extension : String) : Path :=
  match path.names.getLast? with
  | some name => ⟨path.names.dropLast ++ [.ofList (stem name.toList) ++ "." ++ extension]⟩
  | none => path

end Path
end Files
end TwinEditor
