import TwinEditor.Files.Path

/-!
# Volumes

A volume holds files and directories. Every operation either succeeds or is refused, and the medium
that a volume lies on may refuse an operation that the volume itself allows.
-/

namespace TwinEditor
namespace Files

/-- What a path leads to. -/
inductive Entry
  | file (content : ByteArray)
  | directory

/-- Why an operation is refused. -/
inductive Refusal
  | missing
  | isDirectory
  | notDirectory
  | badName
  | notText
  | medium
  deriving Repr, DecidableEq

/-- A refusal as a text for people. -/
def Refusal.message : Refusal → String
  | .missing => "no such file or directory"
  | .isDirectory => "is a directory"
  | .notDirectory => "not a directory"
  | .badName => "invalid file name"
  | .notText => "stream did not contain valid UTF-8"
  | .medium => "input/output error"

/-- An operation that changes a volume. -/
inductive Operation
  | createDirectory (path : Path)
  | write (path : Path) (content : ByteArray)
  | rename (source target : Path)

/-- What a volume lies on. For an operation that it refuses, the medium says how many bytes of the
content have been written by then. -/
structure Medium where
  refused? : Operation → Option Nat

/-- The medium that refuses nothing. -/
def Medium.sound : Medium :=
  ⟨fun _ => none⟩

/-- Files and directories with their paths. The top directory is always there. -/
structure Volume where
  entries : List (Path × Entry)

namespace Volume

/-- The volume with nothing on it. -/
def empty : Volume :=
  ⟨[]⟩

/-- What a path leads to, if anything. -/
def lookup? (volume : Volume) (path : Path) : Option Entry :=
  if path.names.isEmpty then some .directory
  else (volume.entries.find? (·.1 == path)).map (·.2)

/-- Whether a path leads to anything. -/
def exists? (volume : Volume) (path : Path) : Bool :=
  (volume.lookup? path).isSome

/-- The volume with nothing at a path. -/
def erase (volume : Volume) (path : Path) : Volume :=
  ⟨volume.entries.filter (·.1 != path)⟩

/-- The volume with an entry at a path. -/
def insert (volume : Volume) (path : Path) (entry : Entry) : Volume :=
  ⟨(path, entry) :: (volume.erase path).entries⟩

/-- The greatest size of a name in bytes. -/
def nameLimit : Nat := 255

/-- Whether a name can be given to a file or directory. -/
def isValidName (name : String) : Bool :=
  name.utf8ByteSize ≤ nameLimit && !name.toList.contains '\x00'

/-- Why nothing can be made at a path: its directory is missing, or its name is not valid. -/
def obstacle? (volume : Volume) (path : Path) : Option Refusal :=
  if !path.names.all isValidName then some .badName
  else
    match volume.lookup? path.parent with
    | some .directory => none
    | some (.file _) => some .notDirectory
    | none => some .missing

/-- Make a directory where there is none. -/
def createDirectory (volume : Volume) (path : Path) : Except Refusal Volume :=
  match volume.lookup? path with
  | some .directory => .ok volume
  | some (.file _) => .error .notDirectory
  | none =>
      match volume.obstacle? path with
      | some refusal => .error refusal
      | none => .ok (volume.insert path .directory)

/-- Give a file its content. The file is made if it is not there. -/
def write (volume : Volume) (path : Path) (content : ByteArray) : Except Refusal Volume :=
  match volume.lookup? path with
  | some .directory => .error .isDirectory
  | _ =>
      match volume.obstacle? path with
      | some refusal => .error refusal
      | none => .ok (volume.insert path (.file content))

/-- Move a file to a path, in place of the file that may be there. -/
def rename (volume : Volume) (source target : Path) : Except Refusal Volume :=
  match volume.lookup? source, volume.lookup? target with
  | some (.file _), some .directory => .error .isDirectory
  | some (.file content), _ =>
      match volume.obstacle? target with
      | some refusal => .error refusal
      | none => .ok ((volume.erase source).insert target (.file content))
  | some .directory, _ => .error .isDirectory
  | none, _ => .error .missing

/-- What an operation does on a sound medium. -/
def apply (volume : Volume) : Operation → Except Refusal Volume
  | .createDirectory path => volume.createDirectory path
  | .write path content => volume.write path content
  | .rename source target => volume.rename source target

/-- Perform an operation on a medium: the volume afterwards, and the refusal if there is one. A write
that the medium refuses leaves the bytes that have been written. -/
def perform (medium : Medium) (volume : Volume) (operation : Operation) : Volume × Option Refusal :=
  match volume.apply operation, medium.refused? operation with
  | .error refusal, _ => (volume, some refusal)
  | .ok after, none => (after, none)
  | .ok _, some written =>
      match operation with
      | .write path content =>
          ((volume.write path (content.extract 0 written)).toOption.getD volume, some .medium)
      | _ => (volume, some .medium)

/-- Make a directory and all directories on the way to it. -/
def createDirectories (medium : Medium) (volume : Volume) (path : Path) : Volume × Option Refusal :=
  path.ancestry.foldl
    (fun (volume, refusal) path =>
      match refusal with
      | some refusal => (volume, some refusal)
      | none => volume.perform medium (.createDirectory path))
    (volume, none)

/-- The content of a file. -/
def read (volume : Volume) (path : Path) : Except Refusal ByteArray :=
  match volume.lookup? path with
  | some (.file content) => .ok content
  | some .directory => .error .isDirectory
  | none => .error .missing

/-- The text of a file. -/
def readText (volume : Volume) (path : Path) : Except Refusal String := do
  match String.fromUTF8? (← volume.read path) with
  | some text => .ok text
  | none => .error .notText

/-- The texts of all paths in order, those of directories with a slash at the end. -/
def listing (volume : Volume) : List String :=
  (volume.entries.map fun (path, entry) =>
    match entry with
    | .file _ => path.toText
    | .directory => path.toText ++ "/").mergeSort fun a b => !decide (b < a)

end Volume
end Files
end TwinEditor
