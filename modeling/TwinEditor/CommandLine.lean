import TwinEditor.Failure
import TwinEditor.Files.Volume
import TwinEditor.Json.Printer
import TwinEditor.Markdown.BlockPrinter
import TwinEditor.Markdown.Reader.Document
import TwinEditor.Markdown.TreeJson
import TwinEditor.Outline
import TwinEditor.RichText.Conversion
import TwinEditor.RichText.DocumentJson
import TwinEditor.SettingsFile

/-!
# The command line

A command reads one Markdown file and prints it in another form. The file of settings may be named by an
option, which stands before or after the name of the command. Arguments that are not understood end the
program before anything is read.
-/

namespace TwinEditor
namespace CommandLine

/-- What to do with a Markdown file. -/
inductive Command
  /-- Print its tree. -/
  | ast
  /-- Print its rich-text document. -/
  | structured
  /-- Print its outline, as JSON or as lines of text. -/
  | outline (asJson : Bool)
  /-- Print it as it comes back from the rich-text document. -/
  | normalize
  deriving Repr, DecidableEq

/-- What the arguments ask for. -/
inductive Invocation
  | help
  | version
  | run (command : Command) (file : String) (settingsFile : Option String)
  deriving Repr, DecidableEq

/-- What the arguments have given so far. -/
structure Arguments where
  settingsFile : Option String
  file : Option String
  asJson : Bool
  deriving Repr, DecidableEq

namespace Arguments

/-- The arguments before the first one is read. -/
def none : Arguments :=
  ⟨.none, .none, false⟩

/-- Take the file of settings, which is given at most once. -/
def setSettingsFile? (arguments : Arguments) (value : String) : Option Arguments :=
  if value.isEmpty || arguments.settingsFile.isSome then .none
  else some { arguments with settingsFile := some value }

/-- Take the Markdown file, which is given at most once. -/
def setFile? (arguments : Arguments) (value : String) : Option Arguments :=
  if value.isEmpty || arguments.file.isSome then .none
  else some { arguments with file := some value }

end Arguments

/-- Whether an argument is an option and no value. -/
def isOption (argument : String) : Bool :=
  argument.startsWith "-" && argument != "-"

/-- The value that an argument gives to the option for the file of settings. -/
def attachedValue? (argument : String) : Option String :=
  let name := "--config=".toList
  if name.isPrefixOf argument.toList then some (.ofList (argument.toList.drop name.length)) else none

/-- Whether an argument asks for help. -/
def asksForHelp (argument : String) : Bool :=
  argument == "--help" || argument == "-h"

/-- How arguments are read: to their end, or up to one that asks for help. -/
inductive Reading (α : Type)
  | complete (value : α)
  | help
  deriving Repr

/-- Read what follows the name of a command. -/
def readCommandArguments (takesJson : Bool) (arguments : Arguments) :
    List String → Option (Reading Arguments)
  | [] => some (.complete arguments)
  | argument :: rest =>
      if argument = "--" then (rest.foldlM Arguments.setFile? arguments).map .complete
      else if asksForHelp argument then some .help
      else if argument = "--json" ∧ takesJson ∧ !arguments.asJson then
        readCommandArguments takesJson { arguments with asJson := true } rest
      else if argument = "--config" then
        match rest with
        | [] => none
        | value :: rest => do
            if isOption value then none
            else readCommandArguments takesJson (← arguments.setSettingsFile? value) rest
      else
        match attachedValue? argument with
        | some value => do
            readCommandArguments takesJson (← arguments.setSettingsFile? value) rest
        | none => do
            if isOption argument then none
            else readCommandArguments takesJson (← arguments.setFile? argument) rest

/-- The command with a name, given whether its output is asked for as JSON. -/
def command? (name : String) (asJson : Bool) : Option Command :=
  match name with
  | "ast" => some .ast
  | "structured" => some .structured
  | "outline" => some (.outline asJson)
  | "normalize" => some .normalize
  | _ => none

/-- Read the arguments from the name of a command on, given the file of settings before it. -/
def readCommand (settingsFile : Option String) (name : String) (rest : List String) :
    Option Invocation := do
  let _ ← command? name false
  match ← readCommandArguments (name == "outline") .none rest with
  | .help => return .help
  | .complete arguments =>
      return .run (← command? name arguments.asJson) (← arguments.file)
        (arguments.settingsFile.or settingsFile)

/-- Read the arguments of a request for help on a command. -/
def readHelp : List String → Option Invocation
  | [] => some .help
  | [name] => if name = "help" then some .help else (command? name false).map fun _ => .help
  | _ => none

/-- Read all arguments. There is no result when they are not understood. -/
def readArguments (arguments : Arguments) : List String → Option Invocation
  | [] => none
  | argument :: rest =>
      if asksForHelp argument then some .help
      else if argument = "--version" ∨ argument = "-V" then some .version
      else if argument = "--config" then
        match rest with
        | [] => none
        | value :: rest => do
            if isOption value then none
            else readArguments (← arguments.setSettingsFile? value) rest
      else
        match attachedValue? argument with
        | some value => do readArguments (← arguments.setSettingsFile? value) rest
        | none =>
            if argument = "help" then readHelp rest
            else readCommand arguments.settingsFile argument rest

/-- What the arguments ask for. There is no result when they are not understood. -/
def invocation? (arguments : List String) : Option Invocation :=
  readArguments .none arguments

/-- What the program leaves behind. -/
structure Report where
  exitCode : UInt8
  output : String
  /-- What is told besides the output. -/
  complaint : Option String
  deriving Repr, DecidableEq

/-- A heading as a line of text. -/
def headingLine (depth : Nat) (entry : Outline.Entry) : String :=
  "".pushn ' ' (2 * depth) ++ "".pushn '#' entry.level.toNat ++ " " ++ entry.text ++
    " (" ++ entry.id ++ ")\n"

/-- An outline as lines of text. -/
def outlineText (outline : Outline) : String :=
  if outline.isEmpty then outline.summary ++ "\n"
  else String.join (outline.flatten.map fun (depth, heading) => headingLine depth heading.entry)

/-- What a command prints for a Markdown text. -/
def output (options : Markdown.Options) (command : Command) (text : String) : String :=
  let tree := Markdown.Tree.ofMarkdown options text
  let document := RichText.Document.ofMarkdown tree
  let outline := (Outline.Extractor.start.extract tree).1
  match command with
  | .ast => tree.toJson.pretty ++ "\n"
  | .structured => document.toText ++ "\n"
  | .outline true => outline.toJson.pretty ++ "\n"
  | .outline false => outlineText outline
  | .normalize => document.toMarkdown.toMarkdown

/-- How the program is called, as a text for people. -/
def usage : String :=
  "Usage: dualmark [--config <FILE>] <ast|structured|outline [--json]|normalize> <FILE>\n"

/-- The name and version of the program. -/
def versionText : String :=
  "dualmark 0.1.0\n"

/-- The report on arguments that are not understood. -/
def misused : Report :=
  ⟨2, "", some usage⟩

/-- The report of a command, given the settings and what reading its file gives. -/
def report (settings : Settings) (command : Command) (file : String)
    (text : Except Files.Refusal String) : Report :=
  match text with
  | .ok text => ⟨0, output settings.markdown command text, none⟩
  | .error refusal =>
      let failure : Failure :=
        .application ("Failed to read '" ++ file ++ "': " ++ refusal.message)
      ⟨1, "", some failure.message⟩

/-- What the program does with its arguments on a volume, given the directory for settings of all
programs. -/
def run (volume : Files.Volume) (base : Files.Path) (arguments : List String) : Report :=
  match invocation? arguments with
  | none => misused
  | some .help => ⟨0, usage, none⟩
  | some .version => ⟨0, versionText, none⟩
  | some (.run command file settingsFile) =>
      let path := (settingsFile.map Files.Path.ofText).getD (SettingsFile.standardPath base)
      report (SettingsFile.loadOrStandard volume path) command file
        (volume.readText (.ofText file))

end CommandLine
end TwinEditor
