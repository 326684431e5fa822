import TwinEditor.CommandLine

/-!
# The program

The outermost layer of the command line: it reads the files that the arguments name and prints the
report.
-/

namespace TwinEditor
namespace CommandLine

/-- Read a file of the machine that the program runs on. -/
def readFile (file : String) : IO (Except Files.Refusal String) := do
  try
    match String.fromUTF8? (← IO.FS.readBinFile file) with
    | some text => return .ok text
    | none => return .error .notText
  catch _ => return .error .missing

/-- The file of settings when none is named. -/
def standardSettingsFile : IO (Option String) := do
  let location := "/" ++ SettingsFile.location.toText
  match ← IO.getEnv "XDG_CONFIG_HOME" with
  | some base => if base.startsWith "/" then return some (base ++ location) else homeSettingsFile location
  | none => homeSettingsFile location
where
  /-- The file of settings inside the home directory. -/
  homeSettingsFile (location : String) : IO (Option String) := do
    return (← IO.getEnv "HOME").map fun home => home ++ "/.config" ++ location

/-- Load the settings, with the standard ones in place of any failure. -/
def loadSettings (settingsFile : Option String) : IO Settings := do
  let some file ← (do if settingsFile.isSome then return settingsFile else standardSettingsFile)
    | return .standard
  match ← readFile file with
  | .ok text => return (SettingsFile.ofContent text).toOption.getD .standard
  | .error _ => return .standard

/-- Do what the arguments ask for. -/
def perform (arguments : List String) : IO Report := do
  match invocation? arguments with
  | none => return misused
  | some .help => return ⟨0, usage, none⟩
  | some .version => return ⟨0, versionText, none⟩
  | some (.run command file settingsFile) =>
      return report (← loadSettings settingsFile) command file (← readFile file)

end CommandLine
end TwinEditor

/-- Print the report on the arguments. -/
def main (arguments : List String) : IO UInt32 := do
  let report ← TwinEditor.CommandLine.perform arguments
  IO.print report.output
  if let some complaint := report.complaint then IO.eprintln complaint
  return report.exitCode.toUInt32
