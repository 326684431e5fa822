import TwinEditor.Failure
import TwinEditor.Files.Volume
import TwinEditor.SettingsJson
import TwinEditor.Text.Blank
import TwinEditor.Text.Trim

/-!
# Files of settings

Settings are loaded from a file and saved to it. A file that is not there, or that holds nothing but
white space, stands for the standard settings. Saving writes a second file beside the first and then
moves it into place, so that the first file is never half written.
-/

namespace TwinEditor
namespace SettingsFile

open Files

/-- Where the settings are inside the directory for settings of all programs. -/
def location : Path :=
  ⟨["dualmark", "config.json"]⟩

/-- The path of the settings, given the directory for settings of all programs. -/
def standardPath (base : Path) : Path :=
  ⟨base.names ++ location.names⟩

/-- The path of the file that is written before it is moved into place. -/
def backupPath (path : Path) : Path :=
  path.withExtension "json.bak"

/-- Settings from the text of a file. -/
def ofContent (text : String) : Except Failure Settings :=
  if text.toList.all Text.isBlank then .ok .standard
  else
    match Settings.ofText? text with
    | some settings => .ok settings.clamped
    | none => .error (.settingsMalformed "Failed to parse config file" none)

/-- Load settings from a file. Their periods are moved into range. -/
def load (volume : Volume) (path : Path) : Except Failure Settings :=
  if volume.exists? path then
    match volume.readText path with
    | .ok text => ofContent text
    | .error refusal => .error (.settingsUnreadable path.toText refusal.message)
  else .ok .standard

/-- Load settings from a file, with the standard settings in place of any failure. -/
def loadOrStandard (volume : Volume) (path : Path) : Settings :=
  (load volume path).toOption.getD .standard

/-- Make the directory that a file lies in, if it is not there. -/
def prepareDirectory (medium : Medium) (volume : Volume) (path : Path) : Volume × Option Refusal :=
  if volume.exists? path.parent then (volume, none)
  else volume.createDirectories medium path.parent

/-- Save settings to a file: the volume afterwards, and the failure if there is one. -/
def save (medium : Medium) (volume : Volume) (path : Path) (settings : Settings) :
    Volume × Except Failure Unit :=
  let failed (volume : Volume) (path : Path) (refusal : Refusal) : Volume × Except Failure Unit :=
    (volume, .error (.settingsUnwritten path.toText refusal.message))
  match prepareDirectory medium volume path with
  | (volume, some refusal) => failed volume path.parent refusal
  | (volume, none) =>
      match volume.perform medium (.write (backupPath path) settings.toText.toUTF8) with
      | (volume, some refusal) => failed volume (backupPath path) refusal
      | (volume, none) =>
          match volume.perform medium (.rename (backupPath path) path) with
          | (volume, some refusal) => failed volume path refusal
          | (volume, none) => (volume, .ok ())

end SettingsFile
end TwinEditor
