import TwinEditor.Json.Printer
import TwinEditor.Json.Reader
import TwinEditor.Json.Record
import TwinEditor.Markdown.OptionsJson
import TwinEditor.Settings

/-!
# Settings as JSON

Settings are an object of two groups. Whatever is not mentioned has its standard value.
-/

namespace TwinEditor
namespace AutosaveSettings

/-- The periods as JSON. -/
def toJson (settings : AutosaveSettings) : Json :=
  .object [("debounce_ms", .ofNat settings.debounce), ("interval_ms", .ofNat settings.interval)]

/-- Read the periods. -/
def ofJson? (json : Json) : Option AutosaveSettings := do
  let [debounce, interval] ← (← Json.Fields.ofJson? json).read? ["debounce_ms", "interval_ms"] | none
  let period (value : Option Json) (unset : Nat) : Option Nat :=
    (value.getD (.ofNat unset)).natBelow? periodBound
  return ⟨← period debounce standard.debounce, ← period interval standard.interval⟩

end AutosaveSettings

namespace Settings

/-- Settings as JSON. -/
def toJson (settings : Settings) : Json :=
  .object [("markdown", settings.markdown.toJson), ("autosave", settings.autosave.toJson)]

/-- Read settings as they are written. -/
def ofJson? (json : Json) : Option Settings := do
  let [markdown, autosave] ← (← Json.Fields.ofJson? json).read? ["markdown", "autosave"] | none
  return {
    markdown := ← Markdown.Options.ofJson? (markdown.getD Markdown.Options.all.toJson)
    autosave := ← AutosaveSettings.ofJson? (autosave.getD AutosaveSettings.standard.toJson) }

/-- The text of a file of settings. -/
def toText (settings : Settings) : String :=
  settings.toJson.pretty

/-- Read the text of a file of settings. The periods are taken as they are. -/
def ofText? (text : String) : Option Settings := do
  ofJson? (← Json.read? text)

end Settings
end TwinEditor
