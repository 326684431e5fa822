import TwinEditor.Markdown.Options

/-!
# Settings

What a user may choose: the extensions of the Markdown grammar and the periods of the two timers that
save documents. Periods are in milliseconds and fit in 64 bits.
-/

namespace TwinEditor

/-- The periods of the timers that save documents, in milliseconds. -/
structure AutosaveSettings where
  /-- How long after the last edit a document is saved. -/
  debounce : Nat
  /-- How often a document that keeps changing is saved. -/
  interval : Nat
  deriving Repr, DecidableEq

namespace AutosaveSettings

/-- A bound on the periods: they fit in 64 bits. -/
def periodBound : Nat := UInt64.size

/-- The periods in force when nothing is chosen. -/
def standard : AutosaveSettings :=
  ⟨1000, 30000⟩

/-- The shortest debounce period. -/
def minDebounce : Nat := 50

/-- The longest debounce period. -/
def maxDebounce : Nat := 60000

/-- The shortest interval. -/
def minInterval : Nat := 5000

/-- The nearest periods that are in range. The interval is never shorter than the debounce period. -/
def clamped (settings : AutosaveSettings) : AutosaveSettings :=
  let debounce := min (max settings.debounce minDebounce) maxDebounce
  ⟨debounce, max (max settings.interval minInterval) debounce⟩

end AutosaveSettings

/-- The choices of a user. -/
structure Settings where
  markdown : Markdown.Options
  autosave : AutosaveSettings
  deriving Repr, DecidableEq

namespace Settings

/-- The settings in force when nothing is chosen. -/
def standard : Settings :=
  ⟨.all, .standard⟩

/-- The settings with their periods moved into range. -/
def clamped (settings : Settings) : Settings :=
  { settings with autosave := settings.autosave.clamped }

end Settings
end TwinEditor
