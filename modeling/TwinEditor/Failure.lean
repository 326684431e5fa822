/-!
# Failures

What can go wrong at the edges of the editor: with files of settings and with the store of documents.
Reading Markdown and converting documents never fail.
-/

namespace TwinEditor

/-- The cause of a failure. -/
inductive Failure
  | io (cause : String)
  | settingsUnreadable (path cause : String)
  | settingsUnwritten (path cause : String)
  | settingsMalformed (detail : String) (cause : Option String)
  | noSettingsDirectory
  | documentNotFound (id : String)
  | server (status : Nat) (detail : String)
  | malformedReply (detail : String) (cause : Option String)
  | noConflict
  | application (detail : String)
  deriving Repr, DecidableEq

namespace Failure

/-- A failure as a text for people. -/
def message : Failure → String
  | .io cause => "I/O error: " ++ cause
  | .settingsUnreadable path cause =>
      "Failed to load configuration from '" ++ path ++ "': " ++ cause
  | .settingsUnwritten path cause => "Failed to save configuration to '" ++ path ++ "': " ++ cause
  | .settingsMalformed detail _ => "Invalid configuration format: " ++ detail
  | .noSettingsDirectory => "Configuration directory not found"
  | .documentNotFound id => "Document '" ++ id ++ "' not found"
  | .server status detail => "Document store returned " ++ toString status ++ ": " ++ detail
  | .malformedReply detail _ => "Malformed response: " ++ detail
  | .noConflict => "No version conflict to resolve"
  | .application detail => detail

/-- Whether trying again later may succeed. -/
def isTransient : Failure → Bool
  | .io _ | .server .. | .application _ => true
  | _ => false

/-- The text of the failure underneath this one. -/
def cause? : Failure → Option String
  | .io cause | .settingsUnreadable _ cause | .settingsUnwritten _ cause => some cause
  | .settingsMalformed _ cause | .malformedReply _ cause => cause
  | _ => none

end Failure
end TwinEditor
