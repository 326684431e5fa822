import TwinEditor.Autosave.Run
import TwinEditor.Outline
import TwinEditor.Sync.Coordinator

/-!
# Editing sessions

A session ties one stored document to the coordinator of its two editors, to its outline and to the
machine that saves it. Every edit that is applied makes the outline anew, and a Markdown text that
differs from the one loaded or handed over last goes to the machine. A session takes one request at a
time: while the store has not answered the last one, only time, timers and answers go on.
-/

namespace TwinEditor

/-- A call to a session that is not over. -/
inductive Session.Call
  | flush
  | resolve (resolution : Autosave.Resolution)
  | close
  deriving Repr, DecidableEq

/-- One open document with both of its editors. -/
structure Session where
  /-- The document as it was fetched last. -/
  document : Store.Document
  coordinator : Sync.Coordinator
  /-- The counter that issues the identifiers of the outline. -/
  extractor : Outline.Extractor
  outline : Outline
  /-- The Markdown text that was loaded from the store, or handed to the machine, last. -/
  savedContent : String
  autosave : Autosave.Machine
  /-- The call that is not over, with its number. -/
  call : Option (Nat × Session.Call)
  isOpen : Bool

namespace Session

/-- What a session does to its surroundings. -/
inductive Effect
  | autosave (effect : Autosave.Effect)
  | surface (note : Sync.Note)
  | edited (outcome : Sync.Outcome)

/-- What a user asks for. -/
inductive Request
  | editMarkdown (text : String)
  | editDocument (document : RichText.Document)
  /-- Bind a surface of the rich-text editor, which may be gone already. -/
  | bind (destroyed : Bool)
  | flush
  | resolve (resolution : Autosave.Resolution)
  | close

/-- Perform a call to the coordinator. -/
def sync (session : Session) (call : Sync.Call) : Session × Sync.Answer × List Effect :=
  let (coordinator, answer, notes) := Sync.Coordinator.perform call session.coordinator
  ({ session with coordinator }, answer, notes.map .surface)

/-- Begin to edit a document that has just been fetched. -/
def ofDocument (settings : Settings) (document : Store.Document) : Session :=
  let (coordinator, _, _) :=
    Sync.Coordinator.perform (.syncMarkdown document.content) (.initial settings.markdown)
  let extracted := Outline.Extractor.start.extract coordinator.forms.tree
  let machine := Autosave.Machine.ofDocument (.ofSettings settings.autosave) document
  { document
    coordinator
    extractor := extracted.2
    outline := extracted.1
    savedContent := document.content
    autosave := (machine.request .start).1
    call := none
    isOpen := true }

/-- The Markdown text that is edited. -/
def markdown (session : Session) : String :=
  session.coordinator.forms.markdown

/-- Whether there is a content that the store has not accepted. -/
def hasUnsavedChanges (session : Session) : Bool :=
  session.autosave.pipeline.pending.isSome

/-- Make the outline anew, with identifiers from the first one on. -/
def refreshOutline (session : Session) : Session :=
  let extracted := session.extractor.reset.extract session.coordinator.forms.tree
  { session with extractor := extracted.2, outline := extracted.1 }

/-- Hand the Markdown text to the machine if it differs from the one handed over last. -/
def queue (session : Session) : Session × List Effect :=
  if session.markdown = session.savedContent then (session, [])
  else
    let (autosave, effects) := session.autosave.request (.save session.markdown)
    ({ session with autosave, savedContent := session.markdown }, effects.map .autosave)

/-- Take an edit. -/
def edit (session : Session) (call : Sync.Call) : Session × List Effect :=
  let (session, answer, pushed) := session.sync call
  match answer with
  | .synced (.applied editor) =>
      let (session, queued) := session.refreshOutline.queue
      (session, pushed ++ queued ++ [.edited (.applied editor)])
  | _ => (session, pushed ++ [.edited .skipped])

/-- Hand the current document to a surface, unless that is gone, and bind it. -/
def bind (session : Session) (destroyed : Bool) : Session × List Effect :=
  ({ session with coordinator := session.coordinator.bind (.quiet destroyed) },
    if destroyed then [] else [.surface (.pushed session.coordinator.forms.document)])

/-- The bound surface is gone from now on. -/
def destroySurface (session : Session) : Session :=
  { session with coordinator := session.coordinator.destroySurface }

/-- Adopt the document that a conflict was resolved with. Its content replaces the text only if that was
asked for. -/
def adopt (session : Session) (resolution : Autosave.Resolution) (latest : Store.Document) :
    Session × List Effect :=
  let session := { session with document := latest }
  match resolution with
  | .overwrite => (session, [])
  | .reload =>
      let (session, _, pushed) := session.sync (.syncMarkdown latest.content)
      ({ session.refreshOutline with savedContent := session.markdown }, pushed)

/-- Give the machine up for good, with its timers stopped. -/
def leave (session : Session) : Session :=
  { session with
    autosave := ((session.autosave.request .shutdown).1.request .release).1
    isOpen := false }

/-- How a call ends. -/
inductive Ending
  | attempted (attempt : Autosave.Attempt)
  | resolved (reply : Store.FetchReply)

/-- How the call with a number ends, if one of the effects of the machine says so. -/
def ending? (number : Nat) : List Autosave.Effect → Option Ending
  | [] => none
  | .attempted other attempt :: rest =>
      if other = number then some (.attempted attempt) else ending? number rest
  | .resolved other reply :: rest =>
      if other = number then some (.resolved reply) else ending? number rest
  | _ :: rest => ending? number rest

/-- End a call. -/
def finish (session : Session) (call : Call) (ending : Ending) : Session × List Effect :=
  let session := { session with call := none }
  match call, ending with
  | .resolve resolution, .resolved (.ok latest) => session.adopt resolution latest
  | .close, _ => (session.leave, [])
  | _, _ => (session, [])

/-- Go on after a step of the machine. The call that is not over may end with it. -/
def proceed (session : Session) (effects : List Autosave.Effect) : Session × List Effect :=
  match session.call with
  | none => (session, effects.map .autosave)
  | some (number, call) =>
      match ending? number effects with
      | none => (session, effects.map .autosave)
      | some ending =>
          let (session, further) := session.finish call ending
          (session, effects.map .autosave ++ further)

/-- Ask the machine for something that the store may have to answer first. -/
def ask (session : Session) (call : Call) (request : Autosave.Request) : Session × List Effect :=
  let number := session.autosave.nextNumber
  let (autosave, effects) := session.autosave.request request
  { session with autosave, call := some (number, call) }.proceed effects

/-- Whether the session takes a request now. -/
def isReady (session : Session) : Bool :=
  session.isOpen && session.call.isNone

/-- Do what a user asks for, if the session takes a request now. -/
def request? (session : Session) (request : Request) : Option (Session × List Effect) :=
  if session.isReady then
    some <| match request with
    | .editMarkdown text => session.edit (.syncMarkdown text)
    | .editDocument document => session.edit (.syncDocument (.done document))
    | .bind destroyed => session.bind destroyed
    | .flush => session.ask .flush .flush
    | .resolve resolution => session.ask (.resolve resolution) (.resolve resolution)
    | .close => session.ask .close .flush
  else none

/-- The session after a call was given up by its owner. A session that was being closed is given up with
the call. -/
def abandonCall (session : Session) (number : Nat) : Session :=
  match session.call with
  | some (current, call) =>
      if current = number then
        match call with
        | .close =>
            { session with
              call := none
              isOpen := false
              autosave := (session.autosave.request .release).1 }
        | _ => { session with call := none }
      else session
  | none => session

/-- What an occurrence does, if it is possible now. -/
def occur? (session : Session) (occurrence : Autosave.Occurrence) :
    Option (Session × List Effect) := do
  let (autosave, effects) ← session.autosave.occur? occurrence
  let session := { session with autosave }
  match occurrence with
  | .cancel number => return (session.abandonCall number, effects.map .autosave)
  | _ => return session.proceed effects

instance : Autosave.Timed Session Effect where
  machine session := session.autosave
  occur? := occur?
  effect?
    | .autosave effect => some effect
    | _ => none

end Session
end TwinEditor
