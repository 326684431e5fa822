import TwinEditor.Settings
import TwinEditor.Store.Document

/-!
# The pipeline of a document

The pipeline buffers the latest content of a document in a single slot and remembers the version that
the store gave last. Each definition here is one step that nothing can interrupt: buffering a content,
beginning a write, taking the answer to it, and adopting the document of the store after a conflict.
A conflict halts all writing until it is resolved.
-/

namespace TwinEditor
namespace Autosave

open Store

/-- The periods of the two timers in milliseconds. -/
structure Config where
  debounce : Nat
  interval : Nat
  deriving Repr, DecidableEq

namespace Config

/-- The periods in force when nothing is chosen. -/
def standard : Config :=
  ⟨AutosaveSettings.standard.debounce, AutosaveSettings.standard.interval⟩

/-- The periods that settings choose, moved into range. -/
def ofSettings (settings : AutosaveSettings) : Config :=
  ⟨settings.clamped.debounce, settings.clamped.interval⟩

/-- The periods with the standard interval in place of an empty one, which no timer can run with. -/
def checked (config : Config) : Config :=
  if config.interval = 0 then { config with interval := standard.interval } else config

end Config

/-- Where a document stands between an edit and its write. -/
inductive Phase
  /-- Nothing is planned. -/
  | idle
  /-- A content is buffered and the debounce timer is armed. -/
  | pendingDebounce
  /-- The store has not answered a write yet. -/
  | saving
  /-- The store refused an old version, and nothing is written until that is resolved. -/
  | conflict
  deriving Repr, DecidableEq

/-- How to leave a conflict. -/
inductive Resolution
  /-- Drop the buffered content and adopt the document of the store. -/
  | reload
  /-- Adopt the version of the store and write the buffered content over its document. -/
  | overwrite
  deriving Repr, DecidableEq

/-- What is announced when a write is answered. -/
inductive Event
  | saved (version : Int)
  | conflict
  | failed (message : String)
  deriving Repr, DecidableEq

/-- What becomes of an attempt to write the buffered content. -/
inductive Attempt
  | saved (version : Int)
  | conflict
  | failed (message : String)
  /-- Nothing was written: no content was buffered, a write was in flight, or there was a conflict. -/
  | skipped
  deriving Repr, DecidableEq

/-- The event that an answer of the store is announced by. -/
def Event.ofReply : UpdateReply → Event
  | .saved version => .saved version
  | .conflict => .conflict
  | .failed failure => .failed failure.message

/-- What becomes of an attempt whose answer is announced. -/
def Event.attempt : Event → Attempt
  | .saved version => .saved version
  | .conflict => .conflict
  | .failed message => .failed message

/-- A write as it is handed to the store. -/
structure Write where
  documentId : Uuid
  content : String
  version : Int
  deriving Repr, DecidableEq

/-- What is known about a document that is saved. -/
structure Pipeline where
  phase : Phase
  documentId : Uuid
  project : Uuid
  /-- The version that the store gave last. -/
  version : Int
  /-- The content that is buffered. -/
  pending : Option String
  inFlight : Bool
  everSaved : Bool
  lastError : Option String
  /-- When the debounce timer is due, if it is armed. -/
  debounce : Option Nat
  /-- When the interval timer is due next, if it runs. -/
  interval : Option Nat
  deriving Repr, DecidableEq

namespace Pipeline

/-- The pipeline of a document that has just been fetched. -/
def ofDocument (document : Document) : Pipeline where
  phase := .idle
  documentId := document.id
  project := document.project
  version := document.version
  pending := none
  inFlight := false
  everSaved := false
  lastError := none
  debounce := none
  interval := none

/-- The phase in which the pipeline rests when no write is in flight and there is no conflict. -/
def restingPhase (pipeline : Pipeline) : Phase :=
  if pipeline.debounce.isSome then .pendingDebounce else .idle

/-- Come to rest. -/
def settle (pipeline : Pipeline) : Pipeline :=
  { pipeline with phase := pipeline.restingPhase }

/-- Leave the phase that only waits for the debounce timer. -/
def leaveDebounce (pipeline : Pipeline) : Pipeline :=
  { pipeline with phase := if pipeline.phase = .pendingDebounce then .idle else pipeline.phase }

/-- Disarm the debounce timer. -/
def disarm (pipeline : Pipeline) : Pipeline :=
  { pipeline with debounce := none }

/-- Buffer a content and arm the debounce timer, unless there is a conflict. -/
def buffer (pipeline : Pipeline) (content : String) (due : Nat) : Pipeline :=
  if pipeline.phase = .conflict then { pipeline with pending := some content }
  else
    { pipeline with
      pending := some content
      debounce := some due
      phase := if pipeline.inFlight then pipeline.phase else .pendingDebounce }

/-- Whether a write may begin. -/
def isFree (pipeline : Pipeline) : Bool :=
  pipeline.phase != .conflict && !pipeline.inFlight

/-- The write that begins now if one is attempted. -/
def nextWrite? (pipeline : Pipeline) : Option Write :=
  if pipeline.isFree then
    pipeline.pending.map fun content => ⟨pipeline.documentId, content, pipeline.version⟩
  else none

/-- Begin a write. -/
def launch (pipeline : Pipeline) : Pipeline :=
  { pipeline with inFlight := true, phase := .saving }

/-- Take the answer to a write of a content. An accepted content leaves the buffer unless it has been
replaced in the meantime. -/
def land (pipeline : Pipeline) (content : String) : UpdateReply → Pipeline
  | .saved version =>
      settle { pipeline with
        inFlight := false
        version
        pending := if pipeline.pending = some content then none else pipeline.pending
        everSaved := true
        lastError := none }
  | .conflict => { pipeline with inFlight := false, debounce := none, phase := .conflict }
  | .failed failure => settle { pipeline with inFlight := false, lastError := some failure.message }

/-- Give up a write that the store has not answered. -/
def abandon (pipeline : Pipeline) : Pipeline :=
  let pipeline := { pipeline with inFlight := false }
  if pipeline.phase = .saving then pipeline.settle else pipeline

/-- Leave a conflict with the document of the store. -/
def adopt (pipeline : Pipeline) (resolution : Resolution) (latest : Document) : Pipeline :=
  { pipeline with
    documentId := latest.id
    version := latest.version
    lastError := none
    phase := .idle
    pending :=
      match resolution with
      | .reload => none
      | .overwrite => pipeline.pending }

/-- Stop both timers. The buffered content is kept. -/
def stopTimers (pipeline : Pipeline) : Pipeline :=
  leaveDebounce { pipeline with debounce := none, interval := none }

end Pipeline
end Autosave
end TwinEditor
