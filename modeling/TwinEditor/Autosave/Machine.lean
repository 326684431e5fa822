import TwinEditor.Autosave.Pipeline

/-!
# The autosave machine

The machine saves one document. Its owner makes requests, and everything else that happens to it is an
occurrence: time passes, a timer fires, the store answers, or a call is cancelled. Calls to the store
may stay unanswered for any time, and further requests and occurrences may come in between, so that
every run of the machine is a sequence of requests and of occurrences that were possible when they
came. A timer never fires before it is due, but it may fire late.
-/

namespace TwinEditor
namespace Autosave

open Store

/-- Why a write was begun. -/
inductive Purpose
  | debounce
  | interval
  /-- The interval timer was stopped after it had begun the write. -/
  | stopped
  | flush
  /-- A conflict is resolved by writing over the document of the store. -/
  | resubmit (latest : Document)
  deriving Repr, DecidableEq

/-- A call to the store that has no answer yet. -/
inductive Task
  | fetching (resolution : Resolution)
  | writing (purpose : Purpose) (write : Write)
  deriving Repr, DecidableEq

/-- What the machine does to its surroundings. Calls to the store and requests that are answered later
are told apart by a number. -/
inductive Effect
  | updateCalled (number : Nat) (write : Write)
  | fetchCalled (number : Nat) (project : Uuid)
  | announced (event : Event)
  /-- A request to flush is answered. -/
  | attempted (number : Nat) (attempt : Attempt)
  /-- A request to resolve a conflict is answered. -/
  | resolved (number : Nat) (reply : FetchReply)

/-- What the owner of a document asks for. -/
inductive Request
  /-- Save a content soon. -/
  | save (content : String)
  /-- Run the interval timer. -/
  | start
  /-- Stop both timers. -/
  | shutdown
  /-- Save the buffered content now. -/
  | flush
  | resolve (resolution : Resolution)
  /-- Give the machine up. Its timers stop when the last call to the store is over. -/
  | release
  deriving Repr, DecidableEq

/-- What happens to the machine. -/
inductive Occurrence
  | pass (milliseconds : Nat)
  | debounce
  | tick
  | updateReply (number : Nat) (reply : UpdateReply)
  | fetchReply (number : Nat) (reply : FetchReply)
  /-- A call is given up by its owner, or a write by the interval timer that was stopped. -/
  | cancel (number : Nat)

/-- The state of the machine. -/
structure Machine where
  config : Config
  clock : Nat
  pipeline : Pipeline
  /-- The calls that have no answer yet, with their numbers. -/
  tasks : List (Nat × Task)
  /-- The number that is given next. -/
  nextNumber : Nat
  /-- Whether the owner has not given the machine up. -/
  isHeld : Bool
  deriving Repr, DecidableEq

namespace Machine

/-- How late a tick of the interval timer may be noticed before the schedule is moved. -/
def tickTolerance : Nat := 5

/-- The machine of a document that has just been fetched. -/
def ofDocument (config : Config) (document : Document) : Machine where
  config := config.checked
  clock := 0
  pipeline := .ofDocument document
  tasks := []
  nextNumber := 0
  isHeld := true

/-- The call with a number, if it has no answer yet. -/
def task? (machine : Machine) (number : Nat) : Option Task :=
  (machine.tasks.find? (·.1 == number)).map (·.2)

/-- The machine without the call that has a number. -/
def dropTask (machine : Machine) (number : Nat) : Machine :=
  { machine with tasks := machine.tasks.filter (·.1 != number) }

/-- Take the next number. -/
def takeNumber (machine : Machine) : Nat × Machine :=
  (machine.nextNumber, { machine with nextNumber := machine.nextNumber + 1 })

/-- Whether the interval timer waits for the answer to a write of its own. -/
def tickerIsBusy (machine : Machine) : Bool :=
  machine.tasks.any fun
    | (_, .writing .interval _) => true
    | _ => false

/-- The answer to the request that a write was begun for. -/
def answers (purpose : Purpose) (number : Nat) (attempt : Attempt) : List Effect :=
  match purpose with
  | .flush => [.attempted number attempt]
  | .resubmit latest => [.resolved number (.ok latest)]
  | .debounce | .interval | .stopped => []

/-- Attempt to write the buffered content. -/
def attemptWrite (machine : Machine) (purpose : Purpose) (number : Nat) : Machine × List Effect :=
  match machine.pipeline.nextWrite? with
  | none => (machine, answers purpose number .skipped)
  | some write =>
      ({ machine with
          pipeline := machine.pipeline.launch
          tasks := (number, .writing purpose write) :: machine.tasks },
        [.updateCalled number write])

/-- The task of the interval timer after the timer is stopped. -/
def stopTask : Task → Task
  | .writing .interval write => .writing .stopped write
  | task => task

/-- Do what the owner asks for. -/
def requestHeld (machine : Machine) : Request → Machine × List Effect
  | .save content =>
      let due := machine.clock + machine.config.debounce
      ({ machine with pipeline := machine.pipeline.buffer content due }, [])
  | .start =>
      match machine.pipeline.interval with
      | some _ => (machine, [])
      | none =>
          let due := machine.clock + machine.config.interval
          ({ machine with pipeline := { machine.pipeline with interval := some due } }, [])
  | .shutdown =>
      ({ machine with
          pipeline := machine.pipeline.stopTimers
          tasks := machine.tasks.map fun (number, task) => (number, stopTask task) }, [])
  | .flush =>
      let (number, machine) := machine.takeNumber
      let pipeline := machine.pipeline
      attemptWrite
        { machine with pipeline := if pipeline.isFree then pipeline.disarm.leaveDebounce else pipeline }
        .flush number
  | .resolve resolution =>
      let (number, machine) := machine.takeNumber
      if machine.pipeline.phase = .conflict then
        ({ machine with tasks := (number, .fetching resolution) :: machine.tasks },
          [.fetchCalled number machine.pipeline.project])
      else (machine, [.resolved number (.error .noConflict)])
  | .release => ({ machine with isHeld := false }, [])

/-- Stop the timers of a machine that nobody needs any more. -/
def retire (machine : Machine) : Machine :=
  if machine.isHeld || !machine.tasks.isEmpty then machine
  else { machine with pipeline := { machine.pipeline with debounce := none, interval := none } }

/-- Do what the owner asks for. -/
def request (machine : Machine) (request : Request) : Machine × List Effect :=
  let (machine, effects) := machine.requestHeld request
  (machine.retire, effects)

/-- When the interval timer is due after a tick that is noticed now. -/
def nextTick (machine : Machine) (due : Nat) : Nat :=
  if due + tickTolerance < machine.clock then machine.clock + machine.config.interval
  else due + machine.config.interval

/-- What an occurrence does, if it is possible now, to a machine that is needed. -/
def occurNeeded? (machine : Machine) : Occurrence → Option (Machine × List Effect)
  | .pass milliseconds => some ({ machine with clock := machine.clock + milliseconds }, [])
  | .debounce => do
      let due ← machine.pipeline.debounce
      guard (due ≤ machine.clock)
      let (number, machine) := machine.takeNumber
      return attemptWrite { machine with pipeline := machine.pipeline.disarm.leaveDebounce }
        .debounce number
  | .tick => do
      let due ← machine.pipeline.interval
      guard (due ≤ machine.clock ∧ !machine.tickerIsBusy)
      let (number, machine) := machine.takeNumber
      let pipeline := { machine.pipeline with interval := some (machine.nextTick due) }
      return attemptWrite { machine with pipeline } .interval number
  | .updateReply number reply =>
      match machine.task? number with
      | some (.writing .stopped _) => none
      | some (.writing purpose write) =>
          let event := Event.ofReply reply
          some ({ machine.dropTask number with pipeline := machine.pipeline.land write.content reply },
            .announced event :: answers purpose number event.attempt)
      | _ => none
  | .fetchReply number reply =>
      match machine.task? number with
      | some (.fetching resolution) =>
          let rest := machine.dropTask number
          match reply with
          | .error failure => some (rest, [.resolved number (.error failure)])
          | .ok latest =>
              let adopted := { rest with pipeline := machine.pipeline.adopt resolution latest }
              some (adopted.attemptWrite (.resubmit latest) number)
      | _ => none
  | .cancel number =>
      match machine.task? number with
      | some (.fetching _) => some (machine.dropTask number, [])
      | some (.writing .debounce _) | some (.writing .interval _) => none
      | some (.writing _ _) =>
          some ({ machine.dropTask number with pipeline := machine.pipeline.abandon }, [])
      | none => none

/-- What an occurrence does, if it is possible now. -/
def occur? (machine : Machine) (occurrence : Occurrence) : Option (Machine × List Effect) := do
  let (machine, effects) ← machine.occurNeeded? occurrence
  return (machine.retire, effects)

end Machine
end Autosave
end TwinEditor
