import TwinEditor.Autosave.Machine
import TwinEditor.Autosave.Remote

/-!
# Runs on a clock

A run keeps a machine, or a larger system around one, together with the store it calls and the answers
that are under way. The clock of a run moves only when nothing can happen at the present instant, and
then straight to the next instant at which something can.
-/

namespace TwinEditor
namespace Autosave

/-- A system around a machine, with its own effects. -/
class Timed (System : Type) (Outcome : outParam Type) where
  machine : System → Machine
  occur? : System → Occurrence → Option (System × List Outcome)
  /-- What the machine inside does to its surroundings. -/
  effect? : Outcome → Option Effect

instance : Timed Machine Effect where
  machine := id
  occur? := Machine.occur?
  effect? := some

/-- Something that may happen from a time on. -/
structure Due where
  time : Nat
  occurrence : Occurrence

/-- The number of the call that is over after an occurrence. -/
def Occurrence.closed? : Occurrence → Option Nat
  | .updateReply number _ | .fetchReply number _ | .cancel number => some number
  | _ => none

/-- A system on a clock, with the store it calls. -/
structure Run (System Outcome σ : Type) where
  system : System
  store : σ
  /-- The answers of the store that are under way. -/
  replies : List Due
  /-- What happened since somebody looked last, in order. -/
  outcomes : List Outcome

namespace Run

variable {System Outcome σ : Type} [Timed System Outcome] [Remote σ]

/-- A run that begins with a system and a store. -/
def start (system : System) (store : σ) : Run System Outcome σ :=
  ⟨system, store, [], []⟩

/-- The machine inside the system. -/
def machine (run : Run System Outcome σ) : Machine :=
  Timed.machine run.system

/-- The present instant. -/
def clock (run : Run System Outcome σ) : Nat :=
  run.machine.clock

/-- Let the store take a call. Its answer is under way from now on. -/
def callStore (run : Run System Outcome σ) : Effect → Run System Outcome σ
  | .updateCalled number write =>
      let (store, delayed) := Remote.update run.store write
      let reply : Due := ⟨run.clock + delayed.delay, .updateReply number delayed.reply⟩
      { run with store, replies := reply :: run.replies }
  | .fetchCalled number project =>
      let (store, delayed) := Remote.fetch run.store project
      let reply : Due := ⟨run.clock + delayed.delay, .fetchReply number delayed.reply⟩
      { run with store, replies := reply :: run.replies }
  | _ => run

/-- Go on with the system after a step of it and with the outcomes of that step. -/
def proceed (run : Run System Outcome σ) (step : System × List Outcome) : Run System Outcome σ :=
  let (system, outcomes) := step
  (outcomes.filterMap (Timed.effect? System)).foldl callStore
    { run with system, outcomes := run.outcomes ++ outcomes }

/-- Let the answer to a call come to nothing. -/
def forget (run : Run System Outcome σ) (number : Nat) : Run System Outcome σ :=
  { run with replies := run.replies.filter fun due => due.occurrence.closed? != some number }

/-- Let something happen, if it is possible. No answer is under way any more to a call that is over. -/
def occur (run : Run System Outcome σ) (occurrence : Occurrence) : Run System Outcome σ :=
  let run := (occurrence.closed?.map run.forget).getD run
  match Timed.occur? run.system occurrence with
  | some step => run.proceed step
  | none => run

/-- The writes that the stopped interval timer has left, which are given up at once. -/
def leftovers (run : Run System Outcome σ) : List Due :=
  run.machine.tasks.filterMap fun
    | (number, .writing .stopped _) => some ⟨run.clock, .cancel number⟩
    | _ => none

/-- The timers that are set. The interval timer waits for a write of its own. -/
def timers (run : Run System Outcome σ) : List Due :=
  let debounce := run.machine.pipeline.debounce.map fun time => ⟨time, .debounce⟩
  let interval := run.machine.pipeline.interval.map fun time => ⟨time, .tick⟩
  debounce.toList ++ if run.machine.tickerIsBusy then [] else interval.toList

/-- The instant at which something can happen: when it is due, and not in the past. -/
def instant (run : Run System Outcome σ) (due : Due) : Nat :=
  max due.time run.clock

/-- The one of two things that can happen earlier. -/
def earlier (run : Run System Outcome σ) (first second : Due) : Due :=
  if run.instant second < run.instant first then second else first

/-- What can happen first. Of two things at the same instant, a write is given up before an answer is
taken, and an answer is taken before a timer fires. -/
def earliest? (run : Run System Outcome σ) : Option Due :=
  match run.leftovers ++ run.replies ++ run.timers with
  | [] => none
  | due :: rest => some (rest.foldl run.earlier due)

/-- Let time pass up to an instant. -/
def passTo (run : Run System Outcome σ) (time : Nat) : Run System Outcome σ :=
  if run.clock < time then run.occur (.pass (time - run.clock)) else run

/-- Let something happen at its instant. -/
def reach (run : Run System Outcome σ) (due : Due) : Run System Outcome σ :=
  (run.passTo (run.instant due)).occur due.occurrence

/-- What happens next up to an instant. -/
def next? (run : Run System Outcome σ) (time : Nat) : Option Due := do
  let due ← run.earliest?
  if run.instant due ≤ time then some due else none

/-- A bound on how many things happen up to an instant. Every tick of the interval timer moves its due
time by at least one period. Everything else happens once, but each answer and each firing of a timer
may be followed by one more answer. -/
def work (run : Run System Outcome σ) (time : Nat) : Nat :=
  let ticks :=
    match run.machine.pipeline.interval with
    | some due => (time - due) / run.machine.config.interval + 1
    | none => 0
  2 * (ticks + run.replies.length + run.machine.tasks.length + 1)

/-- Let everything happen that can happen up to an instant, within a bound. -/
def advanceWithin : Nat → Run System Outcome σ → Nat → Run System Outcome σ
  | 0, run, time => run.passTo time
  | bound + 1, run, time =>
      match run.next? time with
      | some due => advanceWithin bound (run.reach due) time
      | none => run.passTo time

/-- Let everything happen that can happen up to an instant. -/
def advanceTo (run : Run System Outcome σ) (time : Nat) : Run System Outcome σ :=
  advanceWithin (run.work time) run time

/-- Let everything happen that can happen at the present instant. -/
def settle (run : Run System Outcome σ) : Run System Outcome σ :=
  run.advanceTo run.clock

/-- The time of the answer to a call. -/
def replyTime? (run : Run System Outcome σ) (number : Nat) : Option Nat :=
  (run.replies.find? fun due => due.occurrence.closed? == some number).map (·.time)

/-- Wait for the store to answer a call, if it is under way. -/
def awaitReply (number : Nat) (run : Run System Outcome σ) : Run System Outcome σ :=
  match run.replyTime? number with
  | some time => run.advanceTo time
  | none => run

/-- Wait until a request is answered. A request waits for the store at most twice: for the document, and
for the write after it. -/
def await (run : Run System Outcome σ) (number : Nat) : Run System Outcome σ :=
  awaitReply number (awaitReply number run)

/-- Take the outcomes since somebody looked last. -/
def takeOutcomes (run : Run System Outcome σ) : List Outcome × Run System Outcome σ :=
  (run.outcomes, { run with outcomes := [] })

end Run
end Autosave
end TwinEditor
