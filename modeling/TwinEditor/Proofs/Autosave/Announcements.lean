import Mathlib.Data.List.Nodup
import TwinEditor.Autosave.Mailbox
import TwinEditor.Proofs.Autosave.Sequence

/-!
# What is announced

A broadcast is a chronicle of a machine together with the moves that were made and with everybody
who listens to the events. A listener hears of what happens after it has subscribed, and it takes
one event after another out of its mailbox whenever it likes.

The main statement says that the events are exactly the answers to the writes, in the order in
which they came, and that the error on display is the last failure unless a write was accepted or
a conflict resolved after it.
-/

namespace TwinEditor
namespace Autosave

open Store

/-- The event that an effect announces. -/
def Effect.event? : Effect → Option Event
  | .announced event => some event
  | _ => none

/-- The answer to a write that a move brings, with the number of the write. -/
def Move.answer? : Move → Option (Nat × UpdateReply)
  | .occurrence (.updateReply number reply) => some (number, reply)
  | _ => none

/-- The failure of a write that a move brings. -/
def Move.failure? : Move → Option Failure
  | .occurrence (.updateReply _ (.failed failure)) => some failure
  | _ => none

/-- Whether a write was answered and not given up. -/
def Fate.isAnswer : Fate → Bool
  | .accepted | .refused | .failed => true
  | .outstanding | .abandoned => false

theorem Fate.isAnswer_ofReply (reply : UpdateReply) : (ofReply reply).isAnswer = true := by
  cases reply <;> rfl

variable {move : Move}

theorem Move.answer?_of_light
    (light : move.isWeighty = false) :
    move.answer? = none := by
  cases move with
  | request request => rfl
  | occurrence occurrence => cases occurrence <;> first | rfl | cases light

theorem Move.failure?_of_light
    (light : move.isWeighty = false) :
    move.failure? = none := by
  cases move with
  | request request => rfl
  | occurrence occurrence => cases occurrence <;> first | rfl | cases light

theorem Move.isGrant_of_light
    (light : move.isWeighty = false) :
    move.isGrant = false := by
  cases move with
  | request request => rfl
  | occurrence occurrence => cases occurrence <;> first | rfl | cases light

/-! ## Errors -/

/-- The error that is left on display after some moves: the text of the last failure, unless an
accepted write or the document of a resolution came after it. -/
inductive ErrorAfter : List Move → Option String → Prop
  | unfailed {moves : List Move}
      (calm : ∀ move ∈ moves, move.failure? = none) :
      ErrorAfter moves none
  | standing {earlier later : List Move} {move : Move} {failure : Failure}
      (failed : move.failure? = some failure)
      (calm : ∀ other ∈ later, other.failure? = none)
      (unrelieved : ∀ other ∈ later, other.isGrant = false) :
      ErrorAfter (earlier ++ move :: later) (some failure.message)
  | relieved {earlier later : List Move} {move : Move} {failure : Failure}
      (failed : move.failure? = some failure)
      (calm : ∀ other ∈ later, other.failure? = none)
      (relief : ∃ other ∈ later, other.isGrant = true) :
      ErrorAfter (earlier ++ move :: later) none

/-- The error on display after a move, given the one before. -/
def Move.errorAfter (move : Move) (error : Option String) : Option String :=
  match move.failure? with
  | some failure => some failure.message
  | none => if move.isGrant then none else error

namespace ErrorAfter

variable {moves : List Move} {error : Option String}

private theorem forall_concat
    {property : Move → Prop}
    (holds : ∀ other ∈ moves, property other)
    (last : property move) :
    ∀ other ∈ moves ++ [move], property other := by
  rw [List.forall_mem_append]
  exact ⟨holds, List.forall_mem_singleton.mpr last⟩

/-- One more move leaves the error that it makes of the one before. -/
theorem concat
    (before : ErrorAfter moves error)
    (move : Move) :
    ErrorAfter (moves ++ [move]) (move.errorAfter error) := by
  cases failure : move.failure? with
  | some cause =>
      have after := @standing moves [] move cause failure nofun nofun
      rwa [Move.errorAfter, failure]
  | none =>
      cases granted : move.isGrant with
      | true =>
          rw [Move.errorAfter, failure, granted]
          cases before with
          | unfailed calm => exact .unfailed (forall_concat calm failure)
          | standing failed calm unrelieved =>
              rw [List.append_assoc, List.cons_append]
              exact .relieved failed (forall_concat calm failure) ⟨move, by simp, granted⟩
          | relieved failed calm relief =>
              rw [List.append_assoc, List.cons_append]
              exact .relieved failed (forall_concat calm failure) ⟨move, by simp, granted⟩
      | false =>
          rw [Move.errorAfter, failure, granted]
          cases before with
          | unfailed calm => exact .unfailed (forall_concat calm failure)
          | standing failed calm unrelieved =>
              rw [List.append_assoc, List.cons_append]
              exact .standing failed (forall_concat calm failure)
                (forall_concat unrelieved granted)
          | relieved failed calm relief =>
              obtain ⟨other, member, isRelief⟩ := relief
              rw [List.append_assoc, List.cons_append]
              exact .relieved failed (forall_concat calm failure)
                ⟨other, List.mem_append_left _ member, isRelief⟩

end ErrorAfter

namespace Machine

variable {machine next : Machine} {effects : List Effect}

/-- What is announced with a change is the answer that the move brings, and nothing else. -/
theorem Change.events_eq
    (change : Change machine move next effects) :
    effects.filterMap Effect.event? =
      (move.answer?.map fun answer => Event.ofReply answer.2).toList := by
  cases change with
  | quiet light pipeline tasks nextNumber idle =>
      rw [Move.answer?_of_light light, Option.map_none, Option.toList_none,
        List.filterMap_eq_nil_iff]
      intro effect member
      have isIdle := idle effect member
      cases effect <;> first | rfl | cases isIdle
  | launch purpose ready write light =>
      rw [Move.answer?_of_light light]
      rfl
  | land number purpose write reply => cases purpose <;> rfl
  | save | fetch | refuse | adopt | resubmit | forgo | abandon => rfl

/-- A change leaves on display what the move makes of the error before. -/
theorem Change.lastError_eq
    (change : Change machine move next effects) :
    next.pipeline.lastError = move.errorAfter machine.pipeline.lastError := by
  have ofLight (light : move.isWeighty = false) (error : Option String) :
      move.errorAfter error = error := by
    rw [Move.errorAfter, Move.failure?_of_light light, Move.isGrant_of_light light]
    rfl
  cases change with
  | quiet light pipeline =>
      rw [ofLight light]
      exact pipeline.lastError_eq
  | save content due pipeline =>
      rw [pipeline, Pipeline.buffer]
      split <;> rfl
  | launch purpose ready write light quieted found pipeline =>
      rw [ofLight light, pipeline]
      exact quieted.lastError_eq
  | land number purpose write reply task running pipeline =>
      rw [pipeline]
      cases reply <;> rfl
  | fetch resolution phase pipeline => rw [pipeline]; rfl
  | refuse number resolution failure task pipeline => rw [pipeline]; rfl
  | adopt number resolution latest task lost pipeline => rw [pipeline]; rfl
  | resubmit number resolution latest write task found pipeline => rw [pipeline]; rfl
  | forgo number resolution task pipeline => rw [pipeline]; rfl
  | abandon number purpose write task pipeline =>
      rw [pipeline, Pipeline.abandon]
      dsimp only
      split <;> rfl

/-- A number that no write has had: the one that is given next, or that of a resolution. -/
inductive IsUnwritten (machine : Machine) : Nat → Prop
  | next : IsUnwritten machine machine.nextNumber
  | waiting {number : Nat} {resolution : Resolution}
      (member : (number, .fetching resolution) ∈ machine.tasks) :
      IsUnwritten machine number

theorem IsUnwritten.not_writesUnder
    {number : Nat}
    (unwritten : machine.IsUnwritten number)
    {property : Write → Prop} :
    ¬ machine.WritesUnder number property := by
  intro writes
  cases unwritten with
  | next => exact Nat.lt_irrefl _ writes.number_lt
  | waiting member =>
      obtain ⟨purpose, write, equal, _⟩ := writes.write_of_mem _ member
      cases equal

/-- A change calls for one write at most, under a number that no write has had. -/
theorem Change.update?_eq
    (change : Change machine move next effects) :
    effects.filterMap Effect.update? = [] ∨
      ∃ number write, effects.filterMap Effect.update? = [(number, write)] ∧
        machine.IsUnwritten number := by
  cases change with
  | quiet light pipeline tasks nextNumber idle =>
      refine .inl (List.filterMap_eq_nil_iff.mpr fun effect member => ?_)
      have isIdle := idle effect member
      cases effect <;> first | rfl | cases isIdle
  | launch purpose ready write => exact .inr ⟨_, write, rfl, .next⟩
  | resubmit number resolution latest write task =>
      exact .inr ⟨number, write, rfl, .waiting (mem_of_task? task)⟩
  | land number purpose write reply => cases purpose <;> exact .inl rfl
  | save | fetch | refuse | adopt | forgo | abandon => exact .inl rfl

end Machine

/-- The writes among some effects are called for by them. -/
theorem Effect.mem_of_update?
    {effects : List Effect}
    {call : Nat × Write}
    (member : call ∈ effects.filterMap Effect.update?) :
    .updateCalled call.1 call.2 ∈ effects := by
  obtain ⟨effect, inside, isCall⟩ := List.mem_filterMap.mp member
  cases effect with
  | updateCalled number write =>
      obtain rfl := Option.some.inj isCall
      exact inside
  | _ => cases isCall

/-! ## Answers on record -/

/-- The fate of a write if it is an answer, with the number of the write. -/
def Update.verdict? (update : Update) : Option (Nat × Fate) :=
  if update.fate.isAnswer then some (update.number, update.fate) else none

namespace Record

variable {record : Record} {effects : List Effect}

/-- The writes that were answered, in the order in which they were called for, and what became of
them. -/
def answered (record : Record) : List (Nat × Fate) :=
  (record.updates.filterMap Update.verdict?).reverse

/-- A write that is given up was not answered and never will be. -/
theorem answered_settle_abandoned (number : Nat) :
    (record.settle number .abandoned).answered = record.answered := by
  have same (update : Update) :
      (update.settle number .abandoned).verdict? = update.verdict? := by
    rw [Update.settle]
    split
    case isTrue open_ => rw [Update.verdict?, Update.verdict?, open_.2]; rfl
    case isFalse => rfl
  simp only [answered, settle, List.filterMap_map, Function.comp_def, same]

/-- What a move begins is not answered yet. -/
theorem answered_note (move : Move) (effects : List Effect) :
    (record.note move effects).answered = (record.receive move).answered := by
  have unanswered (source : Nat) :
      effects.filterMap (fun effect => (effect.begun? source).bind Update.verdict?) = [] :=
    List.filterMap_eq_nil_iff.mpr fun effect _ => by cases effect <;> rfl
  rw [answered, note_updates, List.filterMap_append, List.filterMap_reverse,
    List.filterMap_filterMap, unanswered]
  rfl

/-- Every answer on record is that of a write on record. -/
theorem answered_sublist (record : Record) :
    (record.answered.map Prod.fst).reverse.Sublist (record.updates.map (·.number)) := by
  rw [answered, List.map_reverse, List.reverse_reverse]
  induction record.updates with
  | nil => exact .slnil
  | cons update earlier inductionHypothesis =>
      rw [List.map_cons, List.filterMap_cons, Update.verdict?]
      split
      case h_1 => exact inductionHypothesis.cons _
      case h_2 verdict isVerdict =>
        obtain ⟨-, same⟩ := Option.ite_none_right_eq_some.mp isVerdict
        obtain rfl := Option.some.inj same
        exact inductionHypothesis.cons_cons _

end Record

namespace Chronicle

variable {chronicle : Chronicle} {machine : Machine} {effects : List Effect}

/-- The answer that a change brings comes on record behind all others. -/
theorem Faithful.answered_of_change
    (faithful : chronicle.Faithful)
    (change : chronicle.machine.Change move machine effects) :
    (chronicle.record.note move effects).answered = chronicle.record.answered ++
      (move.answer?.map fun answer => (answer.1, Fate.ofReply answer.2)).toList := by
  have ofNone {other : Move} (silent : other.answer? = none)
      (same : (chronicle.record.receive other).answered = chronicle.record.answered) :
      (chronicle.record.note other effects).answered = chronicle.record.answered ++
        (other.answer?.map fun answer => (answer.1, Fate.ofReply answer.2)).toList := by
    rw [Record.answered_note, same, silent, Option.map_none, Option.toList_none, List.append_nil]
  cases change with
  | quiet light =>
      exact ofNone (Move.answer?_of_light light)
        (congrArg Record.answered (Record.receive_of_light _ light))
  | launch purpose ready write light =>
      exact ofNone (Move.answer?_of_light light)
        (congrArg Record.answered (Record.receive_of_light _ light))
  | land number purpose write reply running =>
      obtain ⟨source, earlier, settled, updates, ended⟩ :=
        faithful.updates_settle running (.ofReply reply)
      have isAnswer : (Update.verdict? ⟨number, write, source, .ofReply reply⟩) =
          some (number, .ofReply reply) :=
        if_pos (Fate.isAnswer_ofReply reply)
      have received : (chronicle.record.receive (.occurrence (.updateReply number reply))).updates =
          ⟨number, write, source, .ofReply reply⟩ :: earlier :=
        (Record.answer_updates number reply).trans ended
      rw [Record.answered_note, Record.answered, Record.answered, received, updates,
        List.filterMap_cons_some isAnswer, List.filterMap_cons_none rfl, List.reverse_cons]
      rfl
  | save => exact ofNone rfl rfl
  | fetch => exact ofNone rfl rfl
  | refuse => exact ofNone rfl rfl
  | adopt => exact ofNone rfl rfl
  | resubmit => exact ofNone rfl rfl
  | forgo number => exact ofNone rfl (Record.answered_settle_abandoned number)
  | abandon number => exact ofNone rfl (Record.answered_settle_abandoned number)

/-- Every write on record is known to the machine under a number of its own. -/
structure Numbered (chronicle : Chronicle) : Prop where
  known : ∀ call ∈ chronicle.record.updates.map Update.call,
    chronicle.machine.WritesUnder call.1 (· = call.2)
  nodup : ((chronicle.record.updates.map Update.call).map Prod.fst).Nodup

theorem numbered_start (config : Config) (document : Document) :
    (start config document).Numbered where
  known _ := nofun
  nodup := List.nodup_nil

/-- A write takes a number that no write on record has. -/
theorem Numbered.changed
    (numbered : chronicle.Numbered)
    (faithful : chronicle.Faithful)
    (change : chronicle.machine.Change move machine effects) :
    Numbered ⟨machine.retire, chronicle.record.note move effects⟩ := by
  have sound := faithful.books.change change
  constructor
  · intro call member
    rw [Record.note_calls, List.mem_append, List.mem_reverse] at member
    rcases member with begun | older
    · exact (Machine.WritesUnder.ofCall sound change (Effect.mem_of_update? begun)).retire
    · exact ((numbered.known call older).change change).retire
  · rw [Record.note_calls]
    rcases change.update?_eq with none | ⟨number, write, one, new⟩
    · rw [none]
      exact numbered.nodup
    · rw [one, List.reverse_singleton, List.singleton_append, List.map_cons, List.nodup_cons]
      refine ⟨fun taken => ?_, numbered.nodup⟩
      obtain ⟨call, older, same⟩ := List.mem_map.mp taken
      exact new.not_writesUnder (same ▸ numbered.known call older)

/-- No two answers on record are those of one write. -/
theorem Numbered.nodup_answered
    (numbered : chronicle.Numbered) :
    (chronicle.record.answered.map Prod.fst).Nodup := by
  have nodup := numbered.nodup
  rw [List.map_map] at nodup
  exact List.nodup_reverse.mp (nodup.sublist chronicle.record.answered_sublist)

end Chronicle

/-! ## Listeners -/

namespace Mailbox

theorem events_put_sublist
    (mailbox : Mailbox)
    (event : Event) :
    (mailbox.put event).events.Sublist (mailbox.events ++ [event]) :=
  List.drop_sublist _ _

/-- An event that is put into a mailbox waits there, or is counted, or makes an older one be. -/
theorem length_events_put
    (mailbox : Mailbox)
    (event : Event) :
    (mailbox.put event).events.length + (mailbox.put event).lost =
      mailbox.events.length + mailbox.lost + 1 := by
  simp only [put, List.length_drop, List.length_append, List.length_singleton]
  omega

end Mailbox

/-- Somebody who listens to the events of a machine. -/
structure Listener where
  /-- How many writes had been answered when it subscribed. -/
  since : Nat
  /-- What it has not taken yet, and how much it has missed. -/
  mailbox : Mailbox
  /-- What it has taken, in order. -/
  taken : List Event
  deriving Repr, DecidableEq

namespace Listener

/-- A listener that subscribes after a number of answers. -/
def subscribe (since : Nat) : Listener :=
  ⟨since, .empty, []⟩

/-- Everything that a listener has got, in order. -/
def received (listener : Listener) : List Event :=
  listener.taken ++ listener.mailbox.events

/-- Put events into the mailbox of a listener. -/
def hear (listener : Listener) (events : List Event) : Listener :=
  { listener with mailbox := events.foldl .put listener.mailbox }

/-- Take the oldest event out of the mailbox, if there is one. -/
def take? (listener : Listener) : Option Listener :=
  match listener.mailbox.events with
  | [] => none
  | event :: rest =>
      some { listener with
        mailbox := { listener.mailbox with events := rest }
        taken := listener.taken ++ [event] }

/-- A listener has got all events since it subscribed but those that it missed. -/
structure Follows (listener : Listener) (events : List Event) : Prop where
  since_le : listener.since ≤ events.length
  sublist : listener.received.Sublist (events.drop listener.since)
  length_eq : listener.received.length + listener.mailbox.lost =
    (events.drop listener.since).length

namespace Follows

variable {listener : Listener} {events : List Event}

theorem subscribe (events : List Event) : (subscribe events.length).Follows events where
  since_le := Nat.le_refl _
  sublist := List.nil_sublist _
  length_eq := by simp [Listener.subscribe, received, Mailbox.empty]

/-- A listener that has missed nothing has got all events. -/
theorem received_eq
    (follows : listener.Follows events)
    (missedNone : listener.mailbox.lost = 0) :
    listener.received = events.drop listener.since := by
  refine follows.sublist.eq_of_length ?_
  have complete := follows.length_eq
  rwa [missedNone, Nat.add_zero] at complete

/-- An event goes into the mailbox, and what has no room there is counted. -/
theorem put
    (follows : listener.Follows events)
    (event : Event) :
    (listener.hear [event]).Follows (events ++ [event]) := by
  have grown : (events ++ [event]).drop listener.since = events.drop listener.since ++ [event] :=
    List.drop_append_of_le_length follows.since_le
  constructor
  · exact Nat.le_trans follows.since_le (List.length_append ▸ Nat.le_add_right _ _)
  · refine List.Sublist.trans ?_ (grown ▸ follows.sublist.append_right [event])
    rw [received, received, List.append_assoc]
    exact (listener.mailbox.events_put_sublist event).append_left _
  · have complete := follows.length_eq
    have counted := listener.mailbox.length_events_put event
    rw [received, List.length_append] at complete
    show (listener.taken ++ (listener.mailbox.put event).events).length +
      (listener.mailbox.put event).lost = ((events ++ [event]).drop listener.since).length
    rw [grown, List.length_append, List.length_append, List.length_singleton]
    omega

theorem hear
    (follows : listener.Follows events)
    (more : List Event) :
    (listener.hear more).Follows (events ++ more) := by
  induction more generalizing listener events with
  | nil => rwa [List.append_nil]
  | cons event more inductionHypothesis =>
      have later := inductionHypothesis (follows.put event)
      rwa [List.append_assoc] at later

end Follows

/-- Taking an event changes nothing of what was got. -/
theorem eq_of_take?
    {listener next : Listener}
    (taken : listener.take? = some next) :
    next.since = listener.since ∧ next.received = listener.received ∧
      next.mailbox.lost = listener.mailbox.lost := by
  unfold take? at taken
  split at taken
  case h_1 => cases taken
  case h_2 event rest waiting =>
    obtain rfl := Option.some.inj taken
    refine ⟨rfl, ?_, rfl⟩
    rw [received, received, waiting, List.append_assoc]
    rfl

theorem Follows.take
    {listener next : Listener}
    {events : List Event}
    (follows : listener.Follows events)
    (taken : listener.take? = some next) :
    next.Follows events := by
  obtain ⟨since, received, lost⟩ := eq_of_take? taken
  constructor
  · rw [since]
    exact follows.since_le
  · rw [since, received]
    exact follows.sublist
  · rw [since, received, lost]
    exact follows.length_eq

end Listener

/-! ## Broadcasts -/

/-- A chronicle with everybody who listens to its machine. -/
structure Broadcast where
  chronicle : Chronicle
  /-- The moves that were made, in order. -/
  made : List Move
  listeners : List Listener

namespace Broadcast

/-- What may come next: a move of the machine, or something that a listener does. -/
inductive Turn
  | move (move : Move)
  | subscribe
  /-- A listener takes the oldest event out of its mailbox. -/
  | take (place : Nat)

/-- A machine whose document has just been fetched. Nobody listens yet. -/
def start (config : Config) (document : Document) : Broadcast :=
  ⟨.start config document, [], []⟩

/-- The answers to writes so far, with the numbers of the writes. -/
def answers (broadcast : Broadcast) : List (Nat × UpdateReply) :=
  broadcast.made.filterMap Move.answer?

/-- The events that tell of the answers. -/
def news (broadcast : Broadcast) : List Event :=
  broadcast.answers.map fun answer => .ofReply answer.2

/-- What a turn does, if it is possible now. Only somebody who holds the machine subscribes. -/
def turn? (broadcast : Broadcast) : Turn → Option Broadcast
  | .move move =>
      (broadcast.chronicle.machine.move? move).map fun (machine, effects) => {
        chronicle := ⟨machine, broadcast.chronicle.record.note move effects⟩
        made := broadcast.made ++ [move]
        listeners := broadcast.listeners.map (·.hear (effects.filterMap Effect.event?)) }
  | .subscribe =>
      if broadcast.chronicle.machine.isHeld then
        let listener := Listener.subscribe broadcast.answers.length
        some { broadcast with listeners := broadcast.listeners ++ [listener] }
      else none
  | .take place => do
      let listener ← (← broadcast.listeners[place]?).take?
      return { broadcast with listeners := broadcast.listeners.set place listener }

/-- Take turns one after another. -/
def follow (broadcast : Broadcast) (turns : List Turn) : Broadcast :=
  takeTurns turn? broadcast turns

/-- A broadcast tells what happens: the answers to writes are those on record, the error on display
is the one that the moves have left, and the listeners follow. -/
structure Accurate (broadcast : Broadcast) : Prop where
  faithful : broadcast.chronicle.Faithful
  numbered : broadcast.chronicle.Numbered
  answers_eq : broadcast.answers.map (fun answer => (answer.1, Fate.ofReply answer.2)) =
    broadcast.chronicle.record.answered
  error : ErrorAfter broadcast.made broadcast.chronicle.machine.pipeline.lastError
  follows : ∀ listener ∈ broadcast.listeners, listener.Follows broadcast.news

variable {broadcast next : Broadcast}

theorem accurate_start (config : Config) (document : Document) :
    (start config document).Accurate where
  faithful := Chronicle.faithful_start config document
  numbered := Chronicle.numbered_start config document
  answers_eq := rfl
  error := .unfailed nofun
  follows := nofun

namespace Accurate

/-- Every move is told as it is made. -/
theorem move_made
    (accurate : broadcast.Accurate)
    (possible : broadcast.turn? (.move move) = some next) :
    next.Accurate := by
  obtain ⟨⟨machine, effects⟩, moved, rfl⟩ := Option.map_eq_some_iff.mp possible
  obtain ⟨machine, change, rfl⟩ := Machine.change_of_move? moved
  have recorded : broadcast.chronicle.move? move =
      some ⟨machine.retire, broadcast.chronicle.record.note move effects⟩ := by
    rw [Chronicle.move?, moved]
    rfl
  have answered : (broadcast.made ++ [move]).filterMap Move.answer? =
      broadcast.answers ++ move.answer?.toList := by
    rw [List.filterMap_append, answers]
    cases answer : move.answer? <;> simp [answer]
  constructor
  · exact accurate.faithful.kept recorded
  · exact accurate.numbered.changed accurate.faithful change
  · rw [answers, answered, List.map_append, accurate.answers_eq,
      accurate.faithful.answered_of_change change]
    cases move.answer? <;> rfl
  · have after := accurate.error.concat move
    rwa [← change.lastError_eq, ← Machine.retire_lastError] at after
  · intro listener member
    obtain ⟨earlier, older, rfl⟩ := List.mem_map.mp member
    have told : news ⟨⟨machine.retire, broadcast.chronicle.record.note move effects⟩,
        broadcast.made ++ [move],
        broadcast.listeners.map (·.hear (effects.filterMap Effect.event?))⟩ =
          broadcast.news ++ effects.filterMap Effect.event? := by
      rw [news, answers, answered, List.map_append, change.events_eq]
      cases move.answer? <;> rfl
    rw [told]
    exact (accurate.follows earlier older).hear _

/-- Every turn is told as it is taken. -/
theorem kept
    {turn : Turn}
    (accurate : broadcast.Accurate)
    (possible : broadcast.turn? turn = some next) :
    next.Accurate := by
  cases turn with
  | move move => exact accurate.move_made possible
  | subscribe =>
      obtain ⟨-, same⟩ := Option.ite_none_right_eq_some.mp possible
      obtain rfl := Option.some.inj same
      refine { accurate with follows := fun listener member => ?_ }
      rcases List.mem_append.mp member with older | new
      · exact accurate.follows listener older
      · obtain rfl := List.mem_singleton.mp new
        have new := Listener.Follows.subscribe broadcast.news
        rwa [news, List.length_map] at new
  | take place =>
      obtain ⟨listener, found, possible⟩ := Option.bind_eq_some_iff.mp possible
      obtain ⟨after, taken, same⟩ := Option.bind_eq_some_iff.mp possible
      obtain rfl := Option.some.inj same
      refine { accurate with follows := fun other member => ?_ }
      rcases List.mem_or_eq_of_mem_set member with older | rfl
      · exact accurate.follows other older
      · exact (accurate.follows listener (List.mem_of_getElem? found)).take taken

theorem follow
    (accurate : broadcast.Accurate)
    (turns : List Turn) :
    (broadcast.follow turns).Accurate :=
  takeTurns_induction (fun holds possible => kept holds possible) turns accurate

end Accurate

/-- What a listener has got is what it has not missed of the answers to the writes since it
subscribed, in the order in which they came; if it has missed nothing, it has got exactly those. The
answers are those on record, of different writes. A move that brings no answer is not announced, and
the error on display is the text of the last failure, unless a write was accepted or a conflict
resolved after it. -/
theorem events_tell_answers
    (config : Config)
    (document : Document)
    (turns : List Turn) :
    let broadcast := (start config document).follow turns
    (∀ listener ∈ broadcast.listeners,
      listener.received.Sublist (broadcast.news.drop listener.since) ∧
      listener.received.length + listener.mailbox.lost =
        (broadcast.news.drop listener.since).length ∧
      (listener.mailbox.lost = 0 → listener.received = broadcast.news.drop listener.since)) ∧
    broadcast.answers.map (fun answer => (answer.1, Fate.ofReply answer.2)) =
      broadcast.chronicle.record.answered ∧
    (broadcast.answers.map Prod.fst).Nodup ∧
    (∀ move machine effects,
      broadcast.chronicle.machine.move? move = some (machine, effects) →
      effects.filterMap Effect.event? =
        (move.answer?.map fun answer => Event.ofReply answer.2).toList) ∧
    ErrorAfter broadcast.made broadcast.chronicle.machine.pipeline.lastError := by
  intro broadcast
  have accurate : broadcast.Accurate := (accurate_start config document).follow turns
  refine ⟨fun listener member => ?_, accurate.answers_eq, ?_, ?_, accurate.error⟩
  · have follows := accurate.follows listener member
    exact ⟨follows.sublist, follows.length_eq, follows.received_eq⟩
  · have numbers := congrArg (List.map Prod.fst) accurate.answers_eq
    rw [List.map_map] at numbers
    exact numbers ▸ accurate.numbered.nodup_answered
  · intro move machine effects possible
    obtain ⟨changed, change, -⟩ := Machine.change_of_move? possible
    exact change.events_eq

/-- The turns of a machine whose writes fail, are given up, are accepted and are refused, in this
order, while a listener takes one event and leaves the others in its mailbox. -/
def retried : List Turn :=
  [.move (.request (.save "one")), .subscribe, .move (.request .flush), .move (.request .flush),
    .move (.occurrence (.updateReply 0 (.failed (.io "gone")))), .take 0, .move (.request .flush),
    .move (.occurrence (.cancel 2)), .move (.request .flush),
    .move (.occurrence (.updateReply 3 (.saved 2))), .move (.request (.save "two")),
    .move (.request .flush), .move (.occurrence (.updateReply 4 .conflict))]

theorem events_tell_answers_of_retries :
    (∃ listener ∈ ((start .standard ⟨.nil, .nil, "base", 1⟩).follow retried).listeners,
      listener.mailbox.lost = 0 ∧ listener.mailbox.events = [.saved 2, .conflict] ∧
      listener.taken ++ listener.mailbox.events =
        ((start .standard ⟨.nil, .nil, "base", 1⟩).follow retried).news.drop listener.since) ∧
    ((start .standard ⟨.nil, .nil, "base", 1⟩).follow retried).news =
      [.failed "I/O error: gone", .saved 2, .conflict] := by
  refine ⟨⟨⟨0, ⟨0, [.saved 2, .conflict]⟩, [.failed "I/O error: gone"]⟩, by decide, rfl, rfl, ?_⟩,
    by decide⟩
  exact ((events_tell_answers .standard ⟨.nil, .nil, "base", 1⟩ retried).1 _ (by decide)).2.2 rfl

end Broadcast

end Autosave
end TwinEditor
