import TwinEditor.Proofs.Autosave.Purpose
import TwinEditor.Proofs.Autosave.Sequence

/-!
# What becomes of a write

A write that was begun waits for its answer through whatever is asked of the machine and whatever
its timers do. The answer is taken when it comes, and the status tells it from then on. Only a
request that waits for the write can be given up together with it. The one exception is a write of
the interval timer during which the machine is shut down: its answer is lost.
-/

namespace TwinEditor
namespace Autosave

open Store

/-- The fate of the write with a number that a move decides. -/
def Move.verdict? (number : Nat) : Move → Option Fate
  | .occurrence (.updateReply other reply) =>
      if other = number then some (.ofReply reply) else none
  | .occurrence (.cancel other) => if other = number then some .abandoned else none
  | _ => none

/-- A fate is decided by an answer or by giving up. -/
theorem Move.eq_of_verdict?
    {move : Move}
    {number : Nat}
    {fate : Fate}
    (verdict : move.verdict? number = some fate) :
    (∃ reply, move = .occurrence (.updateReply number reply) ∧ fate = .ofReply reply) ∨
      move = .occurrence (.cancel number) ∧ fate = .abandoned := by
  unfold verdict? at verdict
  split at verdict
  case h_1 other reply =>
    split at verdict
    case isTrue same =>
      obtain rfl := Option.some.inj verdict
      exact .inl ⟨reply, same ▸ rfl, rfl⟩
    case isFalse => cases verdict
  case h_2 other =>
    split at verdict
    case isTrue same =>
      obtain rfl := Option.some.inj verdict
      exact .inr ⟨same ▸ rfl, rfl⟩
    case isFalse => cases verdict
  case h_3 => cases verdict

namespace Pipeline

/-- A pipeline tells of an answer: nothing is in flight, and the phase, the version and the error
are those that the answer leads to. -/
def Tells (pipeline : Pipeline) : UpdateReply → Prop
  | .saved version =>
      pipeline.inFlight = false ∧ (pipeline.phase = .idle ∨ pipeline.phase = .pendingDebounce) ∧
        pipeline.version = version ∧ pipeline.everSaved = true ∧ pipeline.lastError = none
  | .conflict => pipeline.inFlight = false ∧ pipeline.phase = .conflict
  | .failed failure =>
      pipeline.inFlight = false ∧ (pipeline.phase = .idle ∨ pipeline.phase = .pendingDebounce) ∧
        pipeline.lastError = some failure.message

theorem settle_phase (pipeline : Pipeline) :
    pipeline.settle.phase = .idle ∨ pipeline.settle.phase = .pendingDebounce := by
  simp only [settle, restingPhase]
  split
  · exact .inr rfl
  · exact .inl rfl

/-- An answer is told when it is taken. -/
theorem tells_land
    (pipeline : Pipeline)
    (content : String)
    (reply : UpdateReply) :
    (pipeline.land content reply).Tells reply := by
  cases reply with
  | saved version => exact ⟨rfl, settle_phase _, rfl, rfl, rfl⟩
  | conflict => exact ⟨rfl, rfl⟩
  | failed failure => exact ⟨rfl, settle_phase _, rfl⟩

end Pipeline

/-- A machine that is given up tells as much as before. -/
theorem Machine.tells_retire
    {machine : Machine}
    {reply : UpdateReply}
    (tells : machine.pipeline.Tells reply) :
    machine.retire.pipeline.Tells reply := by
  unfold retire
  split
  · exact tells
  · cases reply <;> exact tells

namespace Record

variable {record : Record} {move : Move} {update : Update}

/-- A fate is recorded for a write that had none. -/
theorem mem_settle
    {number : Nat}
    {fate : Fate}
    (member : update ∈ (record.settle number fate).updates) :
    update ∈ record.updates ∨
      { update with fate := .outstanding } ∈ record.updates ∧
        update.number = number ∧ update.fate = fate := by
  obtain ⟨older, olderMember, rfl⟩ := List.mem_map.mp member
  unfold Update.settle
  split
  case isTrue undecided =>
    obtain ⟨number, write, source, decided⟩ := older
    obtain ⟨rfl, rfl⟩ := undecided
    exact .inr ⟨olderMember, rfl, rfl⟩
  case isFalse => exact .inl olderMember

/-- A write with a fate on record had it before, or the last move has decided it. -/
theorem verdict?_of_mem_note
    {effects : List Effect}
    (member : update ∈ (record.note move effects).updates)
    (decided : update.fate ≠ .outstanding) :
    update ∈ record.updates ∨
      { update with fate := .outstanding } ∈ record.updates ∧
        move.verdict? update.number = some update.fate := by
  rw [note_updates] at member
  rcases List.mem_append.mp member with new | received
  · obtain ⟨effect, _, begun⟩ := List.mem_filterMap.mp (List.mem_reverse.mp new)
    cases effect with
    | updateCalled number write =>
        obtain rfl := Option.some.inj begun
        exact absurd rfl decided
    | _ => cases begun
  · unfold receive at received
    split at received
    case h_2 number reply =>
      rw [answer_updates] at received
      refine (mem_settle received).imp_right fun ⟨older, same, fate⟩ => ⟨older, ?_⟩
      rw [Move.verdict?, if_pos same.symm, fate]
    case h_5 number =>
      refine (mem_settle received).imp_right fun ⟨older, same, fate⟩ => ⟨older, ?_⟩
      rw [Move.verdict?, if_pos same.symm, fate]
    all_goals exact .inl received

end Record

namespace Chronicle

variable {chronicle : Chronicle} {update : Update}

/-- A write that has no fate has no answer yet. -/
theorem Faithful.exists_writing_of_outstanding
    (faithful : chronicle.Faithful)
    (member : update ∈ chronicle.record.updates)
    (undecided : update.fate = .outstanding) :
    ∃ purpose, (update.number, .writing purpose update.write) ∈ chronicle.machine.tasks := by
  have outstanding : update ∈ chronicle.record.outstanding :=
    List.mem_filter.mpr ⟨member, by simp [undecided]⟩
  obtain ⟨number, purpose, write, running⟩ :=
    faithful.books.exists_writing (faithful.inFlight_iff.mpr (List.ne_nil_of_mem outstanding))
  obtain ⟨source, one⟩ := faithful.outstanding_of_writing running
  obtain rfl := List.mem_singleton.mp (one ▸ outstanding)
  exact ⟨purpose, running⟩

/-- A fate on record that was not there at first was decided by a move, when the write had no answer
yet. -/
theorem Faithful.exists_verdict
    (faithful : chronicle.Faithful)
    (moves : List Move)
    (new : update ∉ chronicle.record.updates)
    (member : update ∈ (chronicle.follow moves).record.updates)
    (decided : update.fate ≠ .outstanding) :
    ∃ before move after next purpose, moves = before ++ move :: after ∧
      (update.number, .writing purpose update.write) ∈ (chronicle.follow before).machine.tasks ∧
      move.verdict? update.number = some update.fate ∧
      (chronicle.follow before).move? move = some next := by
  obtain ⟨before, move, after, next, split, absent, possible, present⟩ :=
    @exists_turn_of_takeTurns _ _ move? (fun chronicle => update ∈ chronicle.record.updates)
      moves _ new member
  obtain ⟨machine, effects, change, rfl⟩ := exists_change_of_move? possible
  obtain ⟨older, verdict⟩ := (Record.verdict?_of_mem_note present decided).resolve_left absent
  obtain ⟨purpose, running⟩ :=
    (faithful.follow before).exists_writing_of_outstanding older rfl
  exact ⟨before, move, after, _, purpose, split, running, verdict, possible⟩

/-- A write that was stopped was begun by the interval timer, and a shutdown came during it. -/
theorem exists_shutdown
    (moves : List Move)
    {number : Nat}
    {write : Write}
    (unstopped : (number, .writing .stopped write) ∉ chronicle.machine.tasks)
    (stopped : (number, .writing .stopped write) ∈ (chronicle.follow moves).machine.tasks) :
    ∃ before after, moves = before ++ .request .shutdown :: after ∧
      (number, .writing .interval write) ∈ (chronicle.follow before).machine.tasks := by
  obtain ⟨before, move, after, next, split, absent, possible, present⟩ :=
    @exists_turn_of_takeTurns _ _ move?
      (fun chronicle => (number, .writing .stopped write) ∈ chronicle.machine.tasks)
      moves _ unstopped stopped
  obtain ⟨⟨machine, effects⟩, moved, rfl⟩ := Option.map_eq_some_iff.mp possible
  cases Machine.provenance_of_move? moved present with
  | kept member => exact absurd member absent
  | stopped running move_eq =>
      subst move_eq
      exact ⟨before, after, split, running⟩
  | begun purpose_eq => exact absurd purpose_eq move.purpose?_ne_stopped

/-- The answer to a write that waits for it is taken, recorded and told. -/
theorem Faithful.exists_answered
    (faithful : chronicle.Faithful)
    (member : update ∈ chronicle.record.updates)
    (undecided : update.fate = .outstanding)
    {purpose : Purpose}
    (running : (update.number, .writing purpose update.write) ∈ chronicle.machine.tasks)
    (unstopped : purpose ≠ .stopped)
    (reply : UpdateReply) :
    ∃ next, chronicle.move? (.occurrence (.updateReply update.number reply)) = some next ∧
      { update with fate := .ofReply reply } ∈ next.record.updates ∧
      next.machine.pipeline.Tells reply := by
  have taken := Machine.move?_updateReply (faithful.books.task?_eq_some running) unstopped reply
  refine ⟨⟨_, chronicle.record.note _ _⟩, by rw [move?, taken]; rfl, ?_,
    Machine.tells_retire (Pipeline.tells_land _ _ _)⟩
  rw [Record.note_of_answer, Record.answer_updates]
  refine List.mem_map.mpr ⟨update, member, ?_⟩
  rw [Update.settle, if_pos ⟨rfl, undecided⟩]

/-- An answer that is taken is told. -/
theorem Faithful.tells_of_updateReply
    (faithful : chronicle.Faithful)
    {number : Nat}
    {purpose : Purpose}
    {write : Write}
    (running : (number, .writing purpose write) ∈ chronicle.machine.tasks)
    {reply : UpdateReply}
    {next : Chronicle}
    (possible : chronicle.move? (.occurrence (.updateReply number reply)) = some next) :
    purpose ≠ .stopped ∧ next.machine.pipeline.Tells reply := by
  have found := faithful.books.task?_eq_some running
  have unstopped : purpose ≠ .stopped := by
    rintro rfl
    rw [move?, Machine.move?_updateReply_of_stopped found reply] at possible
    cases possible
  rw [move?, Machine.move?_updateReply found unstopped reply] at possible
  obtain rfl := Option.some.inj possible
  exact ⟨unstopped, Machine.tells_retire (Pipeline.tells_land _ _ _)⟩

/-- What has become of a write at the end of a course. -/
inductive Outcome (first : Chronicle) (moves : List Move) (update : Update) : Prop
  /-- It waits for its answer, and any answer is taken, recorded and told as soon as it comes. -/
  | awaited (purpose : Purpose)
      (fate : update.fate = .outstanding)
      (running :
        (update.number, .writing purpose update.write) ∈ (first.follow moves).machine.tasks)
      (unstopped : purpose ≠ .stopped)
      (answerable : ∀ reply, ∃ next,
        (first.follow moves).move? (.occurrence (.updateReply update.number reply)) = some next ∧
        { update with fate := .ofReply reply } ∈ next.record.updates ∧
        next.machine.pipeline.Tells reply)
  /-- It was answered, and the answer was told at that moment. -/
  | answered (before after : List Move) (purpose : Purpose) (reply : UpdateReply)
      (moves_eq : moves = before ++ .occurrence (.updateReply update.number reply) :: after)
      (running :
        (update.number, .writing purpose update.write) ∈ (first.follow before).machine.tasks)
      (unstopped : purpose ≠ .stopped)
      (fate : update.fate = .ofReply reply)
      (told : (first.follow (before ++
        [.occurrence (.updateReply update.number reply)])).machine.pipeline.Tells reply)
  /-- The request that waited for it was given up. -/
  | withdrawn (before after : List Move) (purpose : Purpose)
      (moves_eq : moves = before ++ .occurrence (.cancel update.number) :: after)
      (running :
        (update.number, .writing purpose update.write) ∈ (first.follow before).machine.tasks)
      (owned : purpose.isOwned = true)
      (fate : update.fate = .abandoned)
  /-- The interval timer had begun it, and the machine was shut down before the answer came. -/
  | interrupted (before after : List Move)
      (moves_eq : moves = before ++ .request .shutdown :: after)
      (running :
        (update.number, .writing .interval update.write) ∈ (first.follow before).machine.tasks)
      (fate : update.fate = .outstanding ∨ update.fate = .abandoned)

/-- The chronicle after one more possible move. -/
theorem follow_concat_of_some
    {moves : List Move}
    {move : Move}
    {next : Chronicle}
    (possible : (chronicle.follow moves).move? move = some next) :
    chronicle.follow (moves ++ [move]) = next := by
  rw [follow, takeTurns_append]
  exact takeTurns_cons_of_some possible []

/-- Every write of a course that began with nothing has come to one of the four outcomes. -/
theorem Faithful.outcome
    (faithful : chronicle.Faithful)
    (unwritten : chronicle.record.updates = [])
    (moves : List Move)
    (member : update ∈ (chronicle.follow moves).record.updates) :
    Outcome chronicle moves update := by
  have unstopped (number : Nat) (write : Write) :
      (number, .writing .stopped write) ∉ chronicle.machine.tasks := by
    intro running
    obtain ⟨source, earlier, _, updates⟩ := faithful.running number _ write running
    rw [unwritten] at updates
    cases updates
  by_cases undecided : update.fate = .outstanding
  · have later := faithful.follow moves
    obtain ⟨purpose, running⟩ := later.exists_writing_of_outstanding member undecided
    by_cases stopped : purpose = .stopped
    · subst stopped
      obtain ⟨before, after, split, begun⟩ := exists_shutdown moves (unstopped _ _) running
      exact .interrupted before after split begun (.inl undecided)
    · exact .awaited purpose undecided running stopped
        (later.exists_answered member undecided running stopped)
  · have new : update ∉ chronicle.record.updates := by
      rw [unwritten]
      exact List.not_mem_nil
    obtain ⟨before, move, after, next, purpose, rfl, running, verdict, possible⟩ :=
      faithful.exists_verdict moves new member undecided
    have earlier := faithful.follow before
    rcases Move.eq_of_verdict? verdict with ⟨reply, rfl, fate⟩ | ⟨rfl, fate⟩
    · obtain ⟨unstopped, told⟩ := earlier.tells_of_updateReply running possible
      refine .answered before after purpose reply rfl running unstopped fate ?_
      rwa [follow_concat_of_some possible]
    · obtain ⟨⟨machine, effects⟩, moved, rfl⟩ := Option.map_eq_some_iff.mp possible
      rcases Machine.isOwned_or_stopped_of_cancel (earlier.books.task?_eq_some running) moved with
        owned | rfl
      · exact .withdrawn before after purpose rfl running owned fate
      · obtain ⟨first, rest, rfl, begun⟩ := exists_shutdown before (unstopped _ _) running
        exact .interrupted first (rest ++ .occurrence (.cancel update.number) :: after)
          (by simp) begun (.inr fate)

/-- Every write that the machine has called for is on record, and it has come to one of four
outcomes. It waits for its answer, which is taken, recorded and told whenever it comes; or it was
answered, and that was told; or it was given up together with the request that waited for it; or
the interval timer had begun it and the machine was shut down before the answer came. -/
theorem writes_run_to_outcome
    (config : Config)
    (document : Document)
    (moves : List Move) :
    ((start config document).follow moves).record.updates.map Update.call =
      (((Machine.ofDocument config document).follow moves).2.filterMap Effect.update?).reverse ∧
    ∀ update ∈ ((start config document).follow moves).record.updates,
      Outcome (start config document) moves update := by
  refine ⟨?_, fun update => (faithful_start config document).outcome rfl moves⟩
  rw [calls_follow]
  exact List.append_nil _

/-- The course of a machine that is shut down while a flush waits for its write, with another content
saved and the other timers still trying to write in the meantime. -/
def undisturbed : List Move :=
  [.request .start, .request (.save "one"), .request .flush, .request (.save "two"),
    .occurrence (.pass 60000), .occurrence .debounce, .occurrence .tick, .request .shutdown,
    .request .flush, .occurrence (.updateReply 0 (.failed (.io "gone")))]

theorem writes_run_to_outcome_of_shutdown :
    ∃ update ∈ ((start .standard ⟨.nil, .nil, "base", 1⟩).follow undisturbed).record.updates,
      update.fate = .failed ∧
        Outcome (start .standard ⟨.nil, .nil, "base", 1⟩) undisturbed update :=
  ⟨⟨0, ⟨.nil, "one", 1⟩, 0, .failed⟩, by decide, rfl,
    (writes_run_to_outcome .standard ⟨.nil, .nil, "base", 1⟩ undisturbed).2 _ (by decide)⟩

/-- The course of a machine that is shut down while the interval timer waits for its write. -/
def disturbed : List Move :=
  [.request .start, .request (.save "mine"), .occurrence (.pass 5000), .occurrence .tick,
    .request .shutdown]

/-- A shutdown ends the write of the interval timer. Nobody can give it up before, no answer is taken
afterwards, and nothing but giving it up is left. -/
theorem interval_write_lost_in_shutdown :
    (∃ chronicle, chronicle =
        (start ⟨60000, 5000⟩ ⟨.nil, .nil, "base", 1⟩).follow (disturbed.take 4) ∧
      chronicle.record.updates = [⟨0, ⟨.nil, "mine", 1⟩, 0, .outstanding⟩] ∧
      chronicle.machine.tasks = [(0, .writing .interval ⟨.nil, "mine", 1⟩)] ∧
      (chronicle.move? (.occurrence (.cancel 0))).isNone = true) ∧
    (∀ reply, (((start ⟨60000, 5000⟩ ⟨.nil, .nil, "base", 1⟩).follow disturbed).move?
      (.occurrence (.updateReply 0 reply))).isNone = true) ∧
    ∃ chronicle, ((start ⟨60000, 5000⟩ ⟨.nil, .nil, "base", 1⟩).follow disturbed).move?
        (.occurrence (.cancel 0)) = some chronicle ∧
      chronicle.record.updates = [⟨0, ⟨.nil, "mine", 1⟩, 0, .abandoned⟩] ∧
      chronicle.machine.pipeline.phase = .idle ∧ chronicle.machine.pipeline.everSaved = false ∧
      chronicle.machine.pipeline.lastError = none ∧ chronicle.machine.pipeline.version = 1 :=
  ⟨⟨_, rfl, rfl, rfl, rfl⟩, fun _ => rfl, _, rfl, rfl, rfl, rfl, rfl, rfl⟩

end Chronicle
end Autosave
end TwinEditor
