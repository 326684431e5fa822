import TwinEditor.Proofs.Autosave.Retention

/-!
# Writes follow saves

The contents that are saved have their places in the order in which they are saved. Every write
carries the content at one of these places. The places never go back from one write to the next,
and they go on after a write that was accepted. So nothing older is written over something newer,
and no save is written again after it was accepted.
-/

namespace TwinEditor
namespace Autosave

open Store

/-- The write that an effect calls for, with the number of the call. -/
def Effect.update? : Effect → Option (Nat × Write)
  | .updateCalled number write => some (number, write)
  | _ => none

/-- The call by which a write began. -/
def Update.call (update : Update) : Nat × Write :=
  (update.number, update.write)

@[simp] theorem Update.call_settle (number : Nat) (fate : Fate) (update : Update) :
    (update.settle number fate).call = update.call := by
  unfold settle
  split <;> rfl

/-- Whether a move ends a write without its being accepted. -/
def Move.isSetback : Move → Bool
  | .occurrence (.updateReply _ (.saved _)) => false
  | .occurrence (.updateReply ..) => true
  | .occurrence (.cancel _) => true
  | _ => false

/-- Every one of some writes is accepted or outstanding. -/
def Smooth (updates : List Update) : Prop :=
  ∀ update ∈ updates, update.fate = .accepted ∨ update.fate = .outstanding

theorem Smooth.settle
    {updates : List Update}
    (smooth : Smooth updates)
    (number : Nat) :
    Smooth (updates.map (.settle number .accepted)) := by
  intro update member
  obtain ⟨older, olderMember, rfl⟩ := List.mem_map.mp member
  unfold Update.settle
  split
  · exact .inl rfl
  · exact smooth older olderMember

namespace Record

variable {record : Record}

/-- No move takes a write off the record or changes it. -/
theorem receive_calls (record : Record) (move : Move) :
    (record.receive move).updates.map Update.call = record.updates.map Update.call := by
  have settled (number : Nat) (fate : Fate) :
      (record.settle number fate).updates.map Update.call = record.updates.map Update.call := by
    simp [settle]
  unfold receive
  split
  case h_2 number reply => rw [answer_updates, settled]
  case h_5 number => exact settled number .abandoned
  all_goals rfl

/-- The writes that a move calls for are recorded, and no others. -/
theorem note_calls (record : Record) (move : Move) (effects : List Effect) :
    (record.note move effects).updates.map Update.call =
      (effects.filterMap Effect.update?).reverse ++ record.updates.map Update.call := by
  have called (source : Nat) (effect : Effect) :
      (effect.begun? source).map Update.call = effect.update? := by
    cases effect <;> rfl
  rw [note_updates, List.map_append, List.map_reverse, List.map_filterMap, receive_calls]
  simp only [called]

/-- After a move that is no setback, every write is accepted or outstanding if it was before. -/
theorem note_smooth
    (smooth : Smooth record.updates)
    {move : Move}
    (forward : move.isSetback = false)
    (effects : List Effect) :
    Smooth (record.note move effects).updates := by
  have received : Smooth (record.receive move).updates := by
    unfold receive
    split
    case h_2 number reply =>
      cases reply with
      | saved version => exact smooth.settle number
      | conflict => cases forward
      | failed failure => cases forward
    case h_5 number => cases forward
    all_goals exact smooth
  rw [note_updates]
  intro update member
  rcases List.mem_append.mp member with new | older
  · obtain ⟨effect, _, begun⟩ := List.mem_filterMap.mp (List.mem_reverse.mp new)
    cases effect with
    | updateCalled number write => exact .inr (Option.some.inj begun ▸ rfl)
    | _ => cases begun
  · exact received update older

end Record

/-- The writes of a chronicle are those that its machine has called for. -/
theorem Chronicle.calls_follow
    (chronicle : Chronicle)
    (moves : List Move) :
    (chronicle.follow moves).record.updates.map Update.call =
      ((chronicle.machine.follow moves).2.filterMap Effect.update?).reverse ++
        chronicle.record.updates.map Update.call := by
  induction moves generalizing chronicle with
  | nil => rfl
  | cons move moves inductionHypothesis =>
      cases possible : chronicle.machine.move? move with
      | none =>
          rw [follow_cons_of_none possible, Machine.follow_cons_of_none possible]
          exact inductionHypothesis chronicle
      | some step =>
          rw [follow_cons_of_some possible, Machine.follow_cons_of_some possible]
          refine (inductionHypothesis _).trans ?_
          simp [Record.note_calls]

/-- Some writes, the latest first, follow what was saved, given what is buffered after them. -/
structure Sequenced (saved : List String) (updates : List Update) (pending : Option String) :
    Prop where
  /-- A write carries the content at its place. -/
  sources : ∀ update ∈ updates, saved[update.source]? = some update.write.content
  /-- What is buffered was saved after every write that was accepted. -/
  spent : pending.isSome = true → ∀ update ∈ updates, update.fate = .accepted →
    update.source + 1 < saved.length
  ordered : updates.Pairwise fun later earlier =>
    earlier.source ≤ later.source ∧ (earlier.fate = .accepted → earlier.source < later.source)

namespace Sequenced

variable {saved : List String} {updates earlier : List Update} {update : Update}
  {pending : Option String}

theorem source_lt
    (sequenced : Sequenced saved updates pending)
    (member : update ∈ updates) :
    update.source < saved.length :=
  (List.getElem?_eq_some_iff.mp (sequenced.sources update member)).1

/-- The buffer may be emptied. -/
theorem rebuffer
    (sequenced : Sequenced saved updates pending)
    {later : Option String}
    (filled : later.isSome = true → pending.isSome = true) :
    Sequenced saved updates later :=
  ⟨sequenced.sources, fun isSome => sequenced.spent (filled isSome), sequenced.ordered⟩

/-- A content that is saved comes after all writes. -/
theorem save
    (sequenced : Sequenced saved updates pending)
    (content : String) :
    Sequenced (saved ++ [content]) updates (some content) where
  sources update member := by
    rw [List.getElem?_append_left (sequenced.source_lt member)]
    exact sequenced.sources update member
  spent _ update member _ := by
    have before := sequenced.source_lt member
    rw [List.length_append, List.length_singleton]
    omega
  ordered := sequenced.ordered

/-- A write may begin with the content that was saved last, when it is buffered. -/
theorem begin
    (sequenced : Sequenced saved updates pending)
    {write : Write}
    (buffered : pending = some write.content)
    (latest : saved.getLast? = some write.content)
    (number : Nat) :
    Sequenced saved (⟨number, write, saved.length - 1, .outstanding⟩ :: updates) pending where
  sources update member := by
    rcases List.mem_cons.mp member with rfl | older
    · rw [← List.getLast?_eq_getElem?]
      exact latest
    · exact sequenced.sources update older
  spent isSome update member accepted := by
    rcases List.mem_cons.mp member with rfl | older
    · cases accepted
    · exact sequenced.spent isSome update older accepted
  ordered := by
    refine List.pairwise_cons.mpr ⟨fun older member => ⟨?_, fun accepted => ?_⟩, sequenced.ordered⟩
    · have before := sequenced.source_lt member
      exact Nat.le_sub_one_of_lt before
    · have before := sequenced.spent (buffered ▸ rfl) older member accepted
      exact Nat.lt_sub_of_add_lt before

/-- The latest write may get its fate. If it is accepted, what is buffered then was saved later. -/
theorem decide
    (sequenced : Sequenced saved (update :: earlier) pending)
    {fate : Fate}
    {later : Option String}
    (filled : later.isSome = true → pending.isSome = true)
    (latest : ∀ content, later = some content → saved.getLast? = some content)
    (renewed : fate = .accepted → later ≠ some update.write.content) :
    Sequenced saved ({ update with fate } :: earlier) later where
  sources := by
    have sources := sequenced.sources
    rw [List.forall_mem_cons] at sources ⊢
    exact sources
  spent isSome := by
    have spent := sequenced.spent (filled isSome)
    rw [List.forall_mem_cons] at spent ⊢
    refine ⟨fun accepted => ?_, spent.2⟩
    show update.source + 1 < saved.length
    obtain ⟨content, buffered⟩ := Option.isSome_iff_exists.mp isSome
    have last := latest content buffered
    have carried := sequenced.sources update List.mem_cons_self
    have before := sequenced.source_lt List.mem_cons_self
    -- Otherwise the write carries the content that is buffered.
    apply Decidable.byContradiction
    intro atEnd
    have place : update.source = saved.length - 1 := by omega
    rw [List.getLast?_eq_getElem?, ← place, carried] at last
    exact renewed accepted (buffered.trans last.symm)
  ordered := List.pairwise_cons.mpr (List.pairwise_cons.mp sequenced.ordered)

/-- No save is written twice if every write but the latest was accepted. -/
theorem nodup_source
    (sequenced : Sequenced saved updates pending)
    (accepted : ∀ update ∈ updates.tail, update.fate = .accepted) :
    (updates.map (·.source)).Nodup := by
  cases updates with
  | nil => exact List.nodup_nil
  | cons update earlier =>
      obtain ⟨first, rest⟩ := List.pairwise_cons.mp sequenced.ordered
      have increasing : (update :: earlier).Pairwise fun later earlier =>
          earlier.source < later.source :=
        .cons (fun older member => (first older member).2 (accepted older member))
          (rest.imp_of_mem fun _ member ordered => ordered.2 (accepted _ member))
      rw [List.Nodup, List.pairwise_map]
      exact increasing.imp fun lt => Nat.ne_of_gt lt

end Sequenced

namespace Chronicle

variable {chronicle : Chronicle} {move : Move} {machine : Machine} {effects : List Effect}

/-- What is saved is kept, and the writes follow it. -/
structure Orderly (chronicle : Chronicle) : Prop where
  retains : chronicle.Retains
  sequenced : Sequenced chronicle.record.saved chronicle.record.updates
    chronicle.machine.pipeline.pending

theorem orderly_start (config : Config) (document : Document) :
    (start config document).Orderly :=
  ⟨retains_start config document, nofun, nofun, .nil⟩

namespace Orderly

/-- The write in flight may get its fate, if what is buffered then was buffered before, and was
saved later if the write is accepted. -/
theorem settle
    (orderly : chronicle.Orderly)
    (faithful : chronicle.Faithful)
    {number : Nat}
    {purpose : Purpose}
    {write : Write}
    (running : chronicle.machine.task? number = some (.writing purpose write))
    {fate : Fate}
    {later : Option String}
    (kept : ∀ content, later = some content →
      chronicle.machine.pipeline.pending = some content)
    (renewed : fate = .accepted → later ≠ some write.content) :
    Sequenced chronicle.record.saved (chronicle.record.settle number fate).updates later := by
  have sequenced := orderly.sequenced
  obtain ⟨source, earlier, _, before, after⟩ := faithful.updates_settle running fate
  rw [before] at sequenced
  rw [after]
  refine sequenced.decide (fun isSome => ?_) (fun content buffered => ?_) renewed
  · obtain ⟨content, buffered⟩ := Option.isSome_iff_exists.mp isSome
    exact Option.isSome_iff_exists.mpr ⟨content, kept content buffered⟩
  · exact orderly.retains.latest content (kept content buffered)

/-- Every change keeps the writes in the order of the saves. -/
theorem sequenced_of_change
    (orderly : chronicle.Orderly)
    (faithful : chronicle.Faithful)
    (change : chronicle.machine.Change move machine effects) :
    Sequenced (chronicle.record.note move effects).saved
      (chronicle.record.note move effects).updates machine.pipeline.pending := by
  have sequenced := orderly.sequenced
  have latest := orderly.retains.latest
  cases change with
  | quiet light pipeline tasks nextNumber idle =>
      rw [Record.note_of_idle _ light idle, pipeline.pending_eq]
      exact sequenced
  | save content due pipeline tasks nextNumber =>
      rw [pipeline, Pipeline.buffer_pending]
      exact sequenced.save content
  | launch purpose ready write light quieted found pipeline tasks nextNumber =>
      have pending := quieted.pending_eq.symm.trans (Pipeline.nextWrite?_eq_some found).2.2.1
      rw [Record.note_of_launch _ light, pipeline, Pipeline.launch_pending, quieted.pending_eq]
      exact sequenced.begin pending (latest _ pending) _
  | fetch resolution phase pipeline tasks nextNumber =>
      rw [pipeline]
      exact sequenced
  | land number purpose write reply running stopped pipeline tasks nextNumber =>
      rw [Record.note_of_answer, Record.answer_saved, Record.answer_updates, pipeline]
      refine orderly.settle faithful running (fun _ => Pipeline.pending_of_land) fun accepted => ?_
      cases reply with
      | saved version => exact Pipeline.land_saved_pending_ne _ write.content version
      | conflict => cases accepted
      | failed failure => cases accepted
  | refuse number resolution failure waiting pipeline tasks nextNumber =>
      rw [pipeline]
      exact sequenced
  | adopt number resolution latest waiting lost pipeline tasks nextNumber =>
      rw [pipeline]
      cases resolution with
      | reload => exact sequenced.rebuffer nofun
      | overwrite => exact sequenced
  | resubmit number resolution document write waiting found pipeline tasks nextNumber =>
      have pending := (Pipeline.nextWrite?_eq_some found).2.2.1
      rw [Record.note_of_resubmit, pipeline, Pipeline.launch_pending]
      cases resolution with
      | reload => cases pending
      | overwrite => exact sequenced.begin pending (latest _ pending) _
  | forgo number resolution waiting pipeline tasks nextNumber =>
      show Sequenced chronicle.record.saved (chronicle.record.settle number .abandoned).updates _
      rw [faithful.updates_settle_of_fetching waiting, pipeline]
      exact sequenced
  | abandon number purpose write running pipeline tasks nextNumber =>
      rw [pipeline, Pipeline.abandon_pending]
      exact orderly.settle faithful running (fun _ buffered => buffered) nofun

/-- Every change keeps a chronicle in order. -/
theorem changed
    (orderly : chronicle.Orderly)
    (faithful : chronicle.Faithful)
    (change : chronicle.machine.Change move machine effects) :
    Orderly ⟨machine.retire, chronicle.record.note move effects⟩ where
  retains := orderly.retains.changed faithful change
  sequenced := by
    rw [Machine.retire_pending]
    exact orderly.sequenced_of_change faithful change

end Orderly

theorem orderly_follow
    (config : Config)
    (document : Document)
    (moves : List Move) :
    ((start config document).follow moves).Orderly :=
  (faithful_start config document).follow_induction
    (fun faithful orderly change => orderly.changed faithful change)
    (orderly_start config document) moves

/-- In a course without setbacks every write is accepted or outstanding. -/
theorem smooth_follow
    (smooth : Smooth chronicle.record.updates)
    (moves : List Move)
    (forward : ∀ move ∈ moves, move.isSetback = false) :
    Smooth (chronicle.follow moves).record.updates := by
  induction moves generalizing chronicle with
  | nil => exact smooth
  | cons move moves inductionHypothesis =>
      obtain ⟨first, rest⟩ := List.forall_mem_cons.mp forward
      cases possible : chronicle.machine.move? move with
      | none =>
          rw [follow_cons_of_none possible]
          exact inductionHypothesis smooth rest
      | some step =>
          rw [follow_cons_of_some possible]
          exact inductionHypothesis (Record.note_smooth smooth first _) rest

/-- Every write that is called for carries the content at one place among all the contents that were
saved. From one write to the next these places never go back, and they go on after a write that
was accepted. So no save is written twice while every write is accepted or outstanding, as in a
course in which none is refused, fails or is given up. -/
theorem writes_follow_saves
    (config : Config)
    (document : Document)
    (moves : List Move) :
    ((start config document).follow moves).record.updates.map Update.call =
      (((Machine.ofDocument config document).follow moves).2.filterMap Effect.update?).reverse ∧
    (∀ update ∈ ((start config document).follow moves).record.updates,
      ((start config document).follow moves).record.saved[update.source]? =
        some update.write.content) ∧
    (((start config document).follow moves).record.updates.Pairwise fun later earlier =>
      earlier.source ≤ later.source ∧
        (earlier.fate = .accepted → earlier.source < later.source)) ∧
    ((∀ move ∈ moves, move.isSetback = false) →
      Smooth ((start config document).follow moves).record.updates) ∧
    (Smooth ((start config document).follow moves).record.updates →
      (((start config document).follow moves).record.updates.map (·.source)).Nodup) := by
  have faithful := (faithful_start config document).follow moves
  have sequenced := (orderly_follow config document moves).sequenced
  have smooth : Smooth (start config document).record.updates := nofun
  refine ⟨?_, sequenced.sources, sequenced.ordered, smooth_follow smooth moves, fun smooth => ?_⟩
  · rw [calls_follow]
    exact List.append_nil _
  · refine sequenced.nodup_source fun update member => ?_
    have decided := faithful.settled_tail update member
    exact (smooth update (List.mem_of_mem_tail member)).resolve_right decided

/-- The course of a machine that is told to save again while a write is in flight, and whose timers
and owner all try to write then and afterwards. -/
def contended : List Move :=
  [.request .start, .request (.save "one"), .request .flush, .request (.save "two"),
    .occurrence (.pass 60000), .occurrence .debounce, .occurrence .tick, .request .flush,
    .occurrence (.updateReply 0 (.saved 2)), .request .flush, .occurrence (.pass 60000),
    .occurrence .tick]

theorem writes_follow_saves_of_contention :
    (∀ move ∈ contended, move.isSetback = false) ∧
    ∃ updates : List Update,
      updates = ((start .standard ⟨.nil, .nil, "base", 1⟩).follow contended).record.updates ∧
      updates.map (·.write.content) = ["two", "one"] ∧ (updates.map (·.source)).Nodup := by
  obtain ⟨_, _, _, smooth, nodup⟩ :=
    writes_follow_saves .standard ⟨.nil, .nil, "base", 1⟩ contended
  have forward : ∀ move ∈ contended, move.isSetback = false := by decide
  exact ⟨forward, _, rfl, by decide, nodup (smooth forward)⟩

end Chronicle
end Autosave
end TwinEditor
