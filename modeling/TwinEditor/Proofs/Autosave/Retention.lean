import TwinEditor.Proofs.Autosave.Buffer
import TwinEditor.Proofs.Autosave.Chronicle

/-!
# What is saved is kept

The buffer never holds anything but the content that was saved last. That content leaves it only
when the store has accepted it, or when a document is loaded in its place. So whatever fails, is
refused or given up in between, the content that was saved last is buffered, or it is what the
store accepted last.
-/

namespace TwinEditor
namespace Autosave

open Store

namespace Record

variable {record : Record} {move : Move}

/-- Only what is saved is recorded as such. -/
theorem note_saved_of_not_save
    (record : Record)
    (effects : List Effect)
    (unsaving : ∀ content, move ≠ .request (.save content)) :
    (record.note move effects).saved = record.saved := by
  rw [note_saved]
  unfold receive
  split
  case h_1 content => exact absurd rfl (unsaving content)
  case h_2 number reply => exact answer_saved number reply
  all_goals rfl

end Record

/-- A move that saves nothing leaves the buffer as it is or empties it. -/
theorem Machine.pendingAfter_of_not_save
    (machine : Machine)
    {move : Move}
    (unsaving : ∀ content, move ≠ .request (.save content)) :
    machine.pendingAfter move = machine.pipeline.pending ∨ machine.pendingAfter move = none := by
  unfold pendingAfter
  split
  case h_1 content => exact absurd rfl (unsaving content)
  case h_2 =>
    split
    · split
      · exact .inr rfl
      · exact .inl rfl
    · exact .inl rfl
  case h_3 =>
    split
    · exact .inr rfl
    · exact .inl rfl
  case h_4 => exact .inl rfl

namespace Chronicle

variable {chronicle next : Chronicle} {move : Move} {machine : Machine} {effects : List Effect}

/-- What is saved is kept: the buffer holds the content that was saved last or nothing, and nothing
only after that content was accepted or a document was loaded. -/
structure Retains (chronicle : Chronicle) : Prop where
  latest : ∀ content, chronicle.machine.pipeline.pending = some content →
    chronicle.record.saved.getLast? = some content
  emptied : chronicle.machine.pipeline.pending = none → chronicle.record.isReloaded = false →
    chronicle.machine.pipeline.inFlight = false ∧
      chronicle.record.accepted.head? = chronicle.record.saved.getLast?

theorem retains_start (config : Config) (document : Document) :
    (start config document).Retains where
  latest := nofun
  emptied _ _ := ⟨rfl, rfl⟩

namespace Retains

/-- After every change the buffer holds the content that was saved last, or nothing. -/
theorem latest_of_change
    (retains : chronicle.Retains)
    (change : chronicle.machine.Change move machine effects)
    {content : String}
    (pending : machine.pipeline.pending = some content) :
    (chronicle.record.note move effects).saved.getLast? = some content := by
  rw [change.pending_eq] at pending
  by_cases saving : ∃ saved, move = .request (.save saved)
  · obtain ⟨saved, rfl⟩ := saving
    cases change with
    | quiet light => cases light
    | launch purpose ready write light => cases light
    | save content due pipeline tasks nextNumber =>
        rw [← pending]
        exact List.getLast?_concat
  · have unsaving : ∀ saved, move ≠ .request (.save saved) :=
      fun saved equal => saving ⟨saved, equal⟩
    rw [Record.note_saved_of_not_save _ _ unsaving]
    rcases chronicle.machine.pendingAfter_of_not_save unsaving with same | none
    · exact retains.latest content (same.symm.trans pending)
    · rw [none] at pending
      cases pending

/-- A change empties the buffer only when the content that was saved last is accepted, or when a
document is loaded. -/
theorem emptied_of_change
    (retains : chronicle.Retains)
    (faithful : chronicle.Faithful)
    (change : chronicle.machine.Change move machine effects)
    (empty : machine.pipeline.pending = none)
    (unloaded : (chronicle.record.note move effects).isReloaded = false) :
    machine.pipeline.inFlight = false ∧
      (chronicle.record.note move effects).accepted.head? =
        (chronicle.record.note move effects).saved.getLast? := by
  -- While a write is in flight, an empty buffer means that a document was loaded.
  have loaded {number : Nat} {purpose : Purpose} {write : Write}
      (running : chronicle.machine.task? number = some (.writing purpose write))
      (empty : chronicle.machine.pipeline.pending = none) :
      chronicle.record.isReloaded ≠ false := by
    intro unloaded
    have landed := (retains.emptied empty unloaded).1
    rw [faithful.books.inFlight_of_writing running] at landed
    cases landed
  cases change with
  | quiet light pipeline tasks nextNumber idle =>
      rw [Record.note_of_idle _ light idle] at unloaded ⊢
      rw [pipeline.pending_eq] at empty
      rw [pipeline.inFlight_eq]
      exact retains.emptied empty unloaded
  | save content due pipeline tasks nextNumber =>
      rw [pipeline, Pipeline.buffer_pending] at empty
      cases empty
  | launch purpose ready write light quieted found pipeline tasks nextNumber =>
      rw [pipeline, Pipeline.launch_pending, (Pipeline.nextWrite?_eq_some found).2.2.1] at empty
      cases empty
  | fetch resolution phase pipeline tasks nextNumber =>
      rw [pipeline] at empty ⊢
      exact retains.emptied empty unloaded
  | land number purpose write reply running stopped pipeline tasks nextNumber =>
      rw [pipeline] at empty ⊢
      rw [Record.note_of_answer] at unloaded ⊢
      refine ⟨Pipeline.land_inFlight .., ?_⟩
      cases reply with
      | conflict => exact absurd unloaded (loaded running empty)
      | failed failure => exact absurd unloaded (loaded running empty)
      | saved version =>
          rw [faithful.accepted_of_saved running, Record.answer_saved]
          by_cases buffered : chronicle.machine.pipeline.pending = some write.content
          · exact (retains.latest _ buffered).symm
          · have kept : (chronicle.machine.pipeline.land write.content (.saved version)).pending =
                chronicle.machine.pipeline.pending := if_neg buffered
            exact absurd unloaded (loaded running (kept.symm.trans empty))
  | refuse number resolution failure waiting pipeline tasks nextNumber =>
      rw [pipeline] at empty ⊢
      exact retains.emptied empty unloaded
  | adopt number resolution latest waiting lost pipeline tasks nextNumber =>
      obtain ⟨before, absent⟩ := Bool.or_eq_false_iff.mp unloaded
      rw [pipeline] at empty ⊢
      cases resolution with
      | reload =>
          have present := (faithful.waiting_iff _ _).mpr (Machine.mem_of_task? waiting)
          simp [present] at absent
      | overwrite => exact retains.emptied empty before
  | resubmit number resolution latest write waiting found pipeline tasks nextNumber =>
      rw [pipeline, Pipeline.launch_pending, (Pipeline.nextWrite?_eq_some found).2.2.1] at empty
      cases empty
  | forgo number resolution waiting pipeline tasks nextNumber =>
      rw [pipeline] at empty ⊢
      exact retains.emptied empty unloaded
  | abandon number purpose write running pipeline tasks nextNumber =>
      rw [pipeline, Pipeline.abandon_pending] at empty
      exact absurd unloaded (loaded running empty)

/-- Every change keeps what is saved. -/
theorem changed
    (retains : chronicle.Retains)
    (faithful : chronicle.Faithful)
    (change : chronicle.machine.Change move machine effects) :
    Retains ⟨machine.retire, chronicle.record.note move effects⟩ where
  latest content pending :=
    retains.latest_of_change change ((Machine.retire_pending machine).symm.trans pending)
  emptied empty unloaded := by
    rw [Machine.retire_inFlight]
    rw [Machine.retire_pending] at empty
    exact retains.emptied_of_change faithful change empty unloaded

end Retains

theorem retains_follow
    (config : Config)
    (document : Document)
    (moves : List Move) :
    ((start config document).follow moves).Retains :=
  (faithful_start config document).follow_induction
    (fun faithful retains change => retains.changed faithful change)
    (retains_start config document) moves

/-- Unless a document was loaded since, the content that was saved last is what the buffer holds, or
the buffer is empty and the store accepted that content last. -/
theorem last_saved_pending_or_accepted
    (config : Config)
    (document : Document)
    (moves : List Move)
    (content : String)
    (saved : ((start config document).follow moves).record.saved.getLast? = some content)
    (unloaded : ((start config document).follow moves).record.isReloaded = false) :
    ((start config document).follow moves).machine.pipeline.pending = some content ∨
      ((start config document).follow moves).machine.pipeline.pending = none ∧
        ((start config document).follow moves).record.accepted.head? = some content := by
  have retains := retains_follow config document moves
  cases pending : ((start config document).follow moves).machine.pipeline.pending with
  | none =>
      obtain ⟨_, accepted⟩ := retains.emptied pending unloaded
      exact .inr ⟨rfl, accepted.trans saved⟩
  | some buffered =>
      have latest := retains.latest buffered pending
      exact .inl (latest.symm.trans saved)

/-- The course of a machine whose content is replaced, and put back, while its write is in flight. -/
def redrafted : List Move :=
  [.request (.save "draft"), .request .flush, .request (.save "other"),
    .request (.save "draft")]

/-- The content that was put back is accepted with the write in flight, and it is buffered still
when that write fails. -/
theorem last_saved_pending_or_accepted_of_redraft :
    (∃ chronicle, chronicle = (start .standard ⟨.nil, .nil, "base", 1⟩).follow
        (redrafted ++ [.occurrence (.updateReply 0 (.saved 2))]) ∧
      chronicle.record.saved = ["draft", "other", "draft"] ∧
      (chronicle.machine.pipeline.pending = some "draft" ∨
        chronicle.machine.pipeline.pending = none ∧
          chronicle.record.accepted.head? = some "draft")) ∧
    (∃ chronicle, chronicle = (start .standard ⟨.nil, .nil, "base", 1⟩).follow
        (redrafted ++ [.occurrence (.updateReply 0 (.failed (.server 500 "down")))]) ∧
      (chronicle.machine.pipeline.pending = some "draft" ∨
        chronicle.machine.pipeline.pending = none ∧
          chronicle.record.accepted.head? = some "draft")) :=
  ⟨⟨_, rfl, rfl, last_saved_pending_or_accepted _ _ _ "draft" rfl rfl⟩,
    ⟨_, rfl, last_saved_pending_or_accepted _ _ _ "draft" rfl rfl⟩⟩

end Chronicle
end Autosave
end TwinEditor
