import TwinEditor.Proofs.Autosave.Bookkeeping

/-!
# What writes are begun for

A move that begins a write begins it for a purpose of its own, and the write keeps its purpose
until it is over. Only a shutdown changes one: it stops the write of the interval timer. Who may
give a write up, and whether its answer is still taken, depends on the purpose alone.
-/

namespace TwinEditor
namespace Autosave

open Store

/-- The purpose of a write that a move begins. -/
def Move.purpose? : Move → Option Purpose
  | .request .flush => some .flush
  | .occurrence .debounce => some .debounce
  | .occurrence .tick => some .interval
  | .occurrence (.fetchReply _ (.ok latest)) => some (.resubmit latest)
  | _ => none

/-- Whether a request waits for a write, so that it can be given up together with the write. -/
def Purpose.isOwned : Purpose → Bool
  | .flush => true
  | .resubmit _ => true
  | .debounce | .interval | .stopped => false

/-- No write begins as one that was stopped. -/
theorem Move.purpose?_ne_stopped (move : Move) : move.purpose? ≠ some .stopped := by
  unfold purpose?
  split <;> nofun

namespace Machine

variable {machine ready next : Machine} {move : Move} {effects : List Effect} {number : Nat}
  {purpose : Purpose} {write : Write}

/-- How a write that has no answer after a move came to be begun for its purpose. -/
inductive Provenance (machine : Machine) (move : Move) (effects : List Effect) (number : Nat)
    (write : Write) : Purpose → Prop
  /-- It had no answer before. -/
  | kept {purpose : Purpose}
      (member : (number, .writing purpose write) ∈ machine.tasks) :
      Provenance machine move effects number write purpose
  /-- The interval timer had begun it, and is stopped. -/
  | stopped
      (running : (number, .writing .interval write) ∈ machine.tasks)
      (move_eq : move = .request .shutdown) :
      Provenance machine move effects number write .stopped
  /-- It has just begun, under the number given next or under that of a resolution. -/
  | begun {purpose : Purpose}
      (purpose_eq : move.purpose? = some purpose)
      (effects_eq : effects = [.updateCalled number write])
      (number_eq : number = machine.nextNumber ∨
        ∃ resolution, (number, .fetching resolution) ∈ machine.tasks) :
      Provenance machine move effects number write purpose

/-- A write that is open after an attempt to write was open before, or is the one attempted. -/
theorem provenance_of_attemptWrite
    {other : Purpose}
    {given : Nat}
    (attempted : ready.attemptWrite other given = (next, effects))
    (purpose_eq : move.purpose? = some other)
    (given_eq : given = machine.nextNumber ∨
      ∃ resolution, (given, .fetching resolution) ∈ machine.tasks)
    (kept : ∀ entry ∈ ready.tasks, entry ∈ machine.tasks)
    (member : (number, .writing purpose write) ∈ next.tasks) :
    Provenance machine move effects number write purpose := by
  unfold attemptWrite at attempted
  split at attempted
  case h_1 =>
    obtain ⟨rfl, rfl⟩ := Prod.mk.inj attempted
    exact .kept (kept _ member)
  case h_2 begun _ =>
    obtain ⟨rfl, rfl⟩ := Prod.mk.inj attempted
    rcases List.mem_cons.mp member with new | older
    · obtain ⟨rfl, sameTask⟩ := Prod.mk.inj new
      obtain ⟨rfl, rfl⟩ := Task.writing.inj sameTask
      exact .begun purpose_eq rfl given_eq
    · exact .kept (kept _ older)

/-- A write that is open after a request was open before, was stopped by a shutdown, or begins with a
flush. -/
theorem provenance_of_request
    {request : Request}
    (performed : machine.request request = (next, effects))
    (member : (number, .writing purpose write) ∈ next.tasks) :
    Provenance machine (.request request) effects number write purpose := by
  obtain ⟨rfl, rfl⟩ := Prod.mk.inj performed
  rw [retire_tasks] at member
  cases request with
  | save content => exact .kept member
  | start =>
      cases timer : machine.pipeline.interval <;> simp only [timer] at member <;>
        exact .kept member
  | shutdown =>
      obtain ⟨⟨other, task⟩, older, equal⟩ := List.mem_map.mp member
      obtain ⟨rfl, stopped⟩ := Prod.mk.inj equal
      unfold stopTask at stopped
      split at stopped
      · obtain ⟨rfl, rfl⟩ := Task.writing.inj stopped
        exact .stopped older rfl
      · exact .kept (stopped ▸ older)
  | flush => exact provenance_of_attemptWrite rfl rfl (.inl rfl) (fun _ older => older) member
  | resolve resolution =>
      by_cases phase : machine.pipeline.phase = .conflict
      · simp only [takeNumber, phase, if_true] at member
        exact .kept ((List.mem_cons.mp member).resolve_left (by rintro ⟨⟩))
      · simp only [takeNumber, phase, if_false] at member
        exact .kept member
  | release => exact .kept member

/-- A write that is open after an occurrence was open before, or begins with a timer or with the
document of a resolution. -/
theorem provenance_of_occur?
    {occurrence : Occurrence}
    (possible : machine.occur? occurrence = some (next, effects))
    (member : (number, .writing purpose write) ∈ next.tasks) :
    Provenance machine (.occurrence occurrence) effects number write purpose := by
  obtain ⟨changed, occurred, rfl⟩ := exists_occurNeeded?_of_occur? possible
  rw [retire_tasks] at member
  have ofDropped {other : Nat}
      (kept : (number, .writing purpose write) ∈ (machine.dropTask other).tasks) :
      Provenance machine (.occurrence occurrence) effects number write purpose :=
    .kept (List.mem_filter.mp kept).1
  cases occurrence with
  | pass milliseconds =>
      obtain ⟨rfl, _⟩ := Prod.mk.inj (Option.some.inj occurred)
      exact .kept member
  | debounce =>
      obtain ⟨_, _, _, attempted⟩ := occurNeeded?_debounce_eq_some_iff.mp occurred
      exact provenance_of_attemptWrite attempted rfl (.inl rfl) (fun _ older => older) member
  | tick =>
      obtain ⟨_, _, _, attempted⟩ := occurNeeded?_tick_eq_some_iff.mp occurred
      exact provenance_of_attemptWrite attempted rfl (.inl rfl) (fun _ older => older) member
  | updateReply other reply =>
      simp only [occurNeeded?] at occurred
      split at occurred
      · cases occurred
      · obtain ⟨rfl, _⟩ := Prod.mk.inj (Option.some.inj occurred)
        exact ofDropped member
      · cases occurred
  | fetchReply other reply =>
      simp only [occurNeeded?] at occurred
      split at occurred
      case h_1 resolution waiting =>
        cases reply with
        | error failure =>
            obtain ⟨rfl, _⟩ := Prod.mk.inj (Option.some.inj occurred)
            exact ofDropped member
        | ok latest =>
            have attempted := Option.some.inj occurred
            exact provenance_of_attemptWrite attempted rfl
              (.inr ⟨resolution, mem_of_task? waiting⟩)
              (fun _ older => (List.mem_filter.mp older).1) member
      · cases occurred
  | cancel other =>
      simp only [occurNeeded?] at occurred
      split at occurred
      · obtain ⟨rfl, _⟩ := Prod.mk.inj (Option.some.inj occurred)
        exact ofDropped member
      · cases occurred
      · cases occurred
      · obtain ⟨rfl, _⟩ := Prod.mk.inj (Option.some.inj occurred)
        exact ofDropped member
      · cases occurred

/-- A write that is open after a move was open before, was stopped, or begins with the move. -/
theorem provenance_of_move?
    (possible : machine.move? move = some (next, effects))
    (member : (number, .writing purpose write) ∈ next.tasks) :
    Provenance machine move effects number write purpose := by
  cases move with
  | request request =>
      simp only [move?] at possible
      split at possible
      · exact provenance_of_request (Option.some.inj possible) member
      · cases possible
  | occurrence occurrence => exact provenance_of_occur? possible member

/-- Only a write that a request waits for, or one that was stopped, can be given up. -/
theorem isOwned_or_stopped_of_cancel
    (running : machine.task? number = some (.writing purpose write))
    (possible : machine.move? (.occurrence (.cancel number)) = some (next, effects)) :
    purpose.isOwned = true ∨ purpose = .stopped := by
  cases purpose with
  | flush => exact .inl rfl
  | resubmit latest => exact .inl rfl
  | stopped => exact .inr rfl
  | debounce => simp [move?, occur?, occurNeeded?, running] at possible
  | interval => simp [move?, occur?, occurNeeded?, running] at possible

/-- The answer to a write that was not stopped is taken whenever it comes. -/
theorem move?_updateReply
    (running : machine.task? number = some (.writing purpose write))
    (unstopped : purpose ≠ .stopped)
    (reply : UpdateReply) :
    machine.move? (.occurrence (.updateReply number reply)) =
      some (({ machine.dropTask number with
          pipeline := machine.pipeline.land write.content reply } : Machine).retire,
        .announced (.ofReply reply) :: answers purpose number (Event.ofReply reply).attempt) := by
  cases purpose with
  | stopped => exact absurd rfl unstopped
  | _ => simp [move?, occur?, occurNeeded?, running]

/-- No answer is taken to a write that was stopped. -/
theorem move?_updateReply_of_stopped
    (running : machine.task? number = some (.writing .stopped write))
    (reply : UpdateReply) :
    machine.move? (.occurrence (.updateReply number reply)) = none := by
  simp [move?, occur?, occurNeeded?, running]

end Machine
end Autosave
end TwinEditor
