import TwinEditor.Proofs.Autosave.Calls

/-!
# The buffer of a machine and the answers it gives

A content stays buffered until it is accepted or dropped for the document of the store, so that
there is always a content in the buffer while a write of it is in flight. A request is answered
when its last call is over: no call with its number is left then.
-/

namespace TwinEditor
namespace Autosave

open Store

/-- The request that an effect answers. -/
def Effect.answered? : Effect → Option Nat
  | .attempted number _ => some number
  | .resolved number _ => some number
  | _ => none

/-- A resolution is told that nothing was begun when there is no conflict. -/
theorem Effect.eq_of_isIdle_resolved
    {number other : Nat}
    {reply : FetchReply}
    (idle : (Effect.resolved other reply).isIdle number = true) :
    other = number ∧ reply = .error .noConflict := by
  cases reply with
  | ok latest => cases idle
  | error failure => cases failure <;> first | exact ⟨eq_of_beq idle, rfl⟩ | cases idle

theorem Effect.answered?_of_isIdle
    {effect : Effect}
    {number other : Nat}
    (idle : effect.isIdle number = true)
    (answered : effect.answered? = some other) :
    other = number := by
  cases effect with
  | attempted answeredNumber attempt =>
      obtain rfl := Option.some.inj answered
      cases attempt <;> first | exact eq_of_beq idle | cases idle
  | resolved answeredNumber reply =>
      obtain rfl := Option.some.inj answered
      exact (Effect.eq_of_isIdle_resolved idle).1
  | _ => cases answered

namespace Machine

variable {machine next : Machine} {move : Move} {effects : List Effect}

/-- The answer to a call goes to the request with its number. -/
theorem answered?_of_mem_answers
    {purpose : Purpose}
    {number other : Nat}
    {attempt : Attempt}
    {effect : Effect}
    (member : effect ∈ answers purpose number attempt)
    (answered : effect.answered? = some other) :
    other = number := by
  cases purpose with
  | flush =>
      obtain rfl := List.mem_singleton.mp member
      exact (Option.some.inj answered).symm
  | resubmit latest =>
      obtain rfl := List.mem_singleton.mp member
      exact (Option.some.inj answered).symm
  | debounce | interval | stopped => cases member

/-- There are no two writes without an answer. -/
theorem Sound.writing_unique
    (sound : machine.Sound)
    {number other : Nat}
    {purpose otherPurpose : Purpose}
    {write otherWrite : Write}
    (member : (number, .writing purpose write) ∈ machine.tasks)
    (otherMember : (other, .writing otherPurpose otherWrite) ∈ machine.tasks) :
    number = other := by
  apply Decidable.byContradiction
  intro differ
  have none := sound.countP_dropTask_writing (sound.task?_eq_some member)
  rw [List.countP_eq_zero] at none
  refine none (other, .writing otherPurpose otherWrite) (List.mem_filter.mpr ⟨otherMember, ?_⟩) rfl
  simpa [bne_iff_ne] using Ne.symm differ

/-- A call with a number is over once it is dropped. -/
theorem not_mem_dropTask
    (machine : Machine)
    (number : Nat)
    (task : Task) :
    (number, task) ∉ (machine.dropTask number).tasks := by
  intro member
  simp [dropTask] at member

/-- A resolution that has got its document waits no more. -/
theorem Change.not_fetching_of_document
    {number : Nat}
    {latest : Document}
    (change : Change machine (.occurrence (.fetchReply number (.ok latest))) next effects)
    (resolution : Resolution) :
    (number, .fetching resolution) ∉ next.tasks := by
  cases change with
  | quiet light => cases light
  | launch purpose ready write light => cases light
  | adopt number resolution latest waiting lost pipeline tasks nextNumber =>
      exact tasks ▸ machine.not_mem_dropTask number _
  | resubmit number resolution latest write waiting found pipeline tasks nextNumber =>
      rw [tasks]
      intro member
      rcases List.mem_cons.mp member with new | older
      · cases new
      · exact machine.not_mem_dropTask number _ older

/-- A call that is given up is over. -/
theorem Change.not_mem_of_cancel
    {number : Nat}
    (change : Change machine (.occurrence (.cancel number)) next effects)
    (task : Task) :
    (number, task) ∉ next.tasks := by
  cases change with
  | quiet light => cases light
  | launch purpose ready write light => cases light
  | forgo number resolution waiting pipeline tasks nextNumber =>
      exact tasks ▸ machine.not_mem_dropTask number _
  | abandon number purpose write running pipeline tasks nextNumber =>
      exact tasks ▸ machine.not_mem_dropTask number _

/-- What is given up is not answered. -/
theorem Change.effects_of_cancel
    {number : Nat}
    (change : Change machine (.occurrence (.cancel number)) next effects) :
    effects = [] := by
  cases change with
  | quiet light => cases light
  | launch purpose ready write light => cases light
  | forgo => rfl
  | abandon => rfl

/-- When a request is answered, no call with its number is left. -/
theorem Change.unanswered
    (change : Change machine move next effects)
    (sound : machine.Sound)
    {effect : Effect}
    (member : effect ∈ effects)
    {number : Nat}
    (answered : effect.answered? = some number)
    (task : Task) :
    (number, task) ∉ next.tasks := by
  cases change with
  | quiet light pipeline tasks nextNumber idle =>
      obtain rfl := Effect.answered?_of_isIdle (idle effect member) answered
      intro taken
      have taken : ∃ older, (machine.nextNumber, older) ∈ machine.tasks := by
        rcases tasks with same | stopped
        · exact ⟨task, same ▸ taken⟩
        · rw [stopped] at taken
          obtain ⟨⟨_, older⟩, olderMember, equal⟩ := List.mem_map.mp taken
          obtain ⟨rfl, _⟩ := Prod.mk.inj equal
          exact ⟨older, olderMember⟩
      obtain ⟨older, olderMember⟩ := taken
      exact Nat.lt_irrefl _ (sound.numbered.number_lt _ olderMember)
  | save => cases member
  | launch =>
      obtain rfl := List.mem_singleton.mp member
      cases answered
  | fetch =>
      obtain rfl := List.mem_singleton.mp member
      cases answered
  | land other purpose write reply running stopped pipeline tasks nextNumber =>
      rcases List.mem_cons.mp member with rfl | answer
      · cases answered
      · obtain rfl := answered?_of_mem_answers answer answered
        exact tasks ▸ machine.not_mem_dropTask number task
  | refuse other resolution failure waiting pipeline tasks nextNumber =>
      obtain rfl := List.mem_singleton.mp member
      obtain rfl := Option.some.inj answered
      exact tasks ▸ machine.not_mem_dropTask other task
  | adopt other resolution latest waiting lost pipeline tasks nextNumber =>
      obtain rfl := List.mem_singleton.mp member
      obtain rfl := Option.some.inj answered
      exact tasks ▸ machine.not_mem_dropTask other task
  | resubmit =>
      obtain rfl := List.mem_singleton.mp member
      cases answered
  | forgo => cases member
  | abandon => cases member

/-- How a resolution comes to be answered by a change. -/
inductive Answered (machine : Machine) (move : Move) (effects : List Effect) (number : Nat) :
    FetchReply → Prop
  /-- There is no conflict to resolve. -/
  | atOnce
      (number_eq : number = machine.nextNumber) :
      Answered machine move effects number (.error .noConflict)
  /-- The document of the store comes, or does not come. -/
  | came {resolution : Resolution} {reply : FetchReply}
      (waiting : (number, .fetching resolution) ∈ machine.tasks)
      (move_eq : move = .occurrence (.fetchReply number reply))
      (effects_eq : effects = [.resolved number reply]) :
      Answered machine move effects number reply
  /-- The write over the document of the store is answered. -/
  | written {latest : Document} {write : Write} {event : Event}
      (running : (number, .writing (.resubmit latest) write) ∈ machine.tasks)
      (effects_eq : effects = [.announced event, .resolved number (.ok latest)]) :
      Answered machine move effects number (.ok latest)

theorem Change.answered_of_resolved
    (change : Change machine move next effects)
    {number : Nat}
    {reply : FetchReply}
    (resolved : .resolved number reply ∈ effects) :
    Answered machine move effects number reply := by
  cases change with
  | quiet light pipeline tasks nextNumber idle =>
      obtain ⟨numberEq, rfl⟩ := Effect.eq_of_isIdle_resolved (idle _ resolved)
      exact .atOnce numberEq
  | save => cases resolved
  | launch => cases List.mem_singleton.mp resolved
  | fetch => cases List.mem_singleton.mp resolved
  | land other purpose write written running stopped pipeline tasks nextNumber =>
      rcases List.mem_cons.mp resolved with announced | answer
      · cases announced
      · cases purpose with
        | resubmit document =>
            obtain ⟨rfl, rfl⟩ := Effect.resolved.inj (List.mem_singleton.mp answer)
            exact .written (mem_of_task? running) rfl
        | flush => cases List.mem_singleton.mp answer
        | debounce | interval | stopped => cases answer
  | refuse other resolution failure waiting =>
      obtain ⟨rfl, rfl⟩ := Effect.resolved.inj (List.mem_singleton.mp resolved)
      exact .came (mem_of_task? waiting) rfl rfl
  | adopt other resolution document waiting =>
      obtain ⟨rfl, rfl⟩ := Effect.resolved.inj (List.mem_singleton.mp resolved)
      exact .came (mem_of_task? waiting) rfl rfl
  | resubmit => cases List.mem_singleton.mp resolved
  | forgo => cases resolved
  | abandon => cases resolved

/-- A resolution is answered with a document when the document comes or when the write over it is
answered. -/
theorem Change.task_of_resolved
    (change : Change machine move next effects)
    {number : Nat}
    {latest : Document}
    (resolved : .resolved number (.ok latest) ∈ effects) :
    (∃ resolution, (number, .fetching resolution) ∈ machine.tasks ∧
      move = .occurrence (.fetchReply number (.ok latest))) ∨
    ∃ write, (number, .writing (.resubmit latest) write) ∈ machine.tasks := by
  cases change.answered_of_resolved resolved with
  | came waiting move_eq => exact .inl ⟨_, waiting, move_eq⟩
  | written running => exact .inr ⟨_, running⟩

/-- A document that is to be loaded leaves nothing to write, and so the resolution is answered
at once. -/
theorem Change.effects_of_reload
    {number : Nat}
    {latest : Document}
    (change : Change machine (.occurrence (.fetchReply number (.ok latest))) next effects)
    (waiting : machine.task? number = some (.fetching .reload)) :
    effects = [.resolved number (.ok latest)] := by
  cases change with
  | quiet light => cases light
  | launch purpose ready write light => cases light
  | adopt => rfl
  | resubmit number resolution latest write otherWaiting found =>
      obtain rfl := Task.fetching.inj (Option.some.inj (waiting.symm.trans otherWaiting))
      cases (Pipeline.nextWrite?_eq_some found).2.2.1

/-- What is buffered after a move. -/
def pendingAfter (machine : Machine) : Move → Option String
  | .request (.save content) => some content
  | .occurrence (.updateReply number (.saved _)) =>
      match machine.task? number with
      | some (.writing _ write) =>
          if machine.pipeline.pending = some write.content then none else machine.pipeline.pending
      | _ => machine.pipeline.pending
  | .occurrence (.fetchReply number (.ok _)) =>
      if machine.task? number = some (.fetching .reload) then none else machine.pipeline.pending
  | _ => machine.pipeline.pending

/-- A move that neither brings a content nor a version leaves the buffer alone. -/
theorem pendingAfter_of_light
    (light : move.isWeighty = false) :
    machine.pendingAfter move = machine.pipeline.pending := by
  cases move with
  | request request => cases request <;> first | rfl | cases light
  | occurrence occurrence => cases occurrence <;> first | rfl | cases light

theorem Change.pending_eq
    (change : Change machine move next effects) :
    next.pipeline.pending = machine.pendingAfter move := by
  cases change with
  | quiet light pipeline tasks nextNumber idle =>
      rw [pendingAfter_of_light light, pipeline.pending_eq]
  | save content due pipeline tasks nextNumber => simp [pipeline, pendingAfter]
  | launch purpose ready write light quieted found pipeline tasks nextNumber =>
      rw [pendingAfter_of_light light, pipeline, Pipeline.launch_pending, quieted.pending_eq]
  | fetch resolution phase pipeline tasks nextNumber =>
      rw [pipeline]
      rfl
  | land number purpose write reply running stopped pipeline tasks nextNumber =>
      rw [pipeline]
      cases reply with
      | saved version =>
          simp only [pendingAfter, running]
          rfl
      | conflict => rfl
      | failed failure => rfl
  | refuse number resolution failure waiting pipeline tasks nextNumber =>
      rw [pipeline]
      rfl
  | adopt number resolution latest waiting lost pipeline tasks nextNumber =>
      rw [pipeline]
      cases resolution <;> simp [pendingAfter, waiting]
  | resubmit number resolution latest write waiting found pipeline tasks nextNumber =>
      rw [pipeline]
      cases resolution <;> simp [pendingAfter, waiting]
  | forgo number resolution waiting pipeline tasks nextNumber =>
      rw [pipeline]
      rfl
  | abandon number purpose write running pipeline tasks nextNumber =>
      rw [pipeline, Pipeline.abandon_pending]
      rfl

theorem request_pending
    (machine : Machine)
    (request : Request) :
    (machine.request request).1.pipeline.pending = machine.pendingAfter (.request request) := by
  have change : Change machine (.request request) (machine.requestHeld request).1
      (machine.requestHeld request).2 := change_of_requestHeld rfl
  exact (retire_pending _).trans change.pending_eq

/-- While a write is in flight, a content is buffered. -/
def Buffers (machine : Machine) : Prop :=
  machine.pipeline.inFlight = true → machine.pipeline.pending.isSome = true

theorem Buffers.retire
    (buffers : machine.Buffers) :
    machine.retire.Buffers := by
  intro inFlight
  rw [retire_inFlight] at inFlight
  rw [retire_pending]
  exact buffers inFlight

/-- A change keeps a content buffered while a write is in flight, unless a document is loaded
then. -/
theorem Buffers.change
    (buffers : machine.Buffers)
    (change : Change machine move next effects)
    (landed : ∀ number, (number, .fetching .reload) ∈ machine.tasks →
      machine.pipeline.inFlight = false) :
    next.Buffers := by
  intro inFlight
  cases change with
  | quiet light pipeline tasks nextNumber idle =>
      rw [pipeline.pending_eq]
      exact buffers (pipeline.inFlight_eq ▸ inFlight)
  | save content due pipeline tasks nextNumber => simp [pipeline]
  | launch purpose ready write light quieted found pipeline tasks nextNumber =>
      simp [pipeline, (Pipeline.nextWrite?_eq_some found).2.2.1]
  | fetch resolution phase pipeline tasks nextNumber =>
      rw [pipeline] at inFlight ⊢
      exact buffers inFlight
  | land number purpose write reply running stopped pipeline tasks nextNumber =>
      simp [pipeline] at inFlight
  | refuse number resolution failure waiting pipeline tasks nextNumber =>
      rw [pipeline] at inFlight ⊢
      exact buffers inFlight
  | adopt number resolution latest waiting lost pipeline tasks nextNumber =>
      rw [pipeline, Pipeline.adopt_inFlight] at inFlight
      cases resolution with
      | reload => simp [landed number (mem_of_task? waiting)] at inFlight
      | overwrite =>
          rw [pipeline, Pipeline.adopt_overwrite_pending]
          exact buffers inFlight
  | resubmit number resolution latest write waiting found pipeline tasks nextNumber =>
      simp [pipeline, (Pipeline.nextWrite?_eq_some found).2.2.1]
  | forgo number resolution waiting pipeline tasks nextNumber =>
      rw [pipeline] at inFlight ⊢
      exact buffers inFlight
  | abandon number purpose write running pipeline tasks nextNumber =>
      simp [pipeline] at inFlight

end Machine
end Autosave
end TwinEditor
