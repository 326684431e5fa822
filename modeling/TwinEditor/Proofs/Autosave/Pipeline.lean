import TwinEditor.Autosave.Pipeline

/-!
# What the steps of a pipeline change

Each step of a pipeline is described by what it does to the parts that others rely on: the
phase, the content that is buffered, the version, whether a write is in flight, and the debounce
timer.
-/

namespace TwinEditor
namespace Autosave
namespace Pipeline

open Store

section Steps

variable (pipeline : Pipeline)

@[simp] theorem buffer_pending (content : String) (due : Nat) :
    (pipeline.buffer content due).pending = some content := by
  unfold buffer
  split <;> rfl

@[simp] theorem buffer_inFlight (content : String) (due : Nat) :
    (pipeline.buffer content due).inFlight = pipeline.inFlight := by
  unfold buffer
  split <;> rfl

@[simp] theorem buffer_version (content : String) (due : Nat) :
    (pipeline.buffer content due).version = pipeline.version := by
  unfold buffer
  split <;> rfl

@[simp] theorem buffer_documentId (content : String) (due : Nat) :
    (pipeline.buffer content due).documentId = pipeline.documentId := by
  unfold buffer
  split <;> rfl

@[simp] theorem buffer_project (content : String) (due : Nat) :
    (pipeline.buffer content due).project = pipeline.project := by
  unfold buffer
  split <;> rfl

/-- During a conflict a content is buffered and nothing else happens. -/
theorem buffer_of_conflict
    {pipeline : Pipeline}
    (conflict : pipeline.phase = .conflict)
    (content : String)
    (due : Nat) :
    pipeline.buffer content due = { pipeline with pending := some content } := by
  rw [buffer, if_pos conflict]

theorem buffer_phase_eq_conflict_iff (content : String) (due : Nat) :
    (pipeline.buffer content due).phase = .conflict ↔ pipeline.phase = .conflict := by
  unfold buffer
  split
  case isTrue => rfl
  case isFalse calm =>
    cases inFlight : pipeline.inFlight <;> simp [calm]

@[simp] theorem launch_pending : pipeline.launch.pending = pipeline.pending := rfl

@[simp] theorem launch_inFlight : pipeline.launch.inFlight = true := rfl

@[simp] theorem launch_version : pipeline.launch.version = pipeline.version := rfl

@[simp] theorem launch_documentId : pipeline.launch.documentId = pipeline.documentId := rfl

@[simp] theorem launch_project : pipeline.launch.project = pipeline.project := rfl

@[simp] theorem launch_phase : pipeline.launch.phase = .saving := rfl

theorem settle_phase_ne_conflict : pipeline.settle.phase ≠ .conflict := by
  simp only [settle, restingPhase]
  split <;> simp

@[simp] theorem land_inFlight (content : String) (reply : UpdateReply) :
    (pipeline.land content reply).inFlight = false := by
  cases reply <;> rfl

@[simp] theorem land_documentId (content : String) (reply : UpdateReply) :
    (pipeline.land content reply).documentId = pipeline.documentId := by
  cases reply <;> rfl

@[simp] theorem land_project (content : String) (reply : UpdateReply) :
    (pipeline.land content reply).project = pipeline.project := by
  cases reply <;> rfl

/-- Of the answers to a write only a refused version makes a conflict. -/
theorem land_phase_eq_conflict_iff (content : String) (reply : UpdateReply) :
    (pipeline.land content reply).phase = .conflict ↔ reply = .conflict := by
  cases reply with
  | saved version => simp [land, settle_phase_ne_conflict]
  | conflict => simp [land]
  | failed failure => simp [land, settle_phase_ne_conflict]

/-- An answer brings nothing into the buffer. -/
theorem pending_of_land
    {pipeline : Pipeline}
    {content buffered : String}
    {reply : UpdateReply}
    (pending : (pipeline.land content reply).pending = some buffered) :
    pipeline.pending = some buffered := by
  cases reply with
  | saved version =>
      change (if pipeline.pending = some content then none else pipeline.pending) = _ at pending
      split at pending
      · cases pending
      · exact pending
  | conflict => exact pending
  | failed failure => exact pending

/-- A content that is accepted is not buffered any more. -/
theorem land_saved_pending_ne (content : String) (version : Int) :
    (pipeline.land content (.saved version)).pending ≠ some content := by
  change (if pipeline.pending = some content then none else pipeline.pending) ≠ _
  split
  case isTrue => nofun
  case isFalse replaced => exact replaced

@[simp] theorem land_conflict_debounce (content : String) :
    (pipeline.land content .conflict).debounce = none := rfl

@[simp] theorem abandon_inFlight : pipeline.abandon.inFlight = false := by
  unfold abandon
  dsimp only
  split <;> rfl

@[simp] theorem abandon_pending : pipeline.abandon.pending = pipeline.pending := by
  unfold abandon
  dsimp only
  split <;> rfl

@[simp] theorem abandon_version : pipeline.abandon.version = pipeline.version := by
  unfold abandon
  dsimp only
  split <;> rfl

@[simp] theorem abandon_documentId : pipeline.abandon.documentId = pipeline.documentId := by
  unfold abandon
  dsimp only
  split <;> rfl

@[simp] theorem abandon_project : pipeline.abandon.project = pipeline.project := by
  unfold abandon
  dsimp only
  split <;> rfl

theorem abandon_debounce : pipeline.abandon.debounce = pipeline.debounce := by
  unfold abandon
  dsimp only
  split <;> rfl

theorem abandon_phase_eq_conflict_iff :
    pipeline.abandon.phase = .conflict ↔ pipeline.phase = .conflict := by
  unfold abandon
  dsimp only
  split
  case isTrue saving => simp [saving, settle_phase_ne_conflict]
  case isFalse => rfl

@[simp] theorem adopt_inFlight (resolution : Resolution) (latest : Document) :
    (pipeline.adopt resolution latest).inFlight = pipeline.inFlight := rfl

@[simp] theorem adopt_version (resolution : Resolution) (latest : Document) :
    (pipeline.adopt resolution latest).version = latest.version := rfl

@[simp] theorem adopt_documentId (resolution : Resolution) (latest : Document) :
    (pipeline.adopt resolution latest).documentId = latest.id := rfl

@[simp] theorem adopt_project (resolution : Resolution) (latest : Document) :
    (pipeline.adopt resolution latest).project = pipeline.project := rfl

@[simp] theorem adopt_phase (resolution : Resolution) (latest : Document) :
    (pipeline.adopt resolution latest).phase = .idle := rfl

@[simp] theorem adopt_reload_pending (latest : Document) :
    (pipeline.adopt .reload latest).pending = none := rfl

@[simp] theorem adopt_overwrite_pending (latest : Document) :
    (pipeline.adopt .overwrite latest).pending = pipeline.pending := rfl

end Steps

/-- A pipeline differs from an earlier one in its timers only. With the debounce timer goes the
phase that waits for it. -/
structure Quieted (before after : Pipeline) : Prop where
  documentId_eq : after.documentId = before.documentId
  project_eq : after.project = before.project
  version_eq : after.version = before.version
  pending_eq : after.pending = before.pending
  inFlight_eq : after.inFlight = before.inFlight
  everSaved_eq : after.everSaved = before.everSaved
  lastError_eq : after.lastError = before.lastError
  debounce_phase : after.debounce = before.debounce ∧ after.phase = before.phase ∨
    after.debounce = none ∧ after.phase = before.leaveDebounce.phase

namespace Quieted

variable {before after : Pipeline}

theorem refl (pipeline : Pipeline) : pipeline.Quieted pipeline :=
  ⟨rfl, rfl, rfl, rfl, rfl, rfl, rfl, .inl ⟨rfl, rfl⟩⟩

theorem setInterval (pipeline : Pipeline) (interval : Option Nat) :
    pipeline.Quieted { pipeline with interval } :=
  ⟨rfl, rfl, rfl, rfl, rfl, rfl, rfl, .inl ⟨rfl, rfl⟩⟩

theorem disarm_leaveDebounce (pipeline : Pipeline) :
    pipeline.Quieted pipeline.disarm.leaveDebounce :=
  ⟨rfl, rfl, rfl, rfl, rfl, rfl, rfl, .inr ⟨rfl, rfl⟩⟩

theorem stopTimers (pipeline : Pipeline) : pipeline.Quieted pipeline.stopTimers :=
  ⟨rfl, rfl, rfl, rfl, rfl, rfl, rfl, .inr ⟨rfl, rfl⟩⟩

theorem phase_eq_conflict_iff
    (quieted : before.Quieted after) :
    after.phase = .conflict ↔ before.phase = .conflict := by
  rcases quieted.debounce_phase with ⟨_, same⟩ | ⟨_, left⟩
  · rw [same]
  · rw [left, leaveDebounce]
    cases before.phase <;> simp

theorem debounce_eq_none
    (quieted : before.Quieted after)
    (unarmed : before.debounce = none) :
    after.debounce = none := by
  rcases quieted.debounce_phase with ⟨same, _⟩ | ⟨gone, _⟩
  · rw [same, unarmed]
  · exact gone

end Quieted

/-- A write begins only when there is no conflict and no other write in flight, and it presents
what the pipeline holds. -/
theorem nextWrite?_eq_some
    {pipeline : Pipeline}
    {write : Write}
    (found : pipeline.nextWrite? = some write) :
    pipeline.phase ≠ .conflict ∧ pipeline.inFlight = false ∧
      pipeline.pending = some write.content ∧ write.documentId = pipeline.documentId ∧
      write.version = pipeline.version := by
  unfold nextWrite? isFree at found
  split at found
  case isTrue free =>
    simp only [Bool.and_eq_true, bne_iff_ne, Bool.not_eq_true'] at free
    obtain ⟨content, pending, rfl⟩ := Option.map_eq_some_iff.mp found
    exact ⟨free.1, free.2, pending, rfl, rfl⟩
  case isFalse => cases found

end Pipeline
end Autosave
end TwinEditor
