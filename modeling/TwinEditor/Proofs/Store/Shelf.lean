import TwinEditor.Store.Shelf

/-!
# What a shelf holds after a write

A write that is accepted, or made without looking at the version, changes one document, and that
document keeps its identifier and its project. So a project keeps its document for good once it
has one.
-/

namespace TwinEditor
namespace Store
namespace Shelf

variable {shelf : Shelf} {document : Document} {id project : Uuid}

/-- The identifier of the document of a project. -/
def home? (shelf : Shelf) (project : Uuid) : Option Uuid :=
  (shelf.documents.find? (·.project == project)).map (·.id)

@[simp] theorem revise_id (document : Document) (content : String) :
    (revise document content).id = document.id := rfl

@[simp] theorem revise_project (document : Document) (content : String) :
    (revise document content).project = document.project := rfl

@[simp] theorem revise_version (document : Document) (content : String) :
    (revise document content).version = document.version + 1 := rfl

theorem id_eq_of_get?
    (found : shelf.get? id = some document) :
    document.id = id := by
  simpa using List.find?_some found

/-- A shelf on which every identifier is used once. -/
def Distinct (shelf : Shelf) : Prop :=
  (shelf.documents.map (·.id)).Nodup

/-- On a shelf with distinct identifiers a document is found by its own. -/
theorem Distinct.get?_eq_some
    (distinct : shelf.Distinct)
    (member : document ∈ shelf.documents) :
    shelf.get? document.id = some document := by
  obtain ⟨documents⟩ := shelf
  induction documents with
  | nil => cases member
  | cons head tail inductionHypothesis =>
      obtain ⟨fresh, distinctTail⟩ := List.nodup_cons.mp distinct
      rcases List.mem_cons.mp member with rfl | inTail
      · simp [get?]
      · have differs : head.id ≠ document.id := fun equal =>
          fresh (List.mem_map.mpr ⟨document, inTail, equal.symm⟩)
        have rest : get? ⟨tail⟩ document.id = some document :=
          inductionHypothesis distinctTail inTail
        simpa [get?, differs] using rest

/-! ## A new document -/

theorem get?_create (shelf : Shelf) (newId newProject : Uuid) (content : String) (id : Uuid) :
    (shelf.create newId newProject content).1.get? id =
      (shelf.get? id).or (if newId = id then some ⟨newId, newProject, content, 1⟩ else none) := by
  simp only [create, get?, List.find?_append, List.find?_singleton, beq_iff_eq]

theorem home?_create (shelf : Shelf) (newId newProject : Uuid) (content : String) (project : Uuid) :
    (shelf.create newId newProject content).1.home? project =
      (shelf.home? project).or (if newProject = project then some newId else none) := by
  simp only [create, home?, List.find?_append, List.find?_singleton, beq_iff_eq]
  cases shelf.documents.find? (·.project == project) with
  | none =>
      simp only [Option.none_or, Option.map_none]
      split <;> rfl
  | some document => rfl

theorem Distinct.create
    (distinct : shelf.Distinct)
    (fresh : shelf.get? id = none)
    (content : String) :
    (shelf.create id project content).1.Distinct := by
  have unused : ∀ document ∈ shelf.documents, document.id ≠ id := by
    simpa [get?] using fresh
  simp only [Distinct, Shelf.create, List.map_append, List.map_cons, List.map_nil]
  rw [List.nodup_append]
  refine ⟨distinct, by simp, fun used member new isNew equal => ?_⟩
  obtain ⟨document, inside, rfl⟩ := List.mem_map.mp member
  exact unused document inside (equal.trans (List.mem_singleton.mp isNew))

/-! ## A new version of a document -/

theorem get?_replace (shelf : Shelf) (document : Document) (id : Uuid) :
    (shelf.replace document).get? id =
      (shelf.get? id).map fun other => if other.id = document.id then document else other := by
  have keepsId : (fun other : Document =>
      (if other.id = document.id then document else other).id == id) = (·.id == id) := by
    funext other
    split
    case isTrue same => rw [same]
    case isFalse => rfl
  simp only [get?, replace, List.find?_map, Function.comp_def, beq_iff_eq, keepsId]

/-- A new version of a document is found in its place. -/
theorem get?_replace_revise
    (found : shelf.get? id = some document)
    (content : String)
    (other : Uuid) :
    (shelf.replace (revise document content)).get? other =
      if other = id then some (revise document content) else shelf.get? other := by
  have idEq := id_eq_of_get? found
  rw [get?_replace, revise_id]
  split
  case isTrue same =>
    rw [same, found]
    simp
  case isFalse differs =>
    cases otherFound : shelf.get? other with
    | none => rfl
    | some otherDocument =>
        have otherIdEq := id_eq_of_get? otherFound
        have apart : otherDocument.id ≠ document.id := by
          rw [otherIdEq, idEq]
          exact differs
        simp [apart]

/-- A change of documents that keeps their identifiers and projects leaves every project its
document. -/
theorem home?_map
    {documents : List Document}
    {change : Document → Document}
    (keeps : ∀ other ∈ documents,
      (change other).project = other.project ∧ (change other).id = other.id)
    (project : Uuid) :
    home? ⟨documents.map change⟩ project = home? ⟨documents⟩ project := by
  unfold home?
  induction documents with
  | nil => rfl
  | cons head tail inductionHypothesis =>
      obtain ⟨projectEq, idEq⟩ := keeps head List.mem_cons_self
      have rest := inductionHypothesis fun other inTail =>
        keeps other (List.mem_cons_of_mem _ inTail)
      simp only [List.map_cons, List.find?_cons, projectEq]
      split
      · exact congrArg some idEq
      · exact rest

/-- A new version of a document leaves every project its document. -/
theorem Distinct.home?_replace_revise
    (distinct : shelf.Distinct)
    (found : shelf.get? id = some document)
    (content : String)
    (project : Uuid) :
    (shelf.replace (revise document content)).home? project = shelf.home? project := by
  refine home?_map (fun other member => ?_) project
  split
  case isTrue same =>
    have equal : other.id = document.id := by simpa using same
    have otherFound := distinct.get?_eq_some member
    rw [equal, id_eq_of_get? found, found] at otherFound
    obtain rfl := Option.some.inj otherFound
    exact ⟨rfl, rfl⟩
  case isFalse => exact ⟨rfl, rfl⟩

theorem Distinct.replace
    (distinct : shelf.Distinct)
    (document : Document) :
    (shelf.replace document).Distinct := by
  have keepsIds : (shelf.replace document).documents.map (·.id) =
      shelf.documents.map (·.id) := by
    rw [Shelf.replace, List.map_map]
    apply List.map_congr_left
    intro other _
    simp only [Function.comp_apply, beq_iff_eq]
    split
    case isTrue same => exact same.symm
    case isFalse => rfl
  rw [Distinct, keepsIds]
  exact distinct

/-! ## Writing under a version -/

/-- A write is accepted exactly under the current version, and then makes the next one. -/
theorem update_eq_of_current
    (found : shelf.get? id = some document)
    (content : String) :
    shelf.update id content document.version =
      (shelf.replace (revise document content), .saved (document.version + 1)) := by
  simp [update, found]

/-- A write that is not accepted changes nothing. -/
theorem update_eq_of_refused
    {version : Int}
    (stale : ∀ document, shelf.get? id = some document → document.version ≠ version)
    (content : String) :
    ∃ reply, shelf.update id content version = (shelf, reply) ∧
      ∀ newVersion, reply ≠ .saved newVersion := by
  unfold update
  split
  · exact ⟨_, rfl, nofun⟩
  case h_2 document found =>
    rw [if_neg (stale document found)]
    exact ⟨_, rfl, nofun⟩

/-- The document that is fetched for a project is the one that the project keeps. -/
theorem home?_of_fetch
    (fetched : shelf.fetch project = .ok document) :
    shelf.home? project = some document.id ∧ document ∈ shelf.documents := by
  unfold fetch at fetched
  split at fetched
  · cases fetched
  case h_2 other found =>
    obtain rfl := Except.ok.inj fetched
    exact ⟨by rw [home?, found]; rfl, List.mem_of_find?_eq_some found⟩

end Shelf
end Store
end TwinEditor
