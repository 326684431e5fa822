import TwinEditor.Autosave.Pipeline
import TwinEditor.Store.Document

/-!
# The journal of a store

A journal lists, the latest first, what became of the documents of a store, and which versions
its clients have got to know. In a regular journal a write that was accepted presents the
version stored last, a version that its client knew. It follows that the client got to know that
version after it had been stored, and that nothing was written in between.
-/

namespace TwinEditor
namespace Store

open Autosave (Write)

/-- What a journal records. -/
inductive Entry
  | created (document : Document)
  /-- Somebody wrote without looking at the version. -/
  | overwritten (document : Document)
  /-- A write of a client was accepted, and this document was stored. -/
  | accepted (client : Nat) (write : Write) (document : Document)
  | refused (client : Nat) (write : Write)
  /-- A client got to know a version of a document. -/
  | observed (client : Nat) (id : Uuid) (version : Int)

namespace Entry

/-- The document that was stored. -/
def document? : Entry → Option Document
  | .created document => some document
  | .overwritten document => some document
  | .accepted _ _ document => some document
  | .refused .. => none
  | .observed .. => none

/-- Whether a new version of the document with an identifier was stored. -/
def revises (id : Uuid) : Entry → Bool
  | .overwritten document => document.id == id
  | .accepted _ _ document => document.id == id
  | _ => false

/-- Whether the document with an identifier was stored. -/
def stores (id : Uuid) (entry : Entry) : Bool :=
  entry.document?.any (·.id == id)

theorem stores_iff
    {entry : Entry}
    {id : Uuid} :
    entry.stores id = true ↔ ∃ document, entry.document? = some document ∧ document.id = id := by
  simp [stores, Option.any_eq_true]

/-- An entry that does not store a document makes no new version of it. -/
theorem revises_eq_false
    {entry : Entry}
    {id : Uuid}
    (other : entry.stores id = false) :
    entry.revises id = false := by
  cases entry <;> first | exact other | rfl

end Entry

namespace Journal

/-- The document with an identifier as it was stored last. -/
def latest? (journal : List Entry) (id : Uuid) : Option Document :=
  (journal.filterMap Entry.document?).find? (·.id == id)

/-- Whether a document was stored in a version at any time. -/
def Stored (journal : List Entry) (id : Uuid) (version : Int) : Prop :=
  ∃ entry ∈ journal, ∃ document, entry.document? = some document ∧ document.id = id ∧
    document.version = version

/-- The journals that a store and its clients can have. -/
inductive Regular : List Entry → Prop
  | nil : Regular []
  | created {document : Document} {earlier : List Entry}
      (regular : Regular earlier)
      (fresh : latest? earlier document.id = none)
      (version_eq : document.version = 1) :
      Regular (.created document :: earlier)
  | overwritten {document prior : Document} {earlier : List Entry}
      (regular : Regular earlier)
      (found : latest? earlier document.id = some prior)
      (version_eq : document.version = prior.version + 1) :
      Regular (.overwritten document :: earlier)
  | accepted {client : Nat} {write : Write} {document prior : Document} {earlier : List Entry}
      (regular : Regular earlier)
      (found : latest? earlier document.id = some prior)
      (version_eq : document.version = prior.version + 1)
      (id_eq : document.id = write.documentId)
      (current : prior.version = write.version)
      (known : .observed client write.documentId write.version ∈ earlier) :
      Regular (.accepted client write document :: earlier)
  | refused {client : Nat} {write : Write} {earlier : List Entry}
      (regular : Regular earlier) :
      Regular (.refused client write :: earlier)
  | observed {client : Nat} {id : Uuid} {version : Int} {earlier : List Entry}
      (regular : Regular earlier)
      (stored : Stored earlier id version) :
      Regular (.observed client id version :: earlier)

variable {journal earlier : List Entry} {entry : Entry} {document : Document} {id : Uuid}
  {version : Int}

theorem Stored.cons
    (stored : Stored earlier id version)
    (entry : Entry) :
    Stored (entry :: earlier) id version := by
  obtain ⟨older, member, found⟩ := stored
  exact ⟨older, List.mem_cons_of_mem _ member, found⟩

theorem id_eq_of_latest?
    (found : latest? journal id = some document) :
    document.id = id := by
  simpa using List.find?_some found

theorem mem_of_latest?
    (found : latest? journal id = some document) :
    document ∈ journal.filterMap Entry.document? :=
  List.mem_of_find?_eq_some found

theorem latest?_cons_of_stores
    (found : entry.document? = some document)
    (journal : List Entry) :
    latest? (entry :: journal) document.id = some document := by
  simp [latest?, found]

theorem latest?_cons_of_not_stores
    (other : entry.stores id = false)
    (journal : List Entry) :
    latest? (entry :: journal) id = latest? journal id := by
  unfold latest?
  cases found : entry.document? with
  | none => rw [List.filterMap_cons_none found]
  | some document =>
      rw [List.filterMap_cons_some found, List.find?_cons]
      simp only [Entry.stores, found, Option.any_some] at other
      rw [other]

/-- The document stored last was stored by some entry, and by none after it. -/
theorem exists_split_of_latest?
    (found : latest? journal id = some document) :
    ∃ between stored before, journal = between ++ stored :: before ∧
      stored.document? = some document ∧ ∀ entry ∈ between, entry.stores id = false := by
  induction journal with
  | nil => cases found
  | cons entry earlier inductionHypothesis =>
      cases stores : entry.stores id with
      | false =>
          rw [latest?_cons_of_not_stores stores] at found
          obtain ⟨between, stored, before, rfl, isStored, none⟩ := inductionHypothesis found
          refine ⟨entry :: between, stored, before, rfl, isStored, fun other member => ?_⟩
          rcases List.mem_cons.mp member with rfl | later
          · exact stores
          · exact none other later
      | true =>
          obtain ⟨last, isLast, rfl⟩ := Entry.stores_iff.mp stores
          obtain rfl : last = document :=
            Option.some.inj ((latest?_cons_of_stores isLast earlier).symm.trans found)
          exact ⟨[], entry, earlier, rfl, isLast, nofun⟩

theorem stored_of_latest?
    (found : latest? journal id = some document) :
    Stored journal id document.version := by
  obtain ⟨between, stored, before, rfl, isStored, _⟩ := exists_split_of_latest? found
  exact ⟨stored, List.mem_append_right _ List.mem_cons_self, document, isStored,
    id_eq_of_latest? found, rfl⟩

/-- A document that was never stored was stored by no entry. -/
theorem stores_eq_false_of_latest?
    (fresh : latest? journal id = none) :
    ∀ entry ∈ journal, entry.stores id = false := by
  intro entry member
  apply Bool.eq_false_iff.mpr
  intro stores
  obtain ⟨document, found, equal⟩ := Entry.stores_iff.mp stores
  have none := List.find?_eq_none.mp fresh document (List.mem_filterMap.mpr ⟨entry, member, found⟩)
  exact none (by simpa using equal)

theorem not_stored_of_latest?
    (fresh : latest? journal id = none)
    (version : Int) :
    ¬ Stored journal id version := by
  intro stored
  obtain ⟨entry, member, document, found, equal, _⟩ := stored
  have stores := Entry.stores_iff.mpr ⟨document, found, equal⟩
  rw [stores_eq_false_of_latest? fresh entry member] at stores
  cases stores

/-- A later journal is regular only if every earlier one is. -/
theorem Regular.tail (regular : Regular (entry :: earlier)) : Regular earlier := by
  cases regular <;> assumption

theorem Regular.of_append
    {later : List Entry}
    (regular : Regular (later ++ earlier)) :
    Regular earlier := by
  induction later with
  | nil => exact regular
  | cons entry later inductionHypothesis => exact inductionHypothesis regular.tail

/-- A document is stored either for the first time, in version one, or in the version after the
one that was stored last. -/
theorem Regular.version_of_stored
    (regular : Regular (entry :: earlier))
    (stored : entry.document? = some document) :
    (latest? earlier document.id = none ∧ document.version = 1 ∧
        entry.revises document.id = false) ∨
      ∃ prior, latest? earlier document.id = some prior ∧
        document.version = prior.version + 1 ∧ entry.revises document.id = true := by
  cases regular with
  | created regular fresh version_eq =>
      obtain rfl := Option.some.inj stored
      exact .inl ⟨fresh, version_eq, rfl⟩
  | overwritten regular found version_eq =>
      obtain rfl := Option.some.inj stored
      exact .inr ⟨_, found, version_eq, beq_self_eq_true _⟩
  | accepted regular found version_eq =>
      obtain rfl := Option.some.inj stored
      exact .inr ⟨_, found, version_eq, beq_self_eq_true _⟩
  | refused => cases stored
  | observed => cases stored

/-- The version stored last is one more than the number of new versions. -/
theorem Regular.version_eq
    (regular : Regular journal)
    (found : latest? journal id = some document) :
    document.version = 1 + journal.countP (Entry.revises id) := by
  induction journal generalizing document with
  | nil => cases found
  | cons entry earlier inductionHypothesis =>
      cases stores : entry.stores id with
      | false =>
          rw [latest?_cons_of_not_stores stores] at found
          rw [List.countP_cons_of_neg (by simp [Entry.revises_eq_false stores])]
          exact inductionHypothesis regular.tail found
      | true =>
          obtain ⟨last, isLast, rfl⟩ := Entry.stores_iff.mp stores
          obtain rfl : last = document :=
            Option.some.inj ((latest?_cons_of_stores isLast earlier).symm.trans found)
          rcases regular.version_of_stored isLast with
            ⟨fresh, versionEq, revisesNot⟩ | ⟨prior, priorFound, versionEq, revises⟩
          · rw [List.countP_cons_of_neg (by simp [revisesNot]), versionEq]
            have none : earlier.countP (Entry.revises last.id) = 0 := by
              apply List.countP_eq_zero.mpr
              intro older member
              simp [Entry.revises_eq_false (stores_eq_false_of_latest? fresh older member)]
            rw [none]
            rfl
          · rw [List.countP_cons_of_pos revises, versionEq,
              inductionHypothesis regular.tail priorFound]
            omega

/-- No version was ever stored that is higher than the one stored last. -/
theorem Regular.version_le
    (regular : Regular journal)
    (found : latest? journal id = some document)
    (stored : Stored journal id version) :
    version ≤ document.version := by
  induction journal generalizing document with
  | nil => cases found
  | cons entry earlier inductionHypothesis =>
      obtain ⟨older, member, olderDocument, isOlder, olderId, rfl⟩ := stored
      cases stores : entry.stores id with
      | false =>
          rw [latest?_cons_of_not_stores stores] at found
          rcases List.mem_cons.mp member with rfl | inEarlier
          · exact absurd (Entry.stores_iff.mpr ⟨_, isOlder, olderId⟩) (by simp [stores])
          · exact inductionHypothesis regular.tail found
              ⟨older, inEarlier, olderDocument, isOlder, olderId, rfl⟩
      | true =>
          obtain ⟨last, isLast, rfl⟩ := Entry.stores_iff.mp stores
          obtain rfl : last = document :=
            Option.some.inj ((latest?_cons_of_stores isLast earlier).symm.trans found)
          rcases List.mem_cons.mp member with rfl | inEarlier
          · have same : olderDocument = last := Option.some.inj (isOlder.symm.trans isLast)
            exact Int.le_of_eq (congrArg Document.version same)
          · rcases regular.version_of_stored isLast with
              ⟨fresh, _, _⟩ | ⟨prior, priorFound, versionEq, _⟩
            · exact absurd ⟨older, inEarlier, olderDocument, isOlder, olderId, rfl⟩
                (not_stored_of_latest? fresh olderDocument.version)
            · have le := inductionHypothesis regular.tail priorFound
                ⟨older, inEarlier, olderDocument, isOlder, olderId, rfl⟩
              omega

/-- A version that a client got to know had been stored before. -/
theorem Regular.stored_of_observed
    {client : Nat}
    (regular : Regular journal)
    (known : .observed client id version ∈ journal) :
    Stored journal id version := by
  induction journal with
  | nil => cases known
  | cons entry earlier inductionHypothesis =>
      rcases List.mem_cons.mp known with rfl | inEarlier
      · cases regular with
        | observed regular stored => exact stored.cons _
      · exact (inductionHypothesis regular.tail inEarlier).cons entry

/-- A write that was accepted presents the version that was stored last before it, and its
client got to know that version after it had been stored. So nothing was written in between. -/
theorem Regular.split_of_accepted
    {later : List Entry}
    {client : Nat}
    {write : Write}
    (regular : Regular (later ++ .accepted client write document :: earlier)) :
    ∃ between stored before prior, earlier = between ++ stored :: before ∧
      stored.document? = some prior ∧ prior.id = write.documentId ∧
      prior.version = write.version ∧
      (∀ entry ∈ between, entry.stores write.documentId = false) ∧
      .observed client write.documentId write.version ∈ between := by
  cases regular.of_append with
  | @accepted _ _ _ prior _ regular found version_eq id_eq current known =>
      rw [id_eq] at found
      obtain ⟨between, stored, before, rfl, isStored, none⟩ := exists_split_of_latest? found
      have priorId := id_eq_of_latest? found
      refine ⟨between, stored, before, prior, rfl, isStored, priorId, current, none, ?_⟩
      have regularBefore : Regular (stored :: before) := regular.of_append
      rcases List.mem_append.mp known with inBetween | inRest
      · exact inBetween
      · -- Before that version was stored, nobody could get to know it.
        exfalso
        rcases List.mem_cons.mp inRest with rfl | inBefore
        · cases isStored
        · have storedBefore := regularBefore.tail.stored_of_observed inBefore
          rw [← priorId] at storedBefore
          rcases regularBefore.version_of_stored isStored with
            ⟨fresh, _, _⟩ | ⟨older, olderFound, versionEq, _⟩
          · exact not_stored_of_latest? fresh write.version storedBefore
          · have le := regularBefore.tail.version_le olderFound storedBefore
            omega

end Journal
end Store
end TwinEditor
