import TwinEditor.Proofs.Autosave.Calls
import TwinEditor.Proofs.Store.Journal
import TwinEditor.Proofs.Store.Shelf
import TwinEditor.Proofs.Turns

/-!
# A store with any number of clients

A network is a shelf with one document for each project, and machines that save documents of it.
A machine may be made from a document as it was stored at any time. Calls reach the shelf late,
answers reach the machines late, either may be lost, and anybody may write without looking at
the version. The journal records what was stored and what the machines have got to know; the
main statement is that it stays regular, so that no write of a machine is accepted over one that
the machine did not know of.
-/

namespace TwinEditor
namespace Store

open Autosave (Machine Config Write)

/-- What the answer to a call tells the machine that made it. -/
def observations (client : Nat) (machine : Machine) : Autosave.Occurrence → List Entry
  | .updateReply number (.saved version) =>
      match machine.task? number with
      | some (.writing _ write) => [.observed client write.documentId version]
      | _ => []
  | .fetchReply _ (.ok latest) => [.observed client latest.id latest.version]
  | _ => []

/-- A shelf with the machines that save its documents. -/
structure Network where
  shelf : Shelf
  clients : List Machine
  /-- The calls that have not reached the shelf yet, with the clients that made them. -/
  calls : List (Nat × Autosave.Effect)
  /-- The answers that have not reached their clients yet. -/
  answers : List (Nat × Autosave.Occurrence)
  journal : List Entry

namespace Network

/-- What may come next in a network. -/
inductive Turn
  /-- A project gets its document. -/
  | create (id project : Uuid) (content : String)
  /-- Somebody writes without looking at the version. -/
  | overwrite (id : Uuid) (content : String)
  /-- A machine is made from a document as it was stored at some time. -/
  | join (config : Config) (document : Document)
  /-- A move of a client, or an answer that brings no version. -/
  | move (client : Nat) (move : Autosave.Move)
  /-- A call reaches the shelf. -/
  | serve (index : Nat)
  /-- An answer reaches its client. -/
  | deliver (index : Nat)

/-- The network without documents and clients. -/
def empty : Network :=
  ⟨.empty, [], [], [], []⟩

/-- Go on with a client after a step of it. -/
def proceed (network : Network) (client : Nat) (machine : Machine)
    (effects : List Autosave.Effect) : Network :=
  { network with
    clients := network.clients.set client machine
    calls := (effects.filter Autosave.Effect.isCall).map (client, ·) ++ network.calls }

/-- The entry that records what became of a write, given the document that is stored after it. -/
def entryOf (client : Nat) (write : Write) : UpdateReply → Option Document → Entry
  | .saved _, some document => .accepted client write document
  | _, _ => .refused client write

/-- What a call does when it reaches the shelf. -/
def serve? (network : Network) (client : Nat) : Autosave.Effect → Option Network
  | .updateCalled number write =>
      let (shelf, reply) := network.shelf.update write.documentId write.content write.version
      some { network with
        shelf
        answers := (client, .updateReply number reply) :: network.answers
        journal := entryOf client write reply (shelf.get? write.documentId) :: network.journal }
  | .fetchCalled number project =>
      some { network with
        answers := (client, .fetchReply number (network.shelf.fetch project)) :: network.answers }
  | _ => none

/-- What a turn does, if it is possible now. -/
def turn? (network : Network) : Turn → Option Network
  | .create id project content =>
      if network.shelf.get? id = none ∧ network.shelf.home? project = none then
        let (shelf, document) := network.shelf.create id project content
        some { network with shelf, journal := .created document :: network.journal }
      else none
  | .overwrite id content =>
      match network.shelf.overwrite id content with
      | .ok (shelf, document) =>
          some { network with shelf, journal := .overwritten document :: network.journal }
      | .error _ => none
  | .join config document =>
      if document ∈ network.journal.filterMap Entry.document? then
        some { network with
          clients := network.clients ++ [.ofDocument config document]
          journal :=
            .observed network.clients.length document.id document.version :: network.journal }
      else none
  | .move client move =>
      if move.isGrant then none
      else do
        let machine ← network.clients[client]?
        let (next, effects) ← machine.move? move
        return network.proceed client next effects
  | .serve index => do
      let (client, call) ← network.calls[index]?
      { network with calls := network.calls.eraseIdx index }.serve? client call
  | .deliver index => do
      let (client, answer) ← network.answers[index]?
      let machine ← network.clients[client]?
      let (next, effects) ← machine.move? (.occurrence answer)
      return { network.proceed client next effects with
        answers := network.answers.eraseIdx index
        journal := observations client machine answer ++ network.journal }

/-- Take turns one after another. -/
def follow (network : Network) (turns : List Turn) : Network :=
  takeTurns turn? network turns

/-- The network after some turns. -/
def after (turns : List Turn) : Network :=
  empty.follow turns

open Journal (Stored Regular latest?)

/-- What is known of a call of a client that has not reached the shelf yet. -/
def Pending (journal : List Entry) (client : Nat) (machine : Machine) : Autosave.Effect → Prop
  | .updateCalled number write =>
      machine.WritesUnder number (· = write) ∧
        write.documentId = machine.pipeline.documentId ∧
        .observed client write.documentId write.version ∈ journal
  | .fetchCalled _ project => project = machine.pipeline.project
  | _ => True

/-- What is known of an answer that has not reached its client yet. -/
def Answers (journal : List Entry) (machine : Machine) : Autosave.Occurrence → Prop
  | .updateReply number (.saved version) =>
      machine.WritesUnder number (·.documentId = machine.pipeline.documentId) ∧
        Stored journal machine.pipeline.documentId version
  | .fetchReply _ (.ok latest) =>
      latest.id = machine.pipeline.documentId ∧ Stored journal latest.id latest.version
  | _ => True

/-- What holds of a client: it knows the version that it holds, of the document of its project, and
whatever is on its way from or to it fits that. -/
structure Serves (network : Network) (client : Nat) (machine : Machine) : Prop where
  books : machine.Sound
  known : .observed client machine.pipeline.documentId machine.pipeline.version ∈ network.journal
  home : network.shelf.home? machine.pipeline.project = some machine.pipeline.documentId
  calls : ∀ call, (client, call) ∈ network.calls → Pending network.journal client machine call
  answers : ∀ answer, (client, answer) ∈ network.answers → Answers network.journal machine answer

/-- What holds of a network after any turns. -/
structure Sound (network : Network) : Prop where
  regular : Regular network.journal
  latest : ∀ id, network.shelf.get? id = latest? network.journal id
  distinct : network.shelf.Distinct
  home : ∀ document ∈ network.journal.filterMap Entry.document?,
    network.shelf.home? document.project = some document.id
  clients : ∀ client machine, network.clients[client]? = some machine →
    network.Serves client machine
  callers : ∀ entry ∈ network.calls, entry.1 < network.clients.length
  addressees : ∀ entry ∈ network.answers, entry.1 < network.clients.length

variable {network : Network} {client : Nat} {machine : Machine} {journal : List Entry}

theorem sound_empty : empty.Sound where
  regular := .nil
  latest := fun _ => rfl
  distinct := List.nodup_nil
  home document member := by simp [empty] at member
  clients client machine found := by simp [empty] at found
  callers := nofun
  addressees := nofun

/-! ## The journal grows -/

theorem Pending.mono
    {call : Autosave.Effect}
    (pending : Pending journal client machine call)
    {later : List Entry}
    (grows : ∀ entry ∈ journal, entry ∈ later) :
    Pending later client machine call := by
  cases call with
  | updateCalled number write => exact ⟨pending.1, pending.2.1, grows _ pending.2.2⟩
  | _ => exact pending

theorem Answers.mono
    {answer : Autosave.Occurrence}
    (answers : Answers journal machine answer)
    {later : List Entry}
    (grows : ∀ entry ∈ journal, entry ∈ later) :
    Answers later machine answer := by
  have storedLater {id : Uuid} {version : Int} (stored : Stored journal id version) :
      Stored later id version := by
    obtain ⟨entry, member, found⟩ := stored
    exact ⟨entry, grows entry member, found⟩
  cases answer with
  | updateReply number reply =>
      cases reply with
      | saved version => exact ⟨answers.1, storedLater answers.2⟩
      | _ => trivial
  | fetchReply number reply =>
      cases reply with
      | ok latest => exact ⟨answers.1, storedLater answers.2⟩
      | error failure => trivial
  | _ => trivial

/-- What holds of a client stays true when others act, or when something is lost on its way. -/
theorem Serves.mono
    (serves : network.Serves client machine)
    {later : Network}
    (grows : ∀ entry ∈ network.journal, entry ∈ later.journal)
    (home : ∀ project id, network.shelf.home? project = some id →
      later.shelf.home? project = some id)
    (calls : ∀ call, (client, call) ∈ later.calls → (client, call) ∈ network.calls)
    (answers : ∀ answer, (client, answer) ∈ later.answers → (client, answer) ∈ network.answers) :
    later.Serves client machine where
  books := serves.books
  known := grows _ serves.known
  home := home _ _ serves.home
  calls call member := (serves.calls call (calls call member)).mono grows
  answers answer member := (serves.answers answer (answers answer member)).mono grows

/-! ## The shelf changes -/

/-- A project that has no document may get one. -/
theorem Sound.create
    (sound : network.Sound)
    {id project : Uuid}
    (unused : network.shelf.get? id = none)
    (homeless : network.shelf.home? project = none)
    (content : String) :
    { network with
      shelf := (network.shelf.create id project content).1
      journal := .created ⟨id, project, content, 1⟩ :: network.journal }.Sound := by
  have homeLater (otherProject otherId : Uuid)
      (home : network.shelf.home? otherProject = some otherId) :
      (network.shelf.create id project content).1.home? otherProject = some otherId := by
    rw [Shelf.home?_create, home, Option.some_or]
  refine ⟨.created sound.regular ((sound.latest id).symm.trans unused) rfl, fun other => ?_,
    sound.distinct.create unused content, fun document member => ?_,
    fun other machine found => ?_, sound.callers, sound.addressees⟩
  · rw [Shelf.get?_create]
    by_cases same : id = other
    · subst same
      rw [unused, Option.none_or, if_pos rfl]
      exact (Journal.latest?_cons_of_stores rfl network.journal).symm
    · rw [if_neg same, Option.or_none, sound.latest,
        Journal.latest?_cons_of_not_stores (by simpa [Entry.stores, Entry.document?] using same)]
  · rcases List.mem_cons.mp member with rfl | older
    · show (network.shelf.create id project content).1.home? project = some id
      rw [Shelf.home?_create, homeless, Option.none_or, if_pos rfl]
    · exact homeLater _ _ (sound.home document older)
  · exact (sound.clients other machine found).mono (fun _ => List.mem_cons_of_mem _) homeLater
      (fun _ member => member) (fun _ member => member)

/-- The document that is stored may get a new version, if the journal stays regular. -/
theorem Sound.revise
    (sound : network.Sound)
    {id : Uuid}
    {prior : Document}
    (found : network.shelf.get? id = some prior)
    {content : String}
    {entry : Entry}
    (stored : entry.document? = some (Shelf.revise prior content))
    (regular : Regular (entry :: network.journal)) :
    { network with
      shelf := network.shelf.replace (Shelf.revise prior content)
      journal := entry :: network.journal }.Sound := by
  have homeSame := sound.distinct.home?_replace_revise found content
  have priorId := Shelf.id_eq_of_get? found
  refine ⟨regular, fun other => ?_, sound.distinct.replace _, fun document member => ?_,
    fun other machine otherFound => ?_, sound.callers, sound.addressees⟩
  · rw [Shelf.get?_replace_revise found]
    split
    case isTrue same =>
      rw [same, ← priorId]
      exact (Journal.latest?_cons_of_stores stored network.journal).symm
    case isFalse differs =>
      rw [sound.latest, Journal.latest?_cons_of_not_stores]
      simpa [Entry.stores, stored, priorId] using Ne.symm differs
  · rw [homeSame]
    rw [List.filterMap_cons_some stored] at member
    rcases List.mem_cons.mp member with rfl | older
    · exact sound.home prior (Journal.mem_of_latest? ((sound.latest id).symm.trans found))
    · exact sound.home document older
  · exact (sound.clients other machine otherFound).mono (fun _ => List.mem_cons_of_mem _)
      (fun project id home => (homeSame project).trans home) (fun _ member => member)
      (fun _ member => member)

/-! ## Calls and answers travel -/

theorem Sound.dropCall
    (sound : network.Sound)
    (index : Nat) :
    { network with calls := network.calls.eraseIdx index }.Sound where
  regular := sound.regular
  latest := sound.latest
  distinct := sound.distinct
  home := sound.home
  clients client machine found := (sound.clients client machine found).mono (fun _ => id)
    (fun _ _ => id) (fun _ => List.mem_of_mem_eraseIdx) (fun _ => id)
  callers entry member := sound.callers entry (List.mem_of_mem_eraseIdx member)
  addressees := sound.addressees

theorem Sound.dropAnswer
    (sound : network.Sound)
    (index : Nat) :
    { network with answers := network.answers.eraseIdx index }.Sound where
  regular := sound.regular
  latest := sound.latest
  distinct := sound.distinct
  home := sound.home
  clients client machine found := (sound.clients client machine found).mono (fun _ => id)
    (fun _ _ => id) (fun _ => id) (fun _ => List.mem_of_mem_eraseIdx)
  callers := sound.callers
  addressees entry member := sound.addressees entry (List.mem_of_mem_eraseIdx member)

/-- An answer that fits its client may be sent. -/
theorem Sound.send
    (sound : network.Sound)
    (joined : client < network.clients.length)
    {answer : Autosave.Occurrence}
    (fits : ∀ machine, network.clients[client]? = some machine →
      Answers network.journal machine answer) :
    { network with answers := (client, answer) :: network.answers }.Sound where
  regular := sound.regular
  latest := sound.latest
  distinct := sound.distinct
  home := sound.home
  clients other machine found := by
    have serves := sound.clients other machine found
    refine ⟨serves.books, serves.known, serves.home, serves.calls, fun otherAnswer member => ?_⟩
    rcases List.mem_cons.mp member with new | older
    · obtain ⟨rfl, rfl⟩ := Prod.mk.inj new
      exact fits machine found
    · exact serves.answers otherAnswer older
  callers := sound.callers
  addressees entry member := by
    rcases List.mem_cons.mp member with rfl | older
    · exact joined
    · exact sound.addressees entry older

/-- An entry that stores nothing may be written down, if the journal stays regular. -/
theorem Sound.note
    (sound : network.Sound)
    {entry : Entry}
    (regular : Regular (entry :: network.journal))
    (storesNothing : entry.document? = none) :
    { network with journal := entry :: network.journal }.Sound where
  regular := regular
  latest id := by
    rw [Journal.latest?_cons_of_not_stores (by simp [Entry.stores, storesNothing])]
    exact sound.latest id
  distinct := sound.distinct
  home document member := by
    rw [List.filterMap_cons_none storesNothing] at member
    exact sound.home document member
  clients client machine found := (sound.clients client machine found).mono
    (fun _ => List.mem_cons_of_mem _) (fun _ _ => id) (fun _ => id) (fun _ => id)
  callers := sound.callers
  addressees := sound.addressees

/-- What becomes of a write when it reaches the shelf: it is accepted if it presents the version
stored there, and nothing changes otherwise. -/
theorem serve?_updateCalled
    (network : Network)
    (client number : Nat)
    (write : Write) :
    (∃ prior, network.shelf.get? write.documentId = some prior ∧ prior.version = write.version ∧
      network.serve? client (.updateCalled number write) = some { network with
        shelf := network.shelf.replace (Shelf.revise prior write.content)
        answers := (client, .updateReply number (.saved (prior.version + 1))) :: network.answers
        journal :=
          .accepted client write (Shelf.revise prior write.content) :: network.journal }) ∨
    (∀ prior, network.shelf.get? write.documentId = some prior → prior.version ≠ write.version) ∧
      ∃ reply, (∀ version, reply ≠ .saved version) ∧
        network.serve? client (.updateCalled number write) = some { network with
          answers := (client, .updateReply number reply) :: network.answers
          journal := .refused client write :: network.journal } := by
  by_cases current : ∃ prior, network.shelf.get? write.documentId = some prior ∧
      prior.version = write.version
  · obtain ⟨prior, found, versionEq⟩ := current
    refine .inl ⟨prior, found, versionEq, ?_⟩
    simp only [serve?, ← versionEq, Shelf.update_eq_of_current found,
      Shelf.get?_replace_revise found, if_true, entryOf]
  · have stale : ∀ prior, network.shelf.get? write.documentId = some prior →
        prior.version ≠ write.version := by
      intro prior found versionEq
      exact current ⟨prior, found, versionEq⟩
    obtain ⟨reply, same, refused⟩ := Shelf.update_eq_of_refused stale write.content
    refine .inr ⟨stale, reply, refused, ?_⟩
    have entryEq : entryOf client write reply (network.shelf.get? write.documentId) =
        .refused client write := by
      cases reply with
      | saved version => exact absurd rfl (refused version)
      | _ => rfl
    simp only [serve?, same, entryEq]

/-- A call that reaches the shelf keeps the network sound. -/
theorem Sound.serve
    (sound : network.Sound)
    (joined : client < network.clients.length)
    {call : Autosave.Effect}
    (pending : ∀ machine, network.clients[client]? = some machine →
      Pending network.journal client machine call)
    {next : Network}
    (served : network.serve? client call = some next) :
    next.Sound := by
  cases call with
  | updateCalled number write =>
      rcases network.serve?_updateCalled client number write with
        ⟨prior, found, versionEq, accepted⟩ | ⟨_, reply, refused, same⟩
      · obtain rfl := Option.some.inj (accepted.symm.trans served)
        have priorId := Shelf.id_eq_of_get? found
        obtain ⟨machine, isClient⟩ : ∃ machine, network.clients[client]? = some machine :=
          ⟨_, List.getElem?_eq_getElem joined⟩
        have known := (pending machine isClient).2.2
        have regular : Regular
            (.accepted client write (Shelf.revise prior write.content) :: network.journal) :=
          .accepted sound.regular (priorId ▸ (sound.latest _).symm.trans found) rfl priorId
            versionEq known
        apply (sound.revise found rfl regular).send joined
        intro machine isClient
        obtain ⟨writes, documentIdEq, _⟩ := pending machine isClient
        refine ⟨writes.imp fun other same => same ▸ documentIdEq, ?_⟩
        exact ⟨_, List.mem_cons_self, _, rfl, priorId.trans documentIdEq, rfl⟩
      · obtain rfl := Option.some.inj (same.symm.trans served)
        apply (sound.note (.refused sound.regular) rfl).send joined
        intro machine isClient
        cases reply with
        | saved version => exact absurd rfl (refused version)
        | _ => trivial
  | fetchCalled number project =>
      obtain rfl := Option.some.inj served
      apply sound.send joined
      intro machine isClient
      cases fetched : network.shelf.fetch project with
      | error failure => trivial
      | ok latest =>
          obtain ⟨home, member⟩ := Shelf.home?_of_fetch fetched
          have projectEq : project = machine.pipeline.project := pending machine isClient
          rw [projectEq, (sound.clients client machine isClient).home] at home
          refine ⟨(Option.some.inj home).symm, ?_⟩
          exact Journal.stored_of_latest?
            ((sound.latest _).symm.trans (sound.distinct.get?_eq_some member))
  | _ => cases served

/-! ## Clients move -/

/-- A machine may join that is made from a document as it was stored. -/
theorem Sound.join
    (sound : network.Sound)
    {document : Document}
    (stored : document ∈ network.journal.filterMap Entry.document?)
    (config : Config) :
    { network with
      clients := network.clients ++ [Machine.ofDocument config document]
      journal :=
        .observed network.clients.length document.id document.version ::
          network.journal }.Sound := by
  obtain ⟨entry, member, isStored⟩ := List.mem_filterMap.mp stored
  have regular : Regular (.observed network.clients.length document.id document.version ::
      network.journal) :=
    .observed sound.regular ⟨entry, member, document, isStored, rfl, rfl⟩
  have noted := sound.note regular rfl
  refine ⟨noted.regular, noted.latest, noted.distinct, noted.home, fun client machine found => ?_,
    fun call member => ?_, fun answer member => ?_⟩
  · rw [List.getElem?_append] at found
    split at found
    · have serves := noted.clients client machine found
      exact ⟨serves.books, serves.known, serves.home, serves.calls, serves.answers⟩
    case isFalse outside =>
      -- The new machine has made no call yet.
      obtain ⟨inside, equal⟩ := List.getElem?_eq_some_iff.mp found
      have newClient : client = network.clients.length := by
        simp only [List.length_singleton] at inside
        omega
      obtain rfl : Machine.ofDocument config document = machine := by simpa using equal
      subst newClient
      refine ⟨Machine.Sound.ofDocument config document, List.mem_cons_self,
        sound.home document stored, fun call member => ?_, fun answer member => ?_⟩
      · exact absurd (sound.callers _ member) (Nat.lt_irrefl _)
      · exact absurd (sound.addressees _ member) (Nat.lt_irrefl _)
  · have joined := sound.callers call member
    simp only [List.length_append, List.length_singleton]
    omega
  · have joined := sound.addressees answer member
    simp only [List.length_append, List.length_singleton]
    omega

section Changes

variable {move : Autosave.Move} {next : Machine} {effects : List Autosave.Effect}

/-- The calls that a client has begun are those of its last step or older ones. -/
theorem mem_proceed_calls
    {other : Nat}
    {call : Autosave.Effect}
    (member : (other, call) ∈ (network.proceed client machine effects).calls) :
    other = client ∧ call ∈ effects ∨ (other, call) ∈ network.calls := by
  rcases List.mem_append.mp member with new | old
  · obtain ⟨effect, inside, equal⟩ := List.mem_map.mp new
    obtain ⟨rfl, rfl⟩ := Prod.mk.inj equal
    exact .inl ⟨rfl, (List.mem_filter.mp inside).1⟩
  · exact .inr old

/-- A step of a client after which it knows the version that it holds keeps what holds of it. -/
theorem Serves.proceed
    (serves : network.Serves client machine)
    (change : machine.Change move next effects)
    (documentIdEq : next.pipeline.documentId = machine.pipeline.documentId)
    (known : .observed client next.pipeline.documentId next.pipeline.version ∈ network.journal) :
    (network.proceed client next.retire effects).Serves client next.retire where
  books := (serves.books.change change).retire
  known := by
    show .observed client next.retire.pipeline.documentId next.retire.pipeline.version ∈
      network.journal
    rw [Machine.retire_documentId, Machine.retire_version]
    exact known
  home := by
    show network.shelf.home? next.retire.pipeline.project = some next.retire.pipeline.documentId
    rw [Machine.retire_project, Machine.retire_documentId, change.project_eq, documentIdEq]
    exact serves.home
  calls call member := by
    show Pending network.journal client next.retire call
    rcases mem_proceed_calls member with ⟨_, called⟩ | older
    · cases call with
      | updateCalled number write =>
          obtain ⟨_, writeIdEq, versionEq⟩ := change.writing_of_updateCalled called
          refine ⟨(Machine.WritesUnder.ofCall (serves.books.change change) change called).retire,
            writeIdEq.trans (Machine.retire_documentId _).symm, ?_⟩
          rw [writeIdEq, versionEq]
          exact known
      | fetchCalled number project =>
          rw [(change.fetching_of_fetchCalled called).2.2]
          exact (change.project_eq.symm.trans (Machine.retire_project _).symm)
      | _ => trivial
    · have pending := serves.calls call older
      cases call with
      | updateCalled number write =>
          refine ⟨(pending.1.change change).retire, ?_, pending.2.2⟩
          rw [Machine.retire_documentId, documentIdEq]
          exact pending.2.1
      | fetchCalled number project =>
          exact pending.trans (change.project_eq.symm.trans (Machine.retire_project _).symm)
      | _ => trivial
  answers answer member := by
    show Answers network.journal next.retire answer
    have fits := serves.answers answer member
    cases answer with
    | updateReply number reply =>
        cases reply with
        | saved version =>
            simp only [Answers, Machine.retire_documentId, documentIdEq]
            exact ⟨(fits.1.change change).retire, fits.2⟩
        | _ => trivial
    | fetchReply number reply =>
        cases reply with
        | ok latest =>
            simp only [Answers, Machine.retire_documentId, documentIdEq]
            exact fits
        | error failure => trivial
    | _ => trivial

/-- A step of a client after which it knows the version that it holds keeps the network sound. -/
theorem Sound.proceed
    (sound : network.Sound)
    (isClient : network.clients[client]? = some machine)
    (change : machine.Change move next effects)
    (documentIdEq : next.pipeline.documentId = machine.pipeline.documentId)
    (known : .observed client next.pipeline.documentId next.pipeline.version ∈ network.journal) :
    (network.proceed client next.retire effects).Sound where
  regular := sound.regular
  latest := sound.latest
  distinct := sound.distinct
  home := sound.home
  clients other otherMachine found := by
    rw [Network.proceed, List.getElem?_set] at found
    split at found
    case isTrue same =>
      subst same
      split at found
      · obtain rfl := Option.some.inj found
        exact (sound.clients client machine isClient).proceed change documentIdEq known
      · cases found
    case isFalse apart =>
      refine (sound.clients other otherMachine found).mono (fun _ => id) (fun _ _ => id)
        (fun call member => ?_) (fun _ => id)
      rcases mem_proceed_calls member with ⟨same, _⟩ | older
      · exact absurd same.symm apart
      · exact older
  callers entry member := by
    show entry.1 < (network.clients.set client next.retire).length
    rw [List.length_set]
    rcases mem_proceed_calls member with ⟨same, _⟩ | older
    · rw [same]
      exact (List.getElem?_eq_some_iff.mp isClient).1
    · exact sound.callers entry older
  addressees entry member := by
    show entry.1 < (network.clients.set client next.retire).length
    rw [List.length_set]
    exact sound.addressees entry member

/-- What an answer tells a client has been stored, and the client knows what it holds afterwards. -/
theorem Sound.deliver
    (sound : network.Sound)
    (isClient : network.clients[client]? = some machine)
    {answer : Autosave.Occurrence}
    (answered : (client, answer) ∈ network.answers)
    (change : machine.Change (.occurrence answer) next effects) :
    ({ network with
      journal := observations client machine answer ++ network.journal }.proceed client next.retire
        effects).Sound := by
  have serves := sound.clients client machine isClient
  have fits := serves.answers answer answered
  have ofPlain (plain : (Autosave.Move.occurrence answer).isGrant = false) :
      (network.proceed client next.retire effects).Sound := by
    obtain ⟨versionEq, documentIdEq⟩ := change.held_of_not_isGrant plain
    refine sound.proceed isClient change documentIdEq ?_
    rw [versionEq, documentIdEq]
    exact serves.known
  have ofObserved {id : Uuid} {version : Int} (stored : Stored network.journal id version)
      (idEq : id = machine.pipeline.documentId)
      (documentIdEq : next.pipeline.documentId = machine.pipeline.documentId)
      (versionEq : next.pipeline.version = version) :
      ({ network with
        journal := .observed client id version :: network.journal }.proceed client next.retire
          effects).Sound := by
    have regular : Regular (.observed client id version :: network.journal) :=
      .observed sound.regular stored
    have noted := sound.note regular rfl
    refine noted.proceed isClient change documentIdEq ?_
    rw [documentIdEq, versionEq, ← idEq]
    exact List.mem_cons_self
  cases answer with
  | updateReply number reply =>
      cases reply with
      | saved version =>
          obtain ⟨_, purpose, write, member⟩ := change.writing_of_saved
          obtain ⟨_, _, equal, writeIdEq⟩ := fits.1.write_of_mem _ member
          obtain ⟨_, rfl⟩ := Autosave.Task.writing.inj equal
          obtain ⟨versionEq, documentIdEq⟩ := change.version_of_saved
          simp only [observations, serves.books.task?_eq_some member]
          exact ofObserved (writeIdEq ▸ fits.2) writeIdEq documentIdEq versionEq
      | conflict => exact ofPlain rfl
      | failed failure => exact ofPlain rfl
  | fetchReply number reply =>
      cases reply with
      | ok latest =>
          obtain ⟨versionEq, documentIdEq⟩ := change.held_of_document
          exact ofObserved fits.2 fits.1 (documentIdEq.trans fits.1) versionEq
      | error failure => exact ofPlain rfl
  | _ => exact ofPlain rfl

end Changes

/-! ## Turns -/

section Turns

variable {turn : Turn} {next : Network}

/-- Every turn keeps the network sound. -/
theorem Sound.kept
    (sound : network.Sound)
    (possible : network.turn? turn = some next) :
    next.Sound := by
  cases turn with
  | create id project content =>
      simp only [turn?] at possible
      split at possible
      case isTrue free =>
        obtain rfl := Option.some.inj possible
        exact sound.create free.1 free.2 content
      case isFalse => cases possible
  | overwrite id content =>
      simp only [turn?, Shelf.overwrite] at possible
      cases found : network.shelf.get? id with
      | none =>
          rw [found] at possible
          cases possible
      | some prior =>
          rw [found] at possible
          obtain rfl := Option.some.inj possible
          have priorId := Shelf.id_eq_of_get? found
          have regular : Regular (.overwritten (Shelf.revise prior content) :: network.journal) :=
            .overwritten sound.regular (priorId ▸ (sound.latest _).symm.trans found) rfl
          exact sound.revise found rfl regular
  | join config document =>
      simp only [turn?] at possible
      split at possible
      case isTrue stored =>
        obtain rfl := Option.some.inj possible
        exact sound.join stored config
      case isFalse => cases possible
  | move client move =>
      simp only [turn?] at possible
      split at possible
      case isTrue => cases possible
      case isFalse plain =>
        simp only [Option.bind_eq_bind, Option.bind_eq_some_iff, Option.pure_def,
          Option.some.injEq] at possible
        obtain ⟨machine, isClient, ⟨_, effects⟩, moved, rfl⟩ := possible
        obtain ⟨after, change, rfl⟩ := Machine.change_of_move? moved
        obtain ⟨versionEq, documentIdEq⟩ :=
          change.held_of_not_isGrant (Bool.eq_false_iff.mpr plain)
        refine sound.proceed isClient change documentIdEq ?_
        rw [versionEq, documentIdEq]
        exact (sound.clients client machine isClient).known
  | serve index =>
      simp only [turn?, Option.bind_eq_bind, Option.bind_eq_some_iff] at possible
      obtain ⟨⟨client, call⟩, found, served⟩ := possible
      have member := List.mem_of_getElem? found
      exact (sound.dropCall index).serve (sound.callers _ member)
        (fun machine isClient => (sound.clients client machine isClient).calls call member) served
  | deliver index =>
      simp only [turn?, Option.bind_eq_bind, Option.bind_eq_some_iff, Option.pure_def,
        Option.some.injEq] at possible
      obtain ⟨⟨client, answer⟩, found, machine, isClient, ⟨_, effects⟩, moved, rfl⟩ := possible
      obtain ⟨after, change, rfl⟩ := Machine.change_of_move? moved
      exact (sound.deliver isClient (List.mem_of_getElem? found) change).dropAnswer index

theorem Sound.follow
    (sound : network.Sound)
    (turns : List Turn) :
    (network.follow turns).Sound :=
  takeTurns_induction (fun kept possible => Sound.kept kept possible) turns sound

end Turns

/-- No update is lost. The version of a document is one more than the number of writes of it
that were accepted or made without looking; a write is accepted only if its client got to know
the version that it presents and nothing was written after that version; and a write that does
not present the version that is stored changes nothing on the shelf. -/
theorem no_lost_update (turns : List Turn) :
    (∀ document ∈ (after turns).shelf.documents,
      latest? (after turns).journal document.id = some document ∧
      document.version = 1 + (after turns).journal.countP (Entry.revises document.id)) ∧
    (∀ later client write document earlier,
      (after turns).journal = later ++ .accepted client write document :: earlier →
      ∃ between stored before prior, earlier = between ++ stored :: before ∧
        stored.document? = some prior ∧ prior.id = write.documentId ∧
        prior.version = write.version ∧
        (∀ entry ∈ between, entry.stores write.documentId = false) ∧
        .observed client write.documentId write.version ∈ between) ∧
    ∀ index client number write,
      (after turns).calls[index]? = some (client, .updateCalled number write) →
      ∃ next, (after turns).turn? (.serve index) = some next ∧
        ((∃ prior, (after turns).shelf.get? write.documentId = some prior ∧
            prior.version = write.version ∧
            next.shelf.get? write.documentId = some (Shelf.revise prior write.content) ∧
            next.journal = .accepted client write (Shelf.revise prior write.content) ::
              (after turns).journal) ∨
          (∀ prior, (after turns).shelf.get? write.documentId = some prior →
            prior.version ≠ write.version) ∧
          next.shelf = (after turns).shelf ∧
          next.journal = .refused client write :: (after turns).journal) := by
  have sound : (after turns).Sound := sound_empty.follow turns
  refine ⟨?_, ?_, ?_⟩
  · intro document member
    have found := (sound.latest _).symm.trans (sound.distinct.get?_eq_some member)
    exact ⟨found, sound.regular.version_eq found⟩
  · intro later client write document earlier split
    exact Journal.Regular.split_of_accepted (split ▸ sound.regular)
  · intro index client number write called
    have served : (after turns).turn? (.serve index) =
        { after turns with calls := (after turns).calls.eraseIdx index }.serve? client
          (.updateCalled number write) := by
      simp [turn?, called]
    rw [served]
    rcases { after turns with calls := (after turns).calls.eraseIdx index }.serve?_updateCalled
      client number write with ⟨prior, found, versionEq, accepted⟩ | ⟨stale, reply, _, refused⟩
    · refine ⟨_, accepted, .inl ⟨prior, found, versionEq, ?_, rfl⟩⟩
      show ((after turns).shelf.replace (Shelf.revise prior write.content)).get?
        write.documentId = some (Shelf.revise prior write.content)
      rw [Shelf.get?_replace_revise found, if_pos rfl]
    · exact ⟨_, refused, .inr ⟨stale, rfl, rfl⟩⟩

/-- Two clients that know the first version of a document, and the first of them has written. -/
def rivals : List Turn :=
  [.create (.ofNat 1) (.ofNat 2) "base", .join .standard ⟨.ofNat 1, .ofNat 2, "base", 1⟩,
    .join .standard ⟨.ofNat 1, .ofNat 2, "base", 1⟩,
    .move 0 (.request (.save "mine")), .move 0 (.request .flush),
    .move 1 (.request (.save "theirs")), .move 1 (.request .flush), .serve 1]

/-- The second one is refused, and then writes over what it has got to know. -/
def overwritten : List Turn :=
  rivals ++ [.serve 0, .deliver 0, .move 1 (.request (.resolve .overwrite)), .serve 0, .deliver 0,
    .serve 0]

theorem no_lost_update_of_rivals :
    (∃ next, (after rivals).turn? (.serve 0) = some next ∧
      next.shelf = (after rivals).shelf) ∧
    (∃ between stored before, (after overwritten).journal.tail = between ++ stored :: before ∧
      .observed 1 (.ofNat 1) 2 ∈ between) ∧
    (3 : Int) = 1 + (after overwritten).journal.countP (Entry.revises (.ofNat 1)) := by
  refine ⟨?_, ?_, ?_⟩
  · obtain ⟨next, served, ⟨prior, found, current, _⟩ | ⟨_, same, _⟩⟩ :=
      (no_lost_update rivals).2.2 0 1 0 ⟨.ofNat 1, "theirs", 1⟩ rfl
    · cases Option.some.inj found
      cases current
    · exact ⟨next, served, same⟩
  · obtain ⟨between, stored, before, _, split, _, _, _, _, known⟩ :=
      (no_lost_update overwritten).2.1 [] 1 ⟨.ofNat 1, "theirs", 2⟩
        ⟨.ofNat 1, .ofNat 2, "theirs", 3⟩ _ rfl
    exact ⟨between, stored, before, split, known⟩
  · exact ((no_lost_update overwritten).1 ⟨.ofNat 1, .ofNat 2, "theirs", 3⟩
      List.mem_cons_self).2

end Network
end Store
end TwinEditor
