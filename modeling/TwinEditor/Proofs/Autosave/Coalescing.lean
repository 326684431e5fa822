import Mathlib.Data.List.Chain
import Mathlib.Logic.Function.Iterate
import TwinEditor.Proofs.Autosave.PromptStore
import TwinEditor.Proofs.Autosave.Sequence

/-!
# Saves that coalesce

Without the interval timer, a content is written when nothing was saved for the debounce period. If the
store is prompt this says exactly which writes a sequence of saves leads to, at which instants, and which
versions they present.
-/

namespace TwinEditor
namespace Autosave

open Store

/-! ## Saves at their times -/

/-- A content that is saved at a time. -/
structure Save where
  time : Nat
  content : String
  deriving Repr, DecidableEq

/-- A save comes no earlier than another one, and not exactly when that one is due. -/
def Save.Follows (debounce : Nat) (earlier later : Save) : Prop :=
  earlier.time ≤ later.time ∧ later.time ≠ earlier.time + debounce

theorem Save.time_le_of_isChain
    {debounce : Nat}
    {first : Save}
    {rest : List Save}
    (chain : (first :: rest).IsChain (Save.Follows debounce)) :
    ∀ later ∈ rest, first.time ≤ later.time := by
  have sorted := (chain.imp fun _ _ follows => follows.1).pairwise
  exact (List.pairwise_cons.mp sorted).1

/-- The saves that no other save follows within the debounce period. -/
def lastingSaves (debounce : Nat) : List Save → List Save
  | [] => []
  | save :: rest =>
      if rest.head?.all fun next => save.time + debounce < next.time then
        save :: lastingSaves debounce rest
      else lastingSaves debounce rest

/-- The writes up to an instant that saves lead to, each with the version after the one before. -/
def writesOf
    (next : Int → Int)
    (documentId : Uuid)
    (debounce time : Nat)
    (version : Int)
    (saves : List Save) :
    List Write :=
  ((lastingSaves debounce saves).filter fun save => save.time + debounce ≤ time).mapIdx
    fun k save => ⟨documentId, save.content, next^[k] version⟩

section WritesOf

variable {next : Int → Int} {documentId : Uuid} {debounce time : Nat} {version : Int} {save : Save}
  {rest saves : List Save}

theorem writesOf_cons_of_lasting
    (lasting : ∀ following ∈ rest.head?, save.time + debounce < following.time)
    (due : save.time + debounce ≤ time) :
    writesOf next documentId debounce time version (save :: rest) =
      ⟨documentId, save.content, version⟩ ::
        writesOf next documentId debounce time (next version) rest := by
  have kept : (rest.head?.all fun following => save.time + debounce < following.time) = true := by
    cases first : rest.head? with
    | none => rfl
    | some following => exact decide_eq_true (lasting following first)
  rw [writesOf, lastingSaves, if_pos kept, List.filter_cons_of_pos (by simpa using due),
    List.mapIdx_cons]
  rfl

theorem writesOf_cons_of_replaced
    {following : Save}
    (replaced : following.time < save.time + debounce) :
    writesOf next documentId debounce time version (save :: following :: rest) =
      writesOf next documentId debounce time version (following :: rest) := by
  have dropped : ((following :: rest).head?.all fun following =>
      save.time + debounce < following.time) = false :=
    decide_eq_false (Nat.not_lt.mpr (Nat.le_of_lt replaced))
  rw [writesOf, lastingSaves, dropped]
  rfl

theorem mem_of_mem_lastingSaves
    (member : save ∈ lastingSaves debounce saves) :
    save ∈ saves := by
  induction saves with
  | nil => cases member
  | cons first rest inductionHypothesis =>
      rw [lastingSaves] at member
      split at member
      · rcases List.mem_cons.mp member with rfl | member
        · exact .head _
        · exact .tail _ (inductionHypothesis member)
      · exact .tail _ (inductionHypothesis member)

/-- Saves that are not due lead to no write. -/
theorem writesOf_eq_nil
    (early : ∀ save ∈ saves, time < save.time + debounce) :
    writesOf next documentId debounce time version saves = [] := by
  have none : ((lastingSaves debounce saves).filter fun save => save.time + debounce ≤ time) = [] := by
    rw [List.filter_eq_nil_iff]
    intro save member
    simpa using early save (mem_of_mem_lastingSaves member)
  rw [writesOf, none, List.mapIdx_nil]

end WritesOf

namespace Run

variable {σ : Type} [Remote σ]

/-- Save contents at their times, and let everything happen that can happen up to an instant. -/
def saving (run : Run Machine Effect σ) : List Save → Nat → Run Machine Effect σ
  | [], time => run.advanceTo time
  | save :: rest, time =>
      if save.time ≤ time then
        saving ((run.advanceTo save.time).ask (.save save.content)) rest time
      else run.advanceTo time

/-- The writes that the store was called for. -/
def writes (run : Run Machine Effect σ) : List Write :=
  (run.outcomes.filterMap Effect.update?).map Prod.snd

/-! ## Waiting for the debounce timer -/

/-- At rest at an instant without the interval timer, with a save that is not written yet or with none, and
with a store that answers with the version after the one presented. -/
structure Waits
    (next : Int → Int)
    (documentId : Uuid)
    (debounce : Nat)
    (run : Run Machine Effect σ)
    (version : Int)
    (clock : Nat)
    (unwritten : Option Save) : Prop where
  rest : run.AtRest
  prompt : AnswersAtOnce (fun write reply => reply = .saved (next write.version)) run.store
  documentId_eq : run.system.pipeline.documentId = documentId
  debounce_eq : run.system.config.debounce = debounce
  version_eq : run.system.pipeline.version = version
  clock_eq : run.system.clock = clock
  untimed : run.system.pipeline.interval = none
  pending : run.system.pipeline.pending = unwritten.map (·.content)
  armed : run.system.pipeline.debounce = unwritten.map (·.time + debounce)
  phase : run.system.pipeline.phase = if unwritten.isSome then .pendingDebounce else .idle
  early : ∀ save ∈ unwritten, clock ≤ save.time + debounce

namespace Waits

variable {next : Int → Int} {documentId : Uuid} {debounce : Nat} {run : Run Machine Effect σ}
  {version : Int} {clock time : Nat} {unwritten : Option Save} {save : Save}

theorem earliest?
    (waits : run.Waits next documentId debounce version clock unwritten) :
    run.earliest? = unwritten.map fun save => ⟨save.time + debounce, .debounce⟩ := by
  have dues := waits.rest.dues_eq
  rw [waits.armed, waits.untimed] at dues
  rw [Run.earliest?, dues]
  cases unwritten <;> rfl

theorem work_eq
    (waits : run.Waits next documentId debounce version clock unwritten)
    (time : Nat) :
    run.work time = 2 := by
  have tasks : run.machine.tasks = [] := waits.rest.tasks
  have untimed : run.machine.pipeline.interval = none := waits.untimed
  simp [work, waits.rest.replies, tasks, untimed]

theorem passTo
    (waits : run.Waits next documentId debounce version clock unwritten)
    (later : clock ≤ time)
    (early : ∀ save ∈ unwritten, time ≤ save.time + debounce) :
    (run.passTo time).Waits next documentId debounce version time unwritten := by
  rw [passTo_eq waits.rest.held (waits.clock_eq.trans_le later)]
  exact { waits with rest := { waits.rest with }, clock_eq := rfl, early }

theorem writes_passTo
    (waits : run.Waits next documentId debounce version clock unwritten)
    (later : clock ≤ time) :
    (run.passTo time).writes = run.writes := by
  rw [passTo_eq waits.rest.held (waits.clock_eq.trans_le later)]
  rfl

/-- Before the debounce timer is due nothing but time goes on. -/
theorem advanceTo_of_lt
    (waits : run.Waits next documentId debounce version clock unwritten)
    (later : clock ≤ time)
    (early : ∀ save ∈ unwritten, time < save.time + debounce) :
    (run.advanceTo time).Waits next documentId debounce version time unwritten ∧
      (run.advanceTo time).writes = run.writes := by
  have nothing : run.next? time = none := by
    refine Option.eq_none_iff_forall_not_mem.mpr fun due found => ?_
    obtain ⟨first, within⟩ := next?_eq_some_iff.mp found
    rw [waits.earliest?] at first
    obtain ⟨save, member, rfl⟩ := Option.map_eq_some_iff.mp first
    exact absurd (Nat.le_trans (Nat.le_max_left ..) within) (Nat.not_le.mpr (early save member))
  have passes : run.advanceTo time = run.passTo time := by
    rw [advanceTo, waits.work_eq, advanceWithin, nothing]
  rw [passes]
  exact ⟨waits.passTo later fun save member => Nat.le_of_lt (early save member),
    waits.writes_passTo later⟩

/-- The write of a save, from the moment the debounce timer fires until the store has answered. -/
theorem fire
    (waits : run.Waits next documentId debounce version clock (some save))
    (due : clock = save.time + debounce) :
    ∃ number reply, (run.occur .debounce).clock = clock ∧
      (run.occur .debounce).earliest? = some ⟨clock, .updateReply number reply⟩ ∧
      ((run.occur .debounce).occur (.updateReply number reply)).Waits next documentId debounce
        (next version) clock none ∧
      ((run.occur .debounce).occur (.updateReply number reply)).writes =
        run.writes ++ [⟨documentId, save.content, version⟩] := by
  have found : run.system.pipeline.disarm.leaveDebounce.nextWrite? =
      some ⟨documentId, save.content, version⟩ := by
    rw [(Pipeline.Quieted.disarm_leaveDebounce _).nextWrite?_eq, Pipeline.nextWrite?,
      if_pos waits.rest.isFree, waits.pending, waits.documentId_eq, waits.version_eq]
    rfl
  obtain ⟨reply, answer, rfl⟩ := waits.prompt.reply ⟨documentId, save.content, version⟩
  have past : save.time + debounce ≤ run.system.clock := Nat.le_of_eq (waits.clock_eq.trans due).symm
  have answered := waits.rest.isAnswered_attempt found answer .debounce (by cases ·)
  rw [← occur_debounce waits.rest.held waits.armed past] at answered
  have first := answered.earliest?
  have lands := answered.occur_updateReply
  have fires := attempt_of_nextWrite?_eq_some found answer .debounce
  rw [← occur_debounce waits.rest.held waits.armed past] at fires
  have clock_eq : (run.occur .debounce).clock = clock := by
    rw [fires]
    exact waits.clock_eq
  refine ⟨run.system.nextNumber, .saved (next version), clock_eq, ?_, ?_, ?_⟩
  · exact first.trans (congrArg (fun time => some (Due.mk time _)) clock_eq)
  · rw [lands, fires]
    exact
      { rest := ⟨rfl, rfl, rfl, (by cases ·), waits.rest.held⟩
        prompt := waits.prompt.update _
        documentId_eq := waits.documentId_eq
        debounce_eq := waits.debounce_eq
        version_eq := rfl
        clock_eq := waits.clock_eq
        untimed := waits.untimed
        pending := if_pos waits.pending
        armed := rfl
        phase := rfl
        early := fun _ member => by cases member }
  · rw [lands, fires]
    simp [writes, Machine.answers, Effect.update?]

/-- A save is written when the debounce timer is due, and then nothing but time goes on. -/
theorem advanceTo_of_le
    (waits : run.Waits next documentId debounce version clock (some save))
    (due : save.time + debounce ≤ time) :
    (run.advanceTo time).Waits next documentId debounce (next version) time none ∧
      (run.advanceTo time).writes = run.writes ++ [⟨documentId, save.content, version⟩] := by
  have later : clock ≤ save.time + debounce := waits.early save rfl
  have passed := waits.passTo later fun _ member => Option.some.inj member ▸ Nat.le_refl _
  obtain ⟨number, reply, clock_eq, first, lands, written⟩ := passed.fire rfl
  have instant_eq : run.instant ⟨save.time + debounce, .debounce⟩ = save.time + debounce :=
    instant_eq_time (waits.clock_eq.trans_le later)
  have fires : run.next? time = some ⟨save.time + debounce, .debounce⟩ :=
    next?_eq_some_iff.mpr ⟨waits.earliest?, instant_eq.trans_le due⟩
  have reached : run.reach ⟨save.time + debounce, .debounce⟩ =
      (run.passTo (save.time + debounce)).occur .debounce := by
    rw [reach, instant_eq]
  generalize (run.passTo (save.time + debounce)).occur .debounce = fired at *
  have answers : fired.next? time = some ⟨save.time + debounce, .updateReply number reply⟩ :=
    next?_eq_some_iff.mpr ⟨first, (instant_eq_time (Nat.le_of_eq clock_eq)).trans_le due⟩
  have answered : fired.reach ⟨save.time + debounce, .updateReply number reply⟩ =
      fired.occur (.updateReply number reply) :=
    reach_of_now clock_eq.symm _
  have passes : run.advanceTo time = (fired.occur (.updateReply number reply)).passTo time := by
    simp only [advanceTo, waits.work_eq, advanceWithin, fires, reached, answers, answered]
  rw [passes]
  refine ⟨lands.passTo due fun _ member => (by cases member), ?_⟩
  rw [lands.writes_passTo due, written, waits.writes_passTo later]

/-- A save is buffered, and the debounce timer is armed anew. -/
theorem ask_save
    (waits : run.Waits next documentId debounce version clock unwritten)
    (content : String) :
    (run.ask (.save content)).Waits next documentId debounce version clock (some ⟨clock, content⟩) ∧
      (run.ask (.save content)).writes = run.writes := by
  rw [waits.rest.ask_save]
  exact ⟨
    { waits with
      rest := { waits.rest with calm := (by cases ·) }
      pending := rfl
      armed := congrArg some (congrArg₂ (· + ·) waits.clock_eq waits.debounce_eq)
      phase := rfl
      early := fun _ member => Option.some.inj member ▸ Nat.le_add_right .. }, rfl⟩

/-- The write of a save that waits, up to an instant at which nothing else has been saved. -/
theorem advanceTo
    (waits : run.Waits next documentId debounce version clock (some save))
    {saves : List Save}
    (begun : clock ≤ time)
    (later : ∀ following ∈ saves, time < following.time) :
    (run.advanceTo time).writes =
        run.writes ++ writesOf next documentId debounce time version (save :: saves) ∧
      (save.time + debounce ≤ time →
        ∃ last, (run.advanceTo time).Waits next documentId debounce last time none) := by
  have others : ∀ following ∈ saves, time < following.time + debounce :=
    fun following member => Nat.lt_add_right debounce (later following member)
  by_cases due : save.time + debounce ≤ time
  · obtain ⟨waiting, written⟩ := waits.advanceTo_of_le due
    have lasting : ∀ following ∈ saves.head?, save.time + debounce < following.time :=
      fun following first => Nat.lt_of_le_of_lt due (later following (List.mem_of_head? first))
    rw [written, writesOf_cons_of_lasting lasting due, writesOf_eq_nil others]
    exact ⟨rfl, fun _ => ⟨_, waiting⟩⟩
  · obtain ⟨-, written⟩ := waits.advanceTo_of_lt begun fun _ member =>
      Option.some.inj member ▸ Nat.not_le.mp due
    have early : ∀ other ∈ save :: saves, time < other.time + debounce :=
      List.forall_mem_cons.mpr ⟨Nat.not_le.mp due, others⟩
    rw [written, writesOf_eq_nil early, List.append_nil]
    exact ⟨rfl, fun isDue => absurd isDue due⟩

/-- The writes of a save that waits and of those after it. -/
theorem saving
    (waits : run.Waits next documentId debounce version clock (some save))
    {saves : List Save}
    (chain : (save :: saves).IsChain (Save.Follows debounce))
    (since : ∀ following ∈ saves, clock ≤ following.time)
    (begun : clock ≤ time) :
    (run.saving saves time).writes =
        run.writes ++ writesOf next documentId debounce time version (save :: saves) ∧
      ((∀ due ∈ save :: saves, due.time + debounce ≤ time) →
        ∃ last, (run.saving saves time).Waits next documentId debounce last time none) := by
  induction saves generalizing run save version clock with
  | nil =>
      have alone : ∀ following ∈ ([] : List Save), time < following.time := nofun
      obtain ⟨written, waiting⟩ := waits.advanceTo begun alone
      exact ⟨written, fun due => waiting (due save (.head _))⟩
  | cons following rest inductionHypothesis =>
      obtain ⟨follows, chain⟩ := List.isChain_cons_cons.mp chain
      have ordered := Save.time_le_of_isChain chain
      rw [Run.saving]
      split
      · next reached =>
          -- Either the save is written on the way to the next one, or the next one replaces it.
          by_cases late : save.time + debounce < following.time
          · obtain ⟨waiting, written⟩ := waits.advanceTo_of_le (Nat.le_of_lt late)
            obtain ⟨asked, same⟩ := waiting.ask_save following.content
            obtain ⟨others, ended⟩ := inductionHypothesis asked chain ordered reached
            have lasting : ∀ other ∈ (following :: rest).head?, save.time + debounce < other.time :=
              fun _ first => Option.some.inj first ▸ late
            refine ⟨?_, fun due => ended (List.forall_mem_cons.mp due).2⟩
            rw [others, same, written,
              writesOf_cons_of_lasting lasting (Nat.le_trans (Nat.le_of_lt late) reached),
              List.append_assoc, List.singleton_append]
          · have replaced : following.time < save.time + debounce :=
              Nat.lt_of_le_of_ne (Nat.not_lt.mp late) follows.2
            obtain ⟨waiting, written⟩ := waits.advanceTo_of_lt (since following (.head _))
              fun _ member => Option.some.inj member ▸ replaced
            obtain ⟨asked, same⟩ := waiting.ask_save following.content
            obtain ⟨others, ended⟩ := inductionHypothesis asked chain ordered reached
            refine ⟨?_, fun due => ended (List.forall_mem_cons.mp due).2⟩
            rw [others, same, written, writesOf_cons_of_replaced replaced]
      · next unreached =>
          have later : ∀ other ∈ following :: rest, time < other.time :=
            List.forall_mem_cons.mpr ⟨Nat.not_le.mp unreached, fun other member =>
              Nat.lt_of_lt_of_le (Nat.not_le.mp unreached) (ordered other member)⟩
          obtain ⟨written, waiting⟩ := waits.advanceTo begun later
          exact ⟨written, fun due => waiting (due save (.head _))⟩

theorem start
    (config : Config)
    (document : Document)
    {store : σ}
    (prompt : AnswersAtOnce (fun write reply => reply = .saved (next write.version)) store) :
    (Run.start (Machine.ofDocument config document) store).Waits next document.id config.debounce
      document.version 0 none where
  rest := ⟨rfl, rfl, rfl, nofun, rfl⟩
  prompt := prompt
  documentId_eq := rfl
  debounce_eq := by
    change config.checked.debounce = config.debounce
    unfold Config.checked
    split <;> rfl
  version_eq := rfl
  clock_eq := rfl
  untimed := rfl
  pending := rfl
  armed := rfl
  phase := rfl
  early := nofun

end Waits

/-- Without the interval timer, and with a store that answers every update at once with the version after
the one presented, contents are saved at times that do not decrease, no two neighbouring ones exactly the
debounce period apart. Then the writes up to any instant are those of the saves that no other one follows
within the period, each made when the period is over, in order, and each presenting the version that the
store gave for the one before. When all periods are over, nothing is buffered or planned. -/
theorem writes_saving
    {next : Int → Int}
    (config : Config)
    (document : Document)
    {store : σ}
    (prompt : AnswersAtOnce (fun write reply => reply = .saved (next write.version)) store)
    {saves : List Save}
    (chain : saves.IsChain (Save.Follows config.debounce))
    (time : Nat) :
    let run : Run Machine Effect σ :=
      (Run.start (Machine.ofDocument config document) store).saving saves time
    run.writes =
        ((lastingSaves config.debounce saves).filter fun save =>
          save.time + config.debounce ≤ time).mapIdx
            (fun k save => ⟨document.id, save.content, next^[k] document.version⟩) ∧
      ((∀ save ∈ saves, save.time + config.debounce ≤ time) →
        run.system.pipeline.pending = none ∧ run.system.pipeline.phase = .idle) := by
  have waits := Waits.start config document prompt
  change _ = writesOf next document.id config.debounce time document.version saves ∧ _
  cases saves with
  | nil =>
      obtain ⟨waiting, written⟩ := waits.advanceTo_of_lt (Nat.zero_le time) nofun
      exact ⟨written, fun _ => ⟨waiting.pending, waiting.phase⟩⟩
  | cons first rest =>
      have ordered := Save.time_le_of_isChain chain
      rw [Run.saving]
      split
      · next reached =>
          obtain ⟨waiting, written⟩ := waits.advanceTo_of_lt (Nat.zero_le first.time) nofun
          obtain ⟨asked, same⟩ := waiting.ask_save first.content
          obtain ⟨all, ended⟩ := asked.saving chain ordered reached
          rw [same, written] at all
          refine ⟨all, fun due => ?_⟩
          obtain ⟨_, last⟩ := ended due
          exact ⟨last.pending, last.phase⟩
      · next unreached =>
          have early : ∀ other ∈ first :: rest, time < other.time + config.debounce := by
            refine List.forall_mem_cons.mpr ⟨?_, fun other member => ?_⟩
            · omega
            · have := ordered other member
              omega
          obtain ⟨waiting, written⟩ := waits.advanceTo_of_lt (Nat.zero_le time) nofun
          rw [writesOf_eq_nil early]
          exact ⟨written, fun _ => ⟨waiting.pending, waiting.phase⟩⟩

/-- The first of three saves is replaced by the second, which is written before the third. -/
theorem writes_saving_of_replaced_save :
    let saves : List Save := [⟨0, "a"⟩, ⟨400, "ab"⟩, ⟨2000, "abc"⟩]
    let run (time : Nat) : Run Machine Effect Script :=
      (Run.start (Machine.ofDocument ⟨1000, 60000⟩ ⟨.nil, .nil, "", 1⟩) ⟨[], []⟩).saving saves time
    (run 2999).writes = [⟨.nil, "ab", 1⟩] ∧ (run 3000).writes = [⟨.nil, "ab", 1⟩, ⟨.nil, "abc", 2⟩] ∧
      (run 3000).system.pipeline.pending = none ∧ (run 3000).system.pipeline.phase = .idle := by
  intro saves run
  have chain : saves.IsChain (Save.Follows 1000) := by simp [saves, Save.Follows]
  have general := writes_saving ⟨1000, 60000⟩ ⟨.nil, .nil, "", 1⟩ (answersAtOnce_script []) chain
  exact ⟨(general 2999).1.trans (by decide), (general 3000).1.trans (by decide),
    (general 3000).2 (by decide)⟩

end Run
end Autosave
end TwinEditor
