import TwinEditor.Proofs.Files.Volume
import TwinEditor.Proofs.Json.ReadBack
import TwinEditor.SettingsFile

/-!
# Settings survive their file

Settings are written as a text that reads as them, beside the file that they are for, and moved
into its place at the end. So what is loaded after they have been saved is what was saved, with the
periods in range, and if anything goes wrong on the way the file is still the old one.
-/

namespace TwinEditor

/-! ## The text of settings -/

namespace Markdown
namespace Options

theorem ofJson?_toJson (options : Options) : ofJson? options.toJson = some options := by
  simp [ofJson?, toJson, Json.Fields.ofJson?, Json.Fields.read?, Json.bool?]

theorem isPlain_toJson (options : Options) : options.toJson.isPlain = true := by
  simp [toJson, Json.isPlain, Json.arePlainMembers]

end Options
end Markdown

namespace AutosaveSettings

variable {settings : AutosaveSettings}

/-- Settings whose periods fit in 64 bits. -/
structure Fits (settings : AutosaveSettings) : Prop where
  debounce_lt : settings.debounce < periodBound
  interval_lt : settings.interval < periodBound

theorem read?_toJson (settings : AutosaveSettings) :
    (Json.Fields.ofJson? settings.toJson).bind (·.read? ["debounce_ms", "interval_ms"]) =
      some [some (.ofNat settings.debounce), some (.ofNat settings.interval)] :=
  rfl

/-- Periods that fit are read as they are written. -/
theorem Fits.ofJson?_toJson (fits : settings.Fits) : ofJson? settings.toJson = some settings := by
  obtain ⟨fields, same, read⟩ := Option.bind_eq_some_iff.mp settings.read?_toJson
  rw [ofJson?, same, Option.bind_eq_bind, Option.bind_some, read, Option.bind_eq_bind,
    Option.bind_some]
  show (((some (Json.ofNat settings.debounce)).getD _).natBelow? periodBound).bind _ = _
  rw [Option.getD_some, Json.natBelow?_ofNat_of_lt fits.debounce_lt, Option.bind_some]
  show (((some (Json.ofNat settings.interval)).getD _).natBelow? periodBound).bind _ = _
  rw [Option.getD_some, Json.natBelow?_ofNat_of_lt fits.interval_lt]
  rfl

theorem Fits.isPlain_toJson (fits : settings.Fits) : settings.toJson.isPlain = true := by
  simp [toJson, Json.isPlain, Json.arePlainMembers, Json.isPlain_ofNat_of_lt fits.debounce_lt,
    Json.isPlain_ofNat_of_lt fits.interval_lt]

theorem Fits.clamped (fits : settings.Fits) : settings.clamped.Fits := by
  obtain ⟨_, interval_lt⟩ := fits
  have bound : periodBound = 18446744073709551616 := rfl
  constructor <;>
    · simp only [AutosaveSettings.clamped, minDebounce, maxDebounce, minInterval]
      omega

theorem clamped_clamped (settings : AutosaveSettings) :
    settings.clamped.clamped = settings.clamped := by
  simp only [clamped, minDebounce, maxDebounce, minInterval, AutosaveSettings.mk.injEq]
  omega

/-- The periods that are in range already. -/
theorem clamped_eq_self_iff :
    settings.clamped = settings ↔
      50 ≤ settings.debounce ∧ settings.debounce ≤ 60000 ∧
        max 5000 settings.debounce ≤ settings.interval := by
  obtain ⟨debounce, interval⟩ := settings
  simp only [clamped, minDebounce, maxDebounce, minInterval, AutosaveSettings.mk.injEq]
  omega

end AutosaveSettings

namespace Settings

variable {settings : Settings}

theorem read?_toJson (settings : Settings) :
    (Json.Fields.ofJson? settings.toJson).bind (·.read? ["markdown", "autosave"]) =
      some [some settings.markdown.toJson, some settings.autosave.toJson] :=
  rfl

theorem ofJson?_toJson
    (fits : settings.autosave.Fits) :
    ofJson? settings.toJson = some settings := by
  obtain ⟨fields, same, read⟩ := Option.bind_eq_some_iff.mp settings.read?_toJson
  rw [ofJson?, same, Option.bind_eq_bind, Option.bind_some, read, Option.bind_eq_bind,
    Option.bind_some]
  show (Markdown.Options.ofJson? ((some settings.markdown.toJson).getD _)).bind _ = _
  rw [Option.getD_some, Markdown.Options.ofJson?_toJson, Option.bind_some]
  show (AutosaveSettings.ofJson? ((some settings.autosave.toJson).getD _)).bind _ = _
  rw [Option.getD_some, fits.ofJson?_toJson]
  rfl

/-- Settings come back from the text of their file. -/
theorem ofText?_toText
    (fits : settings.autosave.Fits) :
    ofText? settings.toText = some settings := by
  have plain : settings.toJson.isPlain = true := by
    simp [toJson, Json.isPlain, Json.arePlainMembers, Markdown.Options.isPlain_toJson,
      fits.isPlain_toJson]
  rw [ofText?, toText, Json.pretty, Json.read?_write plain, Option.bind_eq_bind, Option.bind_some,
    ofJson?_toJson fits]

theorem clamped_clamped (settings : Settings) : settings.clamped.clamped = settings.clamped := by
  rw [clamped, clamped, AutosaveSettings.clamped_clamped]

theorem clamped_eq_self_iff :
    settings.clamped = settings ↔
      50 ≤ settings.autosave.debounce ∧ settings.autosave.debounce ≤ 60000 ∧
        max 5000 settings.autosave.debounce ≤ settings.autosave.interval := by
  rw [← AutosaveSettings.clamped_eq_self_iff]
  constructor
  · intro same
    exact congrArg Settings.autosave same
  · intro same
    rw [clamped, same]

end Settings

namespace SettingsFile

open Files

/-! ## The second file -/

/-- A text has as many pieces as separators and one more. -/
theorem length_splitAt
    (separator : Char)
    (text : List Char) :
    (Text.splitAt separator text).length = text.count separator + 1 := by
  induction text with
  | nil => rfl
  | cons c rest inductionHypothesis =>
      rw [Text.splitAt]
      split
      case isTrue same => rw [List.length_cons, inductionHypothesis, same, List.count_cons_self]
      case isFalse differ =>
        rw [List.count_cons_of_ne differ]
        split
        case h_1 none => exact absurd none (Text.splitAt_ne_nil separator rest)
        case h_2 piece pieces found => rw [← inductionHypothesis, found]; rfl

/-- Joined pieces have at least the separators between them. -/
theorem length_le_count_intercalate
    (separator : Char)
    (pieces : List (List Char)) :
    pieces.length ≤ (List.intercalate [separator] pieces).count separator + 1 := by
  induction pieces with
  | nil => exact Nat.zero_le _
  | cons piece rest inductionHypothesis =>
      cases rest with
      | nil => simp
      | cons next rest =>
          have cut : List.intercalate [separator] (piece :: next :: rest) =
              piece ++ separator :: List.intercalate [separator] (next :: rest) := by
            simp [List.intercalate, List.intersperse]
          rw [cut, List.count_append, List.count_cons_self, List.length_cons]
          omega

/-- A name has at most one dot more than its stem. -/
theorem count_dot_le_stem (name : List Char) :
    name.count '.' ≤ (Path.stem name).count '.' + 1 := by
  unfold Path.stem
  split
  case h_1 last previous before pieces =>
    have length := congrArg List.length pieces
    rw [List.length_reverse, length_splitAt, List.length_cons, List.length_cons] at length
    have joined := length_le_count_intercalate '.' (previous :: before).reverse
    rw [List.length_reverse, List.length_cons] at joined
    dsimp only
    split <;> omega
  case h_2 => exact Nat.le_succ _

/-- The second file stands beside the first one, and it is another one. -/
theorem backupPath_ne
    {path : Path}
    (inside : path.names ≠ []) :
    backupPath path ≠ path := by
  intro same
  have last := List.getLast?_eq_some_getLast inside
  have names : path.names.dropLast ++
      [.ofList (Path.stem (path.names.getLast inside).toList) ++ "." ++ "json.bak"] =
        path.names.dropLast ++ [path.names.getLast inside] := by
    rw [List.dropLast_append_getLast]
    have names := congrArg Path.names same
    rwa [backupPath, Path.withExtension, last] at names
  have name := List.singleton_inj.mp (List.append_cancel_left names)
  have dots := congrArg (fun name : String => name.toList.count '.') name
  simp only [String.toList_append, String.toList_ofList, List.count_append] at dots
  have stem := count_dot_le_stem (path.names.getLast inside).toList
  have suffix : ".".toList.count '.' + "json.bak".toList.count '.' = 2 := by decide
  omega

theorem parent_backupPath (path : Path) : (backupPath path).parent = path.parent := by
  unfold backupPath Path.withExtension
  split
  · rw [Path.parent, Path.parent, List.dropLast_concat]
  · rfl

/-- No directory on the way to a path is the path itself. -/
theorem not_mem_ancestry_parent
    {path : Path}
    (inside : path.names ≠ []) :
    path ∉ path.parent.ancestry := by
  intro member
  obtain ⟨above, _, same⟩ := List.mem_map.mp member
  have length := congrArg (fun path : Path => path.names.length) same
  simp only [Path.parent, List.length_take, List.length_dropLast] at length
  have some := List.length_pos_iff.mpr inside
  omega

theorem parent_ne
    {path : Path}
    (inside : path.names ≠ []) :
    path.parent ≠ path := by
  intro same
  have length := congrArg (fun path : Path => path.names.length) same
  simp only [Path.parent, List.length_dropLast] at length
  have some := List.length_pos_iff.mpr inside
  omega

theorem backupPath_names_ne_nil
    {path : Path}
    (inside : path.names ≠ []) :
    (backupPath path).names ≠ [] := by
  rw [backupPath, Path.withExtension, List.getLast?_eq_some_getLast inside]
  exact List.append_ne_nil_of_right_ne_nil _ (List.cons_ne_nil _ _)

theorem parent_ne_backupPath
    {path : Path}
    (inside : path.names ≠ []) :
    path.parent ≠ backupPath path := by
  rw [← parent_backupPath]
  exact parent_ne (backupPath_names_ne_nil inside)

/-! ## Saving -/

variable {medium : Medium} {volume after : Volume} {path : Path} {settings : Settings}

/-- The directory is made without touching the file. -/
theorem lookup?_prepareDirectory
    (medium : Medium)
    (volume : Volume)
    (inside : path.names ≠ []) :
    (prepareDirectory medium volume path).1.lookup? path = volume.lookup? path := by
  unfold prepareDirectory
  split
  · rfl
  · exact Volume.lookup?_createDirectories medium volume (not_mem_ancestry_parent inside)

/-- How far saving comes. -/
inductive Saving (medium : Medium) (volume : Volume) (path : Path) (settings : Settings) :
    Volume → Except Failure Unit → Prop
  | unprepared {prepared : Volume} {refusal : Refusal}
      (prepare : prepareDirectory medium volume path = (prepared, some refusal)) :
      Saving medium volume path settings prepared
        (.error (.settingsUnwritten path.parent.toText refusal.message))
  | unwritten {prepared written : Volume} {refusal : Refusal}
      (prepare : prepareDirectory medium volume path = (prepared, none))
      (write : prepared.perform medium (.write (backupPath path) settings.toText.toUTF8) =
        (written, some refusal)) :
      Saving medium volume path settings written
        (.error (.settingsUnwritten (backupPath path).toText refusal.message))
  | unmoved {prepared written moved : Volume} {refusal : Refusal}
      (prepare : prepareDirectory medium volume path = (prepared, none))
      (write : prepared.perform medium (.write (backupPath path) settings.toText.toUTF8) =
        (written, none))
      (move : written.perform medium (.rename (backupPath path) path) = (moved, some refusal)) :
      Saving medium volume path settings moved
        (.error (.settingsUnwritten path.toText refusal.message))
  | moved {prepared written moved : Volume}
      (prepare : prepareDirectory medium volume path = (prepared, none))
      (write : prepared.perform medium (.write (backupPath path) settings.toText.toUTF8) =
        (written, none))
      (move : written.perform medium (.rename (backupPath path) path) = (moved, none)) :
      Saving medium volume path settings moved (.ok ())

theorem saving_of_save
    {outcome : Except Failure Unit}
    (saved : save medium volume path settings = (after, outcome)) :
    Saving medium volume path settings after outcome := by
  unfold save at saved
  split at saved
  case h_1 prepare =>
    obtain ⟨rfl, rfl⟩ := Prod.mk.inj saved
    exact .unprepared prepare
  case h_2 prepare =>
    split at saved
    case h_1 write =>
      obtain ⟨rfl, rfl⟩ := Prod.mk.inj saved
      exact .unwritten prepare write
    case h_2 write =>
      split at saved
      case h_1 move =>
        obtain ⟨rfl, rfl⟩ := Prod.mk.inj saved
        exact .unmoved prepare write move
      case h_2 move =>
        obtain ⟨rfl, rfl⟩ := Prod.mk.inj saved
        exact .moved prepare write move

/-- What holds of a volume on which settings have been saved. -/
structure Holds (after : Volume) (path : Path) (settings : Settings) : Prop where
  valid : path.names.all Volume.isValidName = true
  backup_valid : (backupPath path).names.all Volume.isValidName = true
  parent : after.lookup? path.parent = some .directory
  entry : after.lookup? path = some (.file settings.toText.toUTF8)
  backup : after.lookup? (backupPath path) = none

/-- The text of settings is written to the second file, which is then moved into place. -/
theorem holds_of_moved
    {prepared written : Volume}
    (write : prepared.apply (.write (backupPath path) settings.toText.toUTF8) = .ok written)
    (move : written.apply (.rename (backupPath path) path) = .ok after) :
    Holds after path settings := by
  obtain ⟨_, backupAllowed, rfl⟩ := Volume.write_eq_ok_iff.mp write
  obtain ⟨content, source, free, allowed, rfl⟩ := Volume.rename_eq_ok_iff.mp move
  obtain ⟨backupValid, _⟩ := Volume.obstacle?_eq_none_iff.mp backupAllowed
  obtain ⟨valid, directory⟩ := Volume.obstacle?_eq_none_iff.mp allowed
  have inside := Volume.names_ne_nil_of_lookup? free
  have backupInside := backupPath_names_ne_nil inside
  rw [Volume.lookup?_insert_self _ _ backupInside] at source
  obtain rfl := Entry.file.inj (Option.some.inj source)
  refine ⟨valid, backupValid, ?_, Volume.lookup?_insert_self _ _ inside, ?_⟩
  · rw [Volume.lookup?_insert_of_ne _ _ (parent_ne inside),
      Volume.lookup?_erase_of_ne _ (parent_ne_backupPath inside), directory]
  · rw [Volume.lookup?_insert_of_ne _ _ (backupPath_ne inside),
      Volume.lookup?_erase_self _ backupInside]

theorem holds_of_save
    (saved : save medium volume path settings = (after, .ok ())) :
    Holds after path settings := by
  cases saving_of_save saved with
  | moved prepare write move =>
      exact holds_of_moved (Volume.apply_of_perform write) (Volume.apply_of_perform move)

/-- When settings are not saved, whatever the path leads to is what it was before. -/
theorem lookup?_of_save_failed
    {failure : Failure}
    (failed : save medium volume path settings = (after, .error failure)) :
    after.lookup? path = volume.lookup? path := by
  by_cases top : path.names = []
  · rw [Volume.lookup?_of_names_eq_nil _ top, Volume.lookup?_of_names_eq_nil _ top]
  · have prepared := lookup?_prepareDirectory medium volume top
    have written (volume : Volume) :=
      @Volume.lookup?_perform path (.write (backupPath path) settings.toText.toUTF8) medium volume
        (by simpa [Operation.paths] using (backupPath_ne top).symm)
    cases saving_of_save failed with
    | unprepared prepare => rwa [prepare] at prepared
    | @unwritten before _ _ prepare write =>
        have kept := written before
        rw [write] at kept
        rw [prepare] at prepared
        exact kept.trans prepared
    | @unmoved before _ _ _ prepare write move =>
        have kept := written before
        rw [write] at kept
        rw [prepare] at prepared
        rw [Volume.volume_eq_of_rename_refused move]
        exact kept.trans prepared

/-- Where settings have been saved, others can be saved on a sound medium. -/
theorem Holds.exists_save
    (holds : Holds volume path settings)
    (next : Settings) :
    ∃ after, save .sound volume path next = (after, .ok ()) := by
  have inside : path.names ≠ [] :=
    Volume.names_ne_nil_of_lookup? (by rw [holds.entry]; nofun)
  have prepared : prepareDirectory .sound volume path = (volume, none) := by
    rw [prepareDirectory, Volume.exists?, holds.parent]
    rfl
  have written : volume.apply (.write (backupPath path) next.toText.toUTF8) =
      .ok (volume.insert (backupPath path) (.file next.toText.toUTF8)) := by
    refine Volume.write_eq_ok_iff.mpr ⟨by rw [holds.backup]; nofun, ?_, rfl⟩
    rw [Volume.obstacle?_eq_none_iff, parent_backupPath]
    exact ⟨holds.backup_valid, holds.parent⟩
  obtain ⟨after, renamed⟩ : ∃ after,
      (volume.insert (backupPath path) (.file next.toText.toUTF8)).apply
        (.rename (backupPath path) path) = .ok after := by
    refine ⟨_, Volume.rename_eq_ok_iff.mpr
      ⟨_, Volume.lookup?_insert_self _ _ (backupPath_names_ne_nil inside), ?_, ?_, rfl⟩⟩
    · rw [Volume.lookup?_insert_of_ne _ _ (backupPath_ne inside).symm, holds.entry]
      nofun
    · rw [Volume.obstacle?_eq_none_iff,
        Volume.lookup?_insert_of_ne _ _ (parent_ne_backupPath inside)]
      exact ⟨holds.valid, holds.parent⟩
  rw [save, prepared]
  dsimp only
  rw [Volume.perform_sound written]
  dsimp only
  rw [Volume.perform_sound renamed]
  exact ⟨after, rfl⟩

/-! ## Loading -/

/-- The text of settings begins with a bracket, which is not white space. -/
theorem not_all_isBlank_toText (settings : Settings) :
    settings.toText.toList.all Text.isBlank = false := by
  rw [Settings.toText, Json.pretty, String.toList_ofList, Settings.toJson, Json.write,
    List.all_cons, show Text.isBlank '\x7b' = false by decide, Bool.false_and]

/-- Saved settings are loaded with their periods in range. -/
theorem Holds.load
    (holds : Holds volume path settings)
    (fits : settings.autosave.Fits) :
    load volume path = .ok settings.clamped := by
  have found : volume.exists? path = true := by
    rw [Volume.exists?, holds.entry]
    rfl
  have text := Volume.readText_of_lookup? holds.entry
  rw [SettingsFile.load, if_pos found, text]
  show ofContent settings.toText = _
  rw [ofContent, not_all_isBlank_toText, Settings.ofText?_toText fits]
  rfl

/-- Settings that are saved are loaded with their periods in range, which are the same settings
exactly if their periods were in range. Saving what was loaded, which a sound medium allows, and
loading it gives the same. If settings are not saved, whatever the path leads to is what it was
before, however far saving had come. -/
theorem settings_survive_their_file
    {settings : Settings}
    (debounce_lt : settings.autosave.debounce < AutosaveSettings.periodBound)
    (interval_lt : settings.autosave.interval < AutosaveSettings.periodBound)
    (medium : Medium)
    (volume : Volume)
    (path : Path) :
    (∀ after, save medium volume path settings = (after, .ok ()) →
      load after path = .ok settings.clamped ∧
      (∃ again, save .sound after path settings.clamped = (again, .ok ())) ∧
      ∀ medium again, save medium after path settings.clamped = (again, .ok ()) →
        load again path = .ok settings.clamped) ∧
    (settings.clamped = settings ↔
      50 ≤ settings.autosave.debounce ∧ settings.autosave.debounce ≤ 60000 ∧
        max 5000 settings.autosave.debounce ≤ settings.autosave.interval) ∧
    ∀ after failure, save medium volume path settings = (after, .error failure) →
      after.lookup? path = volume.lookup? path := by
  have fits : settings.autosave.Fits := ⟨debounce_lt, interval_lt⟩
  refine ⟨fun after saved => ?_, Settings.clamped_eq_self_iff, fun after failure failed => ?_⟩
  · have holds := holds_of_save saved
    refine ⟨holds.load fits, holds.exists_save _, fun medium again savedAgain => ?_⟩
    rw [(holds_of_save savedAgain).load fits.clamped, Settings.clamped_clamped]
  · exact lookup?_of_save_failed failed

/-- A medium that is full after the third byte of a file. -/
def fullMedium : Medium where
  refused?
    | .write .. => some 3
    | _ => none

theorem settings_survive_their_file_of_full_medium :
    let settings : Settings := ⟨.plain, ⟨7, 18446744073709551615⟩⟩
    let path : Path := ⟨["dualmark", "config.json"]⟩
    let old : Volume :=
      ⟨[(⟨["dualmark"]⟩, .directory), (⟨["dualmark", "config.json"]⟩, .file "old".toUTF8)]⟩
    settings.autosave.debounce < AutosaveSettings.periodBound ∧
      settings.autosave.interval < AutosaveSettings.periodBound ∧
      (∃ after, save .sound .empty path settings = (after, .ok ()) ∧
        load after path = .ok ⟨.plain, ⟨50, 18446744073709551615⟩⟩) ∧
      ∃ after failure, save fullMedium old path settings = (after, .error failure) ∧
        after.exists? (backupPath path) = true ∧
        after.lookup? path = some (.file "old".toUTF8) := by
  intro settings path old
  have debounce_lt : settings.autosave.debounce < AutosaveSettings.periodBound := by decide
  have interval_lt : settings.autosave.interval < AutosaveSettings.periodBound := by decide
  have first := settings_survive_their_file debounce_lt interval_lt .sound .empty path
  have second := settings_survive_their_file debounce_lt interval_lt fullMedium old path
  refine ⟨debounce_lt, interval_lt, ⟨_, rfl, (first.1 _ rfl).1⟩, _, _, rfl, rfl, ?_⟩
  exact second.2.2 _ _ rfl

end SettingsFile
end TwinEditor
