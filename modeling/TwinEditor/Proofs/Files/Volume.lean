import Mathlib.Data.List.Basic
import TwinEditor.Files.Volume

/-!
# What operations leave alone

An operation changes nothing on a volume but what it names, even when the medium refuses it on the
way. Making the directories on the way to a path changes nothing but these.
-/

namespace TwinEditor
namespace Files
namespace Volume

variable {volume after : Volume} {path other : Path} {entry : Entry}

/-! ## Looking up paths -/

theorem lookup?_of_names_eq_nil
    (volume : Volume)
    (top : path.names = []) :
    volume.lookup? path = some .directory := by
  rw [lookup?, top]
  rfl

theorem lookup?_of_names_ne_nil
    (volume : Volume)
    (inside : path.names ≠ []) :
    volume.lookup? path = (volume.entries.find? (·.1 == path)).map (·.2) := by
  rw [lookup?, if_neg (by simpa using inside)]

/-- A path that does not lead to a directory is not the top one. -/
theorem names_ne_nil_of_lookup?
    (different : volume.lookup? path ≠ some .directory) :
    path.names ≠ [] :=
  fun top => different (volume.lookup?_of_names_eq_nil top)

theorem find?_entries_erase
    (volume : Volume)
    (differ : other ≠ path) :
    (volume.erase path).entries.find? (·.1 == other) = volume.entries.find? (·.1 == other) := by
  rw [erase, List.find?_filter]
  congr 1
  funext found
  by_cases same : found.1 = other
  · simp [same, differ]
  · simp [same]

theorem lookup?_erase_of_ne
    (volume : Volume)
    (differ : other ≠ path) :
    (volume.erase path).lookup? other = volume.lookup? other := by
  rw [lookup?, lookup?, find?_entries_erase volume differ]

theorem lookup?_erase_self
    (volume : Volume)
    (inside : path.names ≠ []) :
    (volume.erase path).lookup? path = none := by
  rw [lookup?_of_names_ne_nil _ inside, Option.map_eq_none_iff, List.find?_eq_none]
  intro found member same
  have kept := (List.mem_filter.mp member).2
  simp only [beq_iff_eq] at same
  simp [same] at kept

theorem entries_insert
    (volume : Volume)
    (path : Path)
    (entry : Entry) :
    (volume.insert path entry).entries = (path, entry) :: (volume.erase path).entries :=
  rfl

theorem lookup?_insert_of_ne
    (volume : Volume)
    (entry : Entry)
    (differ : other ≠ path) :
    (volume.insert path entry).lookup? other = volume.lookup? other := by
  rw [lookup?, lookup?, entries_insert, List.find?_cons_of_neg (by simpa using differ.symm),
    find?_entries_erase volume differ]

theorem lookup?_insert_self
    (volume : Volume)
    (entry : Entry)
    (inside : path.names ≠ []) :
    (volume.insert path entry).lookup? path = some entry := by
  rw [lookup?_of_names_ne_nil _ inside, entries_insert,
    List.find?_cons_of_pos (by simp)]
  rfl

/-! ## Reading -/

theorem fromUTF8?_toUTF8 (text : String) : String.fromUTF8? text.toUTF8 = some text := by
  unfold String.fromUTF8?
  rw [String.toUTF8_eq_toByteArray, dif_pos text.isValidUTF8]
  rfl

/-- A file that holds the bytes of a text is read as this text. -/
theorem readText_of_lookup?
    {text : String}
    (found : volume.lookup? path = some (.file text.toUTF8)) :
    volume.readText path = .ok text := by
  have content : volume.read path = .ok text.toUTF8 := by
    rw [read, found]
  rw [readText, content]
  simp only [bind, Except.bind, fromUTF8?_toUTF8]

/-! ## Operations -/

/-- Nothing stands in the way of an entry whose names can be given and whose directory is there. -/
theorem obstacle?_eq_none_iff :
    volume.obstacle? path = none ↔
      path.names.all isValidName = true ∧ volume.lookup? path.parent = some .directory := by
  unfold obstacle?
  cases path.names.all isValidName with
  | false => simp
  | true =>
      cases volume.lookup? path.parent with
      | none => simp
      | some found => cases found <;> simp

theorem createDirectory_eq_ok
    (made : volume.createDirectory path = .ok after) :
    after = volume ∨ after = volume.insert path .directory := by
  unfold createDirectory at made
  split at made
  · exact .inl (Except.ok.inj made).symm
  · cases made
  · split at made
    · cases made
    · exact .inr (Except.ok.inj made).symm

theorem write_eq_ok_iff
    {content : ByteArray} :
    volume.write path content = .ok after ↔
      volume.lookup? path ≠ some .directory ∧ volume.obstacle? path = none ∧
        volume.insert path (.file content) = after := by
  unfold write
  split
  case h_1 found => simp [found]
  case h_2 different =>
    cases volume.obstacle? path with
    | none => simpa using fun _ => different
    | some refusal => simp

theorem rename_eq_ok_iff
    {source target : Path} :
    volume.rename source target = .ok after ↔
      ∃ content, volume.lookup? source = some (.file content) ∧
        volume.lookup? target ≠ some .directory ∧ volume.obstacle? target = none ∧
        (volume.erase source).insert target (.file content) = after := by
  unfold rename
  split
  case h_1 found targetFound => simp [targetFound]
  case h_2 content found different =>
    cases volume.obstacle? target with
    | none => simpa [found] using fun _ => different
    | some refusal => simp
  case h_3 found => simp [found]
  case h_4 missing => simp [missing]

end Volume

/-- The paths that an operation names. -/
def Operation.paths : Operation → List Path
  | .createDirectory path => [path]
  | .write path _ => [path]
  | .rename source target => [source, target]

namespace Volume

variable {volume after : Volume} {path : Path} {operation : Operation}

/-- An operation changes nothing but what it names. -/
theorem lookup?_of_apply
    (applied : volume.apply operation = .ok after)
    (unnamed : path ∉ operation.paths) :
    after.lookup? path = volume.lookup? path := by
  cases operation with
  | createDirectory made =>
      have differ : path ≠ made := by simpa [Operation.paths] using unnamed
      rcases createDirectory_eq_ok applied with rfl | rfl
      · rfl
      · exact lookup?_insert_of_ne volume _ differ
  | write written content =>
      have differ : path ≠ written := by simpa [Operation.paths] using unnamed
      obtain ⟨_, _, rfl⟩ := write_eq_ok_iff.mp applied
      exact lookup?_insert_of_ne volume _ differ
  | rename source target =>
      obtain ⟨notSource, notTarget⟩ : path ≠ source ∧ path ≠ target := by
        simpa [Operation.paths] using unnamed
      obtain ⟨content, _, _, _, rfl⟩ := rename_eq_ok_iff.mp applied
      rw [lookup?_insert_of_ne _ _ notTarget, lookup?_erase_of_ne _ notSource]

/-! ## Media -/

variable {medium : Medium} {refusal : Refusal}

theorem apply_of_perform
    (performed : volume.perform medium operation = (after, none)) :
    volume.apply operation = .ok after := by
  unfold perform at performed
  split at performed
  · cases performed
  · rename_i applied _
    obtain ⟨rfl, _⟩ := Prod.mk.inj performed
    exact applied
  · split at performed <;> cases performed

theorem perform_sound
    (applied : volume.apply operation = .ok after) :
    volume.perform .sound operation = (after, none) := by
  rw [perform, applied]
  rfl

/-- A write that stops on the way changes nothing but its file. -/
theorem lookup?_of_partial_write
    (volume : Volume)
    {written : Path}
    (content : ByteArray)
    (differ : path ≠ written) :
    ((volume.write written content).toOption.getD volume).lookup? path = volume.lookup? path := by
  cases partly : volume.write written content with
  | error refusal => rfl
  | ok after =>
      obtain ⟨_, _, rfl⟩ := write_eq_ok_iff.mp partly
      exact lookup?_insert_of_ne volume _ differ

/-- On any medium an operation changes nothing but what it names. -/
theorem lookup?_perform
    (medium : Medium)
    (volume : Volume)
    (unnamed : path ∉ operation.paths) :
    (volume.perform medium operation).1.lookup? path = volume.lookup? path := by
  unfold perform
  split
  · rfl
  · rename_i applied _
    exact lookup?_of_apply applied unnamed
  · split
    case h_1 written content _ _ =>
      exact lookup?_of_partial_write volume _ (by simpa [Operation.paths] using unnamed)
    case h_2 => rfl

/-- A file that is not moved leaves everything as it is. -/
theorem volume_eq_of_rename_refused
    {source target : Path}
    (performed : volume.perform medium (.rename source target) = (after, some refusal)) :
    after = volume := by
  unfold perform at performed
  split at performed
  · exact (Prod.mk.inj performed).1.symm
  · cases performed
  · exact (Prod.mk.inj performed).1.symm

/-- Making directories changes nothing but what leads to them. -/
theorem lookup?_createDirectories
    (medium : Medium)
    (volume : Volume)
    {directory : Path}
    (outside : path ∉ directory.ancestry) :
    (volume.createDirectories medium directory).1.lookup? path = volume.lookup? path := by
  refine List.foldlRecOn (motive := fun state : Volume × Option Refusal =>
    state.1.lookup? path = volume.lookup? path) directory.ancestry _ rfl ?_
  rintro ⟨current, refusal⟩ kept made member
  cases refusal with
  | some refusal => exact kept
  | none =>
      have unnamed : path ∉ (Operation.createDirectory made).paths := by
        rintro same
        exact outside (List.mem_singleton.mp same ▸ member)
      exact (lookup?_perform medium current unnamed).trans kept

end Volume
end Files
end TwinEditor
