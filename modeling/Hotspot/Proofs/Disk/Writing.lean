import Hotspot.Proofs.Disk.Location

/-! What becomes of each place when files are written and removed, or
directories made. A path whose file can be written keeps being one through all
of this, and the directory that it lies in exists already. -/

namespace Hotspot.Disk

variable {disk after : Disk} {path : Path} {place : Place}

/-! ## Writing -/

/-- Every write of the file succeeds. -/
def Writable (disk : Disk) (path : Path) : Prop :=
  ∀ bytes, ∃ after, disk.write path bytes = (.ok (), after)

theorem write_eq_ok_iff {bytes : List UInt8} {fault : Option WriteFault} :
    disk.write path bytes fault = (.ok (), after) ↔
      fault = none ∧ disk.locate path = .ok path.target ∧
        disk.at? path.target ≠ some .directory ∧ after = disk.put path.target (.file bytes) := by
  unfold write
  split
  · rename_i place located
    have same := eq_target_of_locate located
    subst same
    split
    · rename_i directory
      simp [directory]
    · rename_i free
      rcases fault with _ | _ | count <;> simp [located, free, eq_comm]
  · rename_i error unlocated
    simp [unlocated]

/-- A write that fails leaves the disk as it was, or is cut short. -/
theorem eq_or_write_of_write_error {bytes : List UInt8} {fault : Option WriteFault}
    {error : PathError} (failed : disk.write path bytes fault = (.error error, after)) :
    after = disk ∨
      ∃ count, fault = some (.cut count) ∧ disk.write path (bytes.take count) = (.ok (), after) := by
  unfold write at failed
  split at failed
  · rename_i place located
    have same := eq_target_of_locate located
    subst same
    split at failed
    · cases failed
      exact .inl rfl
    · rename_i free
      rcases fault with _ | _ | count <;> cases failed
      · exact .inl rfl
      · exact .inr ⟨count, rfl, write_eq_ok_iff.mpr ⟨rfl, located, free, rfl⟩⟩
  · cases failed
    exact .inl rfl

theorem eq_of_write_error {bytes : List UInt8} {error : PathError}
    (failed : disk.write path bytes = (.error error, after)) : after = disk := by
  rcases eq_or_write_of_write_error failed with same | ⟨_, nothing, _⟩
  · exact same
  · cases nothing

theorem write_denied_of_write {bytes : List UInt8}
    (written : disk.write path bytes = (.ok (), after)) :
    disk.write path bytes (some .denied) = (.error .denied, disk) := by
  rcases write_eq_ok_iff.mp written with ⟨_, located, free, _⟩
  simp only [write, located, if_neg free]

theorem write_denied_of_error {bytes : List UInt8} {error : PathError}
    (failed : disk.write path bytes = (.error error, after)) :
    disk.write path bytes (some .denied) = (.error error, disk) := by
  unfold write at failed ⊢
  split at failed
  · split at failed
    · rename_i directory
      cases failed
      rw [if_pos directory]
    · cases failed
  · cases failed
    rfl

theorem writable_iff :
    disk.Writable path ↔
      disk.locate path = .ok path.target ∧ disk.at? path.target ≠ some .directory := by
  constructor
  · intro writable
    rcases writable [] with ⟨after, written⟩
    rcases write_eq_ok_iff.mp written with ⟨_, located, free, _⟩
    exact ⟨located, free⟩
  · rintro ⟨located, free⟩ bytes
    exact ⟨_, write_eq_ok_iff.mpr ⟨rfl, located, free, rfl⟩⟩

theorem writable_of_file {bytes : List UInt8} (file : disk.named? path = some (.file bytes)) :
    disk.Writable path := by
  rcases named?_eq_some_iff.mp file with ⟨located, held⟩
  refine writable_iff.mpr ⟨located, ?_⟩
  rw [held]
  exact nofun

theorem names_ne_nil_of_free (free : disk.at? place ≠ some .directory) : place.names ≠ [] :=
  fun outer => free (by simp [at?, outer])

theorem at?_write {bytes : List UInt8} {fault : Option WriteFault}
    (written : disk.write path bytes fault = (.ok (), after)) (place : Place) :
    after.at? place = if place = path.target then some (.file bytes) else disk.at? place := by
  rcases write_eq_ok_iff.mp written with ⟨_, _, free, rfl⟩
  split
  · rename_i same
    subst same
    exact at?_put disk _ (names_ne_nil_of_free free)
  · rename_i different
    exact at?_put_of_ne disk _ different

theorem Writable.write {bytes : List UInt8} {fault : Option WriteFault}
    (written : disk.write path bytes fault = (.ok (), after)) : after.Writable path := by
  rcases write_eq_ok_iff.mp written with ⟨_, located, free, same⟩
  have kept : after.locate path = .ok path.target := by
    rw [same]
    exact locate_of_directories (at?_put_of_directory (.file bytes) free) located
  refine writable_iff.mpr ⟨kept, ?_⟩
  rw [at?_write written, if_pos rfl]
  exact nofun

theorem Writable.write_of_ne {other : Path} {bytes : List UInt8} (writable : disk.Writable path)
    (written : disk.write other bytes = (.ok (), after)) (different : other.target ≠ path.target) :
    after.Writable path ∧ after.named? path = disk.named? path := by
  rcases writable_iff.mp writable with ⟨located, free⟩
  rcases write_eq_ok_iff.mp written with ⟨_, _, unused, rfl⟩
  have kept := locate_of_directories (at?_put_of_directory (.file bytes) unused) located
  have same : (disk.put other.target (.file bytes)).at? path.target = disk.at? path.target :=
    at?_put_of_ne disk _ different.symm
  refine ⟨writable_iff.mpr ⟨kept, ?_⟩, ?_⟩
  · rw [same]
    exact free
  · rw [named?_of_locate kept, named?_of_locate located, same]

theorem Writable.isUsable (writable : disk.Writable path) : path.IsUsable :=
  isUsable_of_locate (writable_iff.mp writable).1

theorem write_ne_nullCharacter (disk : Disk) (usable : path.IsUsable) (bytes : List UInt8)
    (fault : Option WriteFault) : (disk.write path bytes fault).1 ≠ .error .nullCharacter := by
  intro failed
  unfold write at failed
  split at failed
  · split at failed
    · cases failed
    · rcases fault with _ | _ | count <;> cases failed
  · rename_i error unlocated
    cases failed
    rcases error_of_locate usable unlocated with missing | file
    · cases missing
    · cases file

/-! ## Removing a file -/

theorem at?_removeFile_of_ne (different : place ≠ path.target) :
    (disk.removeFile path).at? place = disk.at? place := by
  unfold removeFile
  split
  · rename_i removed located
    have same := eq_target_of_locate located
    subst same
    simp only [at?, lookup_filter_of_ne different]
  · rfl

theorem at?_removeFile_target {bytes : List UInt8} (file : disk.named? path = some (.file bytes)) :
    (disk.removeFile path).at? path.target = none := by
  rcases named?_eq_some_iff.mp file with ⟨located, held⟩
  have inside := names_ne_nil_of_free (show disk.at? path.target ≠ some .directory by simp [held])
  simp only [removeFile, located, at?, inside, if_false]
  rw [List.lookup_eq_none_iff]
  intro entry member
  have kept : entry.1 ≠ path.target := by simpa using (List.mem_filter.mp member).2
  simpa using kept.symm

theorem at?_removeFile_of_directory {bytes : List UInt8}
    (file : disk.named? path = some (.file bytes)) (place : Place)
    (directory : disk.at? place = some .directory) :
    (disk.removeFile path).at? place = some .directory := by
  have held := (named?_eq_some_iff.mp file).2
  have different : place ≠ path.target := by
    rintro rfl
    rw [held] at directory
    cases directory
  rw [at?_removeFile_of_ne different, directory]

theorem locate_removeFile {bytes : List UInt8} (file : disk.named? path = some (.file bytes)) :
    (disk.removeFile path).locate path = .ok path.target :=
  locate_of_directories (at?_removeFile_of_directory file) (named?_eq_some_iff.mp file).1

theorem holds_removeFile {bytes : List UInt8} (file : disk.named? path = some (.file bytes)) :
    (disk.removeFile path).holds path = .ok false :=
  holds_of_free (locate_removeFile file) (at?_removeFile_target file)

theorem Writable.removeFile {other : Path} {bytes : List UInt8} (writable : disk.Writable path)
    (file : disk.named? other = some (.file bytes)) : (disk.removeFile other).Writable path := by
  rcases writable_iff.mp writable with ⟨located, free⟩
  refine writable_iff.mpr ⟨locate_of_directories (at?_removeFile_of_directory file) located, ?_⟩
  by_cases same : path.target = other.target
  · rw [same, at?_removeFile_target file]
    exact nofun
  · rw [at?_removeFile_of_ne same]
    exact free

theorem Writable.named?_removeFile_of_ne {other : Path} {bytes : List UInt8}
    (writable : disk.Writable path) (file : disk.named? other = some (.file bytes))
    (different : path.target ≠ other.target) :
    (disk.removeFile other).named? path = disk.named? path := by
  rw [named?_of_locate (writable_iff.mp (writable.removeFile file)).1,
    at?_removeFile_of_ne different, named?_of_locate (writable_iff.mp writable).1]

theorem Writable.named?_removeFile {other : Path} {bytes : List UInt8}
    (writable : disk.Writable path) (file : disk.named? other = some (.file bytes))
    (missing : disk.named? path = none) : (disk.removeFile other).named? path = none := by
  by_cases same : path.target = other.target
  · rw [named?_of_locate (writable_iff.mp (writable.removeFile file)).1, same,
      at?_removeFile_target file]
  · rw [writable.named?_removeFile_of_ne file same, missing]

theorem Writable.target_ne {other : Path} {bytes : List UInt8} (writable : disk.Writable path)
    (missing : disk.named? path = none) (file : disk.named? other = some (.file bytes)) :
    other.target ≠ path.target := by
  intro same
  have held := (named?_eq_some_iff.mp file).2
  rw [same, ← named?_of_locate (writable_iff.mp writable).1, missing] at held
  cases held

theorem holds_of_write_removeFile {other : Path} {bytes removed : List UInt8}
    (file : disk.named? other = some (.file removed)) (different : other.target ≠ path.target)
    (written : (disk.removeFile other).write path bytes = (.ok (), after)) :
    after.holds other = .ok false := by
  have located := locate_removeFile file
  rcases write_eq_ok_iff.mp written with ⟨_, _, free, same⟩
  have kept : after.locate other = .ok other.target := by
    rw [same]
    exact locate_of_directories (at?_put_of_directory (.file bytes) free) located
  apply holds_of_free kept
  rw [at?_write written, if_neg different, at?_removeFile_target file]

/-! ## Making directories -/

/-- Between two disks, places may only have become directories. -/
def GrowsTo (disk after : Disk) : Prop :=
  ∀ place, after.at? place = disk.at? place ∨ after.at? place = some .directory

theorem GrowsTo.refl (disk : Disk) : disk.GrowsTo disk :=
  fun _ => .inl rfl

theorem GrowsTo.trans {middle : Disk} (first : disk.GrowsTo middle)
    (later : middle.GrowsTo after) : disk.GrowsTo after := by
  intro place
  rcases later place with same | directory
  · rcases first place with before | directory
    · exact .inl (same.trans before)
    · exact .inr (same.trans directory)
  · exact .inr directory

theorem addDirectory_eq_ok (made : disk.addDirectory path = .ok after) :
    disk.GrowsTo after ∧ after.find path = .ok .directory := by
  unfold addDirectory at made
  split at made
  · rename_i place located
    have same := eq_target_of_locate located
    subst same
    split at made
    · rename_i free
      cases made
      have unused : disk.at? path.target ≠ some .directory := by simp [free]
      have put := at?_put disk .directory (names_ne_nil_of_free unused)
      constructor
      · intro place
        by_cases same : place = path.target
        · exact .inr (same ▸ put)
        · exact .inl (at?_put_of_ne disk .directory same)
      · exact find_eq_ok_iff.mpr
          ⟨locate_of_directories (at?_put_of_directory .directory unused) located, put⟩
    · rename_i directory
      cases made
      exact ⟨.refl disk, find_eq_ok_iff.mpr ⟨located, directory⟩⟩
    · cases made
  · cases made

theorem growsTo_addDirectories (disk : Disk) (paths : List Path) :
    disk.GrowsTo (disk.addDirectories paths).2 := by
  induction paths generalizing disk with
  | nil => exact .refl disk
  | cons path rest induction =>
    unfold addDirectories
    split
    · rename_i middle made
      exact (addDirectory_eq_ok made).1.trans (induction middle)
    · exact .refl disk

theorem find_of_addDirectories {paths : List Path}
    (made : disk.addDirectories (paths ++ [path]) = (.ok (), after)) :
    after.find path = .ok .directory := by
  induction paths generalizing disk with
  | nil =>
    rw [List.nil_append, addDirectories] at made
    split at made
    · rename_i last added
      cases made
      exact (addDirectory_eq_ok added).2
    · cases made
  | cons first rest induction =>
    rw [List.cons_append, addDirectories] at made
    split at made
    · exact induction made
    · cases made

theorem find_ne_missing (parts : path.parts = []) : disk.find path ≠ .error .missing := by
  have start : disk.at? (.start path) = some .directory := if_pos rfl
  unfold find locate
  rw [parts, follow]
  by_cases null : path.hasNull = true
  · simp [null]
  · by_cases short : path.size ≤ Path.maxSize <;> simp [null, short, start]

theorem ancestry_eq_append (parts : path.parts ≠ []) :
    ∃ above, path.ancestry = above ++ [path] := by
  rcases Nat.exists_eq_succ_of_ne_zero (mt List.length_eq_zero_iff.mp parts) with ⟨count, length⟩
  have whole : path.parts.take (count + 1) = path.parts := List.take_of_length_le (by omega)
  rw [Path.ancestry, length, List.range_succ, List.map_append]
  exact ⟨_, congrArg (_ ++ [·]) (congrArg (Path.mk path.anchor) whole)⟩

theorem growsTo_makeDirectory (disk : Disk) (path : Path) :
    disk.GrowsTo (disk.makeDirectory path).2 := by
  unfold makeDirectory
  split
  · exact .refl disk
  · exact .refl disk
  · exact growsTo_addDirectories disk path.ancestry
  · exact .refl disk

theorem find_of_makeDirectory (made : disk.makeDirectory path = (.ok (), after)) :
    after.find path = .ok .directory := by
  unfold makeDirectory at made
  split at made
  · rename_i directory
    cases made
    exact directory
  · cases made
  · rename_i missing
    have parts : path.parts ≠ [] := fun empty => find_ne_missing empty missing
    rcases ancestry_eq_append parts with ⟨above, split⟩
    rw [split] at made
    exact find_of_addDirectories made
  · cases made

theorem Writable.makeDirectory_parent (writable : disk.Writable path) :
    disk.makeDirectory path.parent = (.ok (), disk) := by
  rcases writable_iff.mp writable with ⟨located, free⟩
  have parts : path.parts ≠ [] := by
    intro empty
    have outer : path.target.names = [] := by rw [Path.target, empty]; rfl
    exact names_ne_nil_of_free free outer
  have directory := ((locate_iff_find_parent parts).mp located).2
  simp only [makeDirectory, directory]

/-- The file can be written once the directories that it lies in have been made. -/
def HasRoomFor (disk : Disk) (path : Path) : Prop :=
  ∃ files, disk.makeDirectory path.parent = (.ok (), files) ∧ files.Writable path

theorem Writable.hasRoomFor (writable : disk.Writable path) : disk.HasRoomFor path :=
  ⟨disk, writable.makeDirectory_parent, writable⟩

end Hotspot.Disk
