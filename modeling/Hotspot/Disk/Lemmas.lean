import Hotspot.Disk.Basic

namespace Hotspot.Disk

/-! What the operations on files leave in each place. A file that was written
reads back, under the path that it was written to, and the other places stay as
they were. -/

theorem at?_put (disk : Disk) {place : Place} (entry : Entry) (inside : place.names ≠ []) :
    (disk.put place entry).at? place = some entry := by
  simp [at?, put, inside]

theorem lookup_filter_of_ne {entries : List (Place × Entry)} {place other : Place}
    (different : other ≠ place) :
    (entries.filter (·.1 ≠ place)).lookup other = entries.lookup other := by
  induction entries with
  | nil => rfl
  | cons first rest induction =>
    obtain ⟨found, held⟩ := first
    by_cases removed : found = place
    · have skipped : (other == found) = false := by simp [removed, different]
      rw [List.filter_cons_of_neg (by simpa using removed), induction, List.lookup_cons, skipped]
    · rw [List.filter_cons_of_pos (by simpa using removed), List.lookup_cons, List.lookup_cons,
        induction]

theorem at?_put_of_ne (disk : Disk) {place other : Place} (entry : Entry)
    (different : other ≠ place) :
    (disk.put place entry).at? other = disk.at? other := by
  have unequal : (other == place) = false := by simp [different]
  simp only [at?, put, List.lookup_cons, unequal, lookup_filter_of_ne different]

theorem follow_of_directories {before after : Disk}
    (kept : ∀ place, before.at? place = some .directory → after.at? place = some .directory)
    {parts : List String} {start last : Place} (found : before.follow start parts = .ok last) :
    after.follow start parts = .ok last := by
  induction parts generalizing start with
  | nil => exact found
  | cons part rest induction =>
    unfold follow at found ⊢
    split at found
    · cases found
    · cases found
    · rename_i directory
      rw [kept start directory]
      split at found
      · rename_i climbs
        simpa [climbs] using induction found
      · rename_i stays
        split at found
        · rename_i short
          simpa [stays, short] using induction found
        · cases found

theorem locate_of_directories {before after : Disk}
    (kept : ∀ place, before.at? place = some .directory → after.at? place = some .directory)
    {path : Path} {place : Place} (found : before.locate path = .ok place) :
    after.locate path = .ok place := by
  unfold locate at found ⊢
  split at found
  · cases found
  · rename_i usable
    split at found
    · rename_i short
      simpa [usable, short] using follow_of_directories kept found
    · cases found

theorem at?_put_of_directory {disk : Disk} {place : Place} (entry : Entry)
    (free : disk.at? place ≠ some .directory) (other : Place)
    (directory : disk.at? other = some .directory) :
    (disk.put place entry).at? other = some .directory := by
  have different : other ≠ place := fun same => free (same ▸ directory)
  rw [at?_put_of_ne disk entry different, directory]

theorem find_of_write {disk after : Disk} {path : Path} {bytes : List UInt8}
    {fault : Option WriteFault} (written : disk.write path bytes fault = (.ok (), after)) :
    after.find path = .ok (.file bytes) := by
  unfold write at written
  split at written
  · rename_i place located
    split at written
    · cases written
    · rename_i free
      cases fault with
      | some fault => cases fault <;> cases written
      | none => ?_
      cases written
      have inside : place.names ≠ [] := fun outer => free (by simp [at?, outer])
      have again := locate_of_directories (at?_put_of_directory (.file bytes) free) located
      simp [find, again, at?_put disk _ inside]
  · cases written

theorem named?_of_write {disk after : Disk} {path : Path} {bytes : List UInt8}
    {fault : Option WriteFault} (written : disk.write path bytes fault = (.ok (), after)) :
    after.named? path = some (.file bytes) := by
  simp [named?, find_of_write written, Except.toOption]

end Hotspot.Disk
