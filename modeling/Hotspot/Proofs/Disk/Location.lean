import Hotspot.Disk.Lemmas

/-! Where paths lead. Which place that is depends on the path alone; the files
only decide whether the path can be followed to it. A path can be followed as
soon as the directory that it lies in exists, unless it is too long itself. -/

namespace Hotspot

def Place.along (place : Place) (part : String) : Place :=
  if part = Path.climb then place.up else place.child part

namespace Place

theorem length_names_up_le (place : Place) : place.up.names.length ≤ place.names.length := by
  unfold up
  split
  · exact Nat.zero_le _
  · simp

theorem child_ne_along {place : Place} {name part : String} (different : name ≠ part) :
    place.child name ≠ place.along part := by
  intro same
  have names := congrArg Place.names same
  unfold along at names
  split at names
  · have shorter := place.length_names_up_le
    rw [← names] at shorter
    exact absurd shorter (by simp [child])
  · exact different (by simpa [child] using names)

end Place

namespace Path

def target (path : Path) : Place :=
  path.parts.foldl Place.along (.start path)

def IsShort (part : String) : Prop :=
  part = climb ∨ part.utf8ByteSize ≤ maxNameSize

/-- Nothing in the spelling of the path keeps it from being followed. -/
structure IsUsable (path : Path) : Prop where
  noNull : path.hasNull = false
  size : path.size ≤ maxSize
  short : ∀ part ∈ path.parts, IsShort part

theorem parts_eq_parent_append {path : Path} (parts : path.parts ≠ []) :
    ∃ name, path.parts = path.parent.parts ++ [name] := by
  rcases List.eq_nil_or_concat path.parts with empty | ⟨front, name, split⟩
  · exact absurd empty parts
  · exact ⟨name, by simp [parent, split]⟩

theorem parent_of_withName? {path other : Path} {name : String}
    (renamed : path.withName? name = some other) : other.parent = path.parent := by
  unfold withName? at renamed
  split at renamed
  · cases renamed
  · cases renamed
    simp [parent]

theorem target_ne_of_withName? {path other : Path} {name : String}
    (renamed : path.withName? name = some other) (stays : name ≠ climb)
    (different : other ≠ path) : other.target ≠ path.target := by
  unfold withName? at renamed
  split at renamed
  · cases renamed
  · rename_i nonempty
    cases renamed
    have parts : path.parts ≠ [] := fun empty => nonempty (by rw [empty]; rfl)
    rcases parts_eq_parent_append parts with ⟨last, split⟩
    have others : name ≠ last := by
      rintro rfl
      exact different (congrArg (Path.mk path.anchor) split.symm)
    let above : Place := path.parent.parts.foldl Place.along (.start path)
    have old : path.target = above.along last := by
      rw [target, split, List.foldl_append]
      rfl
    have new : above.along name = above.child name := if_neg stays
    rw [old, target, List.foldl_append]
    change above.along name ≠ above.along last
    rw [new]
    exact Place.child_ne_along others

theorem usable_parent {path : Path} {name : String}
    (split : path.parts = path.parent.parts ++ [name]) (noNull : path.hasNull = false)
    (short : path.size ≤ maxSize) :
    path.parent.hasNull = false ∧ path.parent.size ≤ maxSize := by
  rw [hasNull, split, List.any_append, Bool.or_eq_false_iff] at noNull
  rw [size, split, List.foldl_append] at short
  exact ⟨noNull.1, Nat.le_trans (by rw [size]; simp [parent]; omega) short⟩

end Path

namespace Disk

variable {disk : Disk} {place last : Place} {path : Path}

/-! ## Following paths -/

theorem follow_cons_eq_ok_iff {part : String} {rest : List String} :
    disk.follow place (part :: rest) = .ok last ↔
      disk.at? place = some .directory ∧ Path.IsShort part ∧
        disk.follow (place.along part) rest = .ok last := by
  rw [follow]
  split
  · rename_i missing
    simp [missing]
  · rename_i file
    simp [file]
  · rename_i directory
    rw [Place.along, Path.IsShort]
    by_cases climbs : part = Path.climb
    · simp [climbs, directory]
    · by_cases short : part.utf8ByteSize ≤ Path.maxNameSize <;> simp [climbs, short, directory]

theorem eq_of_follow {parts : List String} (found : disk.follow place parts = .ok last) :
    last = parts.foldl Place.along place := by
  induction parts generalizing place with
  | nil => exact (Except.ok.inj found).symm
  | cons part rest induction => exact induction (follow_cons_eq_ok_iff.mp found).2.2

theorem follow_append_eq_ok_iff {front rest : List String} :
    disk.follow place (front ++ rest) = .ok last ↔
      ∃ middle, disk.follow place front = .ok middle ∧ disk.follow middle rest = .ok last := by
  induction front generalizing place with
  | nil => simp [follow]
  | cons part front induction =>
    rw [List.cons_append, follow_cons_eq_ok_iff, induction]
    constructor
    · rintro ⟨directory, short, middle, first, later⟩
      exact ⟨middle, follow_cons_eq_ok_iff.mpr ⟨directory, short, first⟩, later⟩
    · rintro ⟨middle, first, later⟩
      rcases follow_cons_eq_ok_iff.mp first with ⟨directory, short, rest⟩
      exact ⟨directory, short, middle, rest, later⟩

theorem isShort_of_follow {parts : List String} (found : disk.follow place parts = .ok last) :
    ∀ part ∈ parts, Path.IsShort part := by
  induction parts generalizing place with
  | nil => exact nofun
  | cons part rest induction =>
    rcases follow_cons_eq_ok_iff.mp found with ⟨_, short, found⟩
    intro other member
    rcases List.mem_cons.mp member with rfl | member
    · exact short
    · exact induction found other member

theorem locate_eq_ok_iff :
    disk.locate path = .ok place ↔
      path.hasNull = false ∧ path.size ≤ Path.maxSize ∧
        disk.follow (.start path) path.parts = .ok place := by
  unfold locate
  cases null : path.hasNull with
  | true => simp
  | false => by_cases short : path.size ≤ Path.maxSize <;> simp [short]

theorem eq_target_of_locate (located : disk.locate path = .ok place) : place = path.target :=
  eq_of_follow (locate_eq_ok_iff.mp located).2.2

theorem isUsable_of_locate (located : disk.locate path = .ok place) : path.IsUsable := by
  rcases locate_eq_ok_iff.mp located with ⟨noNull, size, found⟩
  exact ⟨noNull, size, isShort_of_follow found⟩

theorem find_eq_ok_iff {entry : Entry} :
    disk.find path = .ok entry ↔
      disk.locate path = .ok path.target ∧ disk.at? path.target = some entry := by
  unfold find
  split
  · rename_i place located
    have same := eq_target_of_locate located
    subst same
    split <;> rename_i found <;> simp [located, found]
  · rename_i error unlocated
    simp [unlocated]

theorem named?_eq_some_iff {entry : Entry} :
    disk.named? path = some entry ↔
      disk.locate path = .ok path.target ∧ disk.at? path.target = some entry := by
  rw [← find_eq_ok_iff, named?]
  cases disk.find path <;> simp [Except.toOption]

theorem named?_of_locate (located : disk.locate path = .ok place) :
    disk.named? path = disk.at? path.target := by
  have same := eq_target_of_locate located
  subst same
  simp only [named?, find, located]
  cases disk.at? path.target <;> rfl

theorem named?_of_holds (missing : disk.holds path = .ok false) : disk.named? path = none := by
  unfold holds at missing
  rw [named?]
  cases found : disk.find path with
  | ok entry => simp [found] at missing
  | error error => rfl

theorem named?_of_holds_eq_error {error : PathError} (failed : disk.holds path = .error error) :
    disk.named? path = none := by
  unfold holds at failed
  rw [named?]
  cases found : disk.find path with
  | ok entry => simp [found] at failed
  | error error => rfl

theorem holds_of_free (located : disk.locate path = .ok path.target)
    (free : disk.at? path.target = none) : disk.holds path = .ok false := by
  simp only [holds, find, located, free]

/-- A path can be followed exactly if its spelling allows it and the directory
that it lies in exists. -/
theorem locate_iff_find_parent (parts : path.parts ≠ []) :
    disk.locate path = .ok path.target ↔
      path.IsUsable ∧ disk.find path.parent = .ok .directory := by
  rcases Path.parts_eq_parent_append parts with ⟨name, split⟩
  constructor
  · intro located
    have usable := isUsable_of_locate located
    have found := (locate_eq_ok_iff.mp located).2.2
    rw [split, follow_append_eq_ok_iff] at found
    rcases found with ⟨middle, first, rest⟩
    have above := Path.usable_parent split usable.noNull usable.size
    have parent : disk.locate path.parent = .ok middle :=
      locate_eq_ok_iff.mpr ⟨above.1, above.2, first⟩
    have same := eq_target_of_locate parent
    subst same
    exact ⟨usable, find_eq_ok_iff.mpr ⟨parent, (follow_cons_eq_ok_iff.mp rest).1⟩⟩
  · rintro ⟨usable, present⟩
    rcases find_eq_ok_iff.mp present with ⟨located, directory⟩
    have first := (locate_eq_ok_iff.mp located).2.2
    have short : Path.IsShort name := usable.short name (by simp [split])
    have found : disk.follow (.start path) path.parts = .ok (path.parent.target.along name) := by
      rw [split, follow_append_eq_ok_iff]
      exact ⟨_, first, follow_cons_eq_ok_iff.mpr ⟨directory, short, rfl⟩⟩
    rw [locate_eq_ok_iff, found]
    exact ⟨usable.noNull, usable.size, congrArg _ (eq_of_follow found)⟩

/-- Short parts are only not followed where a directory is missing. -/
theorem error_of_follow {parts : List String} {error : PathError}
    (short : ∀ part ∈ parts, Path.IsShort part)
    (failed : disk.follow place parts = .error error) :
    error = .missing ∨ error = .notDirectory := by
  induction parts generalizing place with
  | nil => cases failed
  | cons part rest induction =>
    have later : ∀ part ∈ rest, Path.IsShort part :=
      fun other member => short other (List.mem_cons_of_mem part member)
    unfold follow at failed
    split at failed
    · exact .inl (Except.error.inj failed).symm
    · exact .inr (Except.error.inj failed).symm
    · split at failed
      · exact induction later failed
      · rename_i stays
        have fits := (short part List.mem_cons_self).resolve_left stays
        rw [if_pos fits] at failed
        exact induction later failed

theorem error_of_locate {error : PathError} (usable : path.IsUsable)
    (failed : disk.locate path = .error error) : error = .missing ∨ error = .notDirectory := by
  rw [locate, usable.noNull, if_neg Bool.false_ne_true, if_pos usable.size] at failed
  exact error_of_follow usable.short failed

theorem holds_of_isUsable (disk : Disk) (usable : path.IsUsable) :
    ∃ present, disk.holds path = .ok present := by
  cases located : disk.locate path with
  | ok place =>
    simp only [holds, find, located]
    cases disk.at? place with
    | none => exact ⟨_, rfl⟩
    | some entry => exact ⟨_, rfl⟩
  | error error =>
    simp only [holds, find, located]
    rcases error_of_locate usable located with rfl | rfl <;> exact ⟨_, rfl⟩

theorem error_of_holds {error : PathError} (failed : disk.holds path = .error error) :
    error = .tooLong ∧ ¬path.IsUsable := by
  constructor
  · unfold holds at failed
    split at failed
    · cases failed
    · exact (Except.error.inj failed).symm
    · cases failed
  · intro usable
    rcases disk.holds_of_isUsable usable with ⟨present, told⟩
    rw [told] at failed
    cases failed

end Disk

end Hotspot
