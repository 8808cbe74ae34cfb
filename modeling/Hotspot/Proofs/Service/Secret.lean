import Hotspot.Proofs.Legacy.Records
import Hotspot.Proofs.Session.Opening
import Hotspot.Proofs.Text.Hex
import Hotspot.Service.Launch

/-! The secret of a device. A file that spells a secret is read and left alone. Any other
file is written anew, once, since what is written spells the secret that was made. -/

namespace Hotspot.Launch

variable {disk after : Disk} {path : Path} {kept : List UInt8} {entry : Option Entry}

/-- The file spells the secret: it is a text in which, but for blanks at its ends, there are
the hexadecimal digits of one byte at least. -/
inductive IsKeptIn (kept : List UInt8) : Option Entry → Prop
  | file {bytes : List UInt8} {text : List Char} :
      Text.decodeUtf8? bytes = some text → Text.bytesOfHex? (Text.trim text) = some kept →
      kept ≠ [] → IsKeptIn kept (some (.file bytes))

theorem storedSecret?_eq_some_iff : storedSecret? entry = some kept ↔ IsKeptIn kept entry := by
  constructor
  · intro read
    unfold storedSecret? at read
    split at read
    · rcases Option.bind_eq_some_iff.mp read with ⟨text, spelled, read⟩
      rcases Option.bind_eq_some_iff.mp read with ⟨found, digits, read⟩
      dsimp only at read
      split at read
      · cases read
      · rename_i filled
        cases read
        exact .file spelled digits (mt List.isEmpty_iff.mpr filled)
    · cases read
  · rintro ⟨spelled, digits, filled⟩
    simp [storedSecret?, spelled, digits, filled]

theorem storedSecret?_eq_none_iff :
    storedSecret? entry = none ↔ ∀ kept, ¬IsKeptIn kept entry := by
  rw [Option.eq_none_iff_forall_ne_some]
  exact forall_congr' fun kept => not_congr storedSecret?_eq_some_iff

theorem IsKeptIn.ne_nil (spelled : IsKeptIn kept entry) : kept ≠ [] := by
  cases spelled with
  | file _ _ filled => exact filled

theorem IsKeptIn.exists_file (spelled : IsKeptIn kept entry) :
    ∃ bytes, entry = some (.file bytes) := by
  cases spelled
  exact ⟨_, rfl⟩

theorem IsKeptIn.writable (spelled : IsKeptIn kept (disk.named? path)) : disk.Writable path := by
  rcases spelled.exists_file with ⟨bytes, file⟩
  exact Disk.writable_of_file file

theorem isKeptIn_hexOfBytes (filled : kept ≠ []) :
    IsKeptIn kept (some (.file (Text.encodeUtf8 (Text.hexOfBytes kept)))) := by
  refine .file (Text.decodeUtf8?_encodeUtf8 _) ?_ filled
  rw [Text.trim_hexOfBytes, Text.bytesOfHex?_hexOfBytes]

/-! ## Fresh secrets -/

theorem length_freshSecret (token : List UInt8) : (freshSecret token).length = secretLength := by
  rw [freshSecret, List.length_take, List.length_append, List.length_replicate]
  exact Nat.min_eq_left (Nat.le_add_left _ _)

theorem freshSecret_ne_nil (token : List UInt8) : freshSecret token ≠ [] := by
  have length := length_freshSecret token
  intro empty
  rw [empty] at length
  cases length

theorem freshSecret_eq_self {token : List UInt8} (length : token.length = secretLength) :
    freshSecret token = token := by
  rw [freshSecret, ← length, List.take_left]

/-! ## Reading and making -/

theorem secret_of_isKeptIn (spelled : IsKeptIn kept (disk.named? path)) (token : List UInt8) :
    secret disk path token = (.ok kept, disk) := by
  have stored := storedSecret?_eq_some_iff.mpr spelled
  unfold secret
  split
  · rename_i failed
    rw [Disk.named?_of_holds_eq_error failed] at spelled
    cases spelled
  · simp only [stored]

theorem isKeptIn_of_secret {token : List UInt8}
    (gives : secret disk path token = (.ok kept, after)) : IsKeptIn kept (after.named? path) := by
  unfold secret at gives
  split at gives
  · cases gives
  · split at gives
    · rename_i stored
      cases gives
      exact storedSecret?_eq_some_iff.mp stored
    · unfold makeSecret at gives
      split at gives
      · cases gives
      · dsimp only at gives
        split at gives
        · rename_i written
          cases gives
          rw [Disk.named?_of_write written]
          exact isKeptIn_hexOfBytes (freshSecret_ne_nil token)
        · cases gives

theorem secret_of_not_isKeptIn (room : disk.HasRoomFor path)
    (unusable : ∀ kept, ¬IsKeptIn kept (disk.named? path)) (token : List UInt8) :
    ∃ after, secret disk path token = (.ok (freshSecret token), after) := by
  rcases room with ⟨files, made, writable⟩
  rcases disk.holds_of_isUsable writable.isUsable with ⟨present, told⟩
  rcases writable (Text.encodeUtf8 (Text.hexOfBytes (freshSecret token))) with ⟨after, written⟩
  refine ⟨after, ?_⟩
  simp only [secret, told, storedSecret?_eq_none_iff.mpr unusable, makeSecret, made, written]

/-- There is a secret afterwards, and its file spells it. Either it was there before, or what
was there spelled none. -/
theorem exists_secret (room : disk.HasRoomFor path) (token : List UInt8) :
    ∃ kept after, secret disk path token = (.ok kept, after) ∧
      IsKeptIn kept (after.named? path) ∧
      (IsKeptIn kept (disk.named? path) ∧ after = disk ∨
        (∀ other, ¬IsKeptIn other (disk.named? path)) ∧ kept = freshSecret token) := by
  by_cases usable : ∃ kept, IsKeptIn kept (disk.named? path)
  · rcases usable with ⟨kept, spelled⟩
    exact ⟨kept, disk, secret_of_isKeptIn spelled token, spelled, .inl ⟨spelled, rfl⟩⟩
  · have unusable : ∀ kept, ¬IsKeptIn kept (disk.named? path) :=
      fun kept spelled => usable ⟨kept, spelled⟩
    rcases secret_of_not_isKeptIn room unusable token with ⟨after, gives⟩
    exact ⟨freshSecret token, after, gives, isKeptIn_of_secret gives, .inr ⟨unusable, rfl⟩⟩

/-! ## Other files -/

theorem makeSecret_keeps {path other : Path} (writable : disk.Writable path)
    (beside : other.parent = path.parent) (different : other.target ≠ path.target)
    (token : List UInt8) :
    (makeSecret disk other token).2.Writable path ∧
      (makeSecret disk other token).2.named? path = disk.named? path := by
  have made : disk.makeDirectory other.parent = (.ok (), disk) := by
    rw [beside]
    exact writable.makeDirectory_parent
  simp only [makeSecret, made]
  split
  · rename_i after written
    exact writable.write_of_ne written different
  · rename_i failed
    rw [Disk.eq_of_write_error failed]
    exact ⟨writable, rfl⟩

theorem secret_keeps {path other : Path} (writable : disk.Writable path)
    (beside : other.parent = path.parent) (different : other.target ≠ path.target)
    (token : List UInt8) :
    (secret disk other token).2.Writable path ∧
      (secret disk other token).2.named? path = disk.named? path := by
  unfold secret
  split
  · exact ⟨writable, rfl⟩
  · split
    · exact ⟨writable, rfl⟩
    · exact makeSecret_keeps writable beside different token

/-! ## Legacy configurations -/

theorem IsKeptIn.configurationOf?_eq_none (spelled : IsKeptIn kept entry) :
    Legacy.configurationOf? entry = none := by
  cases spelled with
  | @file bytes _ text digits _ =>
    cases read : Legacy.readRecord bytes with
    | error error => simp only [Legacy.configurationOf?, Legacy.recordOf, read, Except.map]
    | ok result =>
      exact absurd (Legacy.head?_of_readRecord read)
        (Text.head?_ne_zero_of_bytesOfHex? text digits)

/-- A migration leaves the secret alone, since it removes nothing but legacy records. -/
theorem IsKeptIn.migrate (spelled : IsKeptIn kept (disk.named? path)) (legacy : Path) :
    IsKeptIn kept ((Legacy.migrate disk legacy true).2.named? path) := by
  rcases Legacy.migrate_cases disk legacy with
    ⟨configuration, bytes, found, file, migrates⟩ | ⟨_, migrates⟩
  · have different : path.target ≠ legacy.target := by
      intro same
      rcases Disk.named?_eq_some_iff.mp file with ⟨_, held⟩
      have located := (Disk.writable_iff.mp spelled.writable).1
      rw [Disk.named?_of_locate located, same, held, ← file] at spelled
      rw [spelled.configurationOf?_eq_none] at found
      cases found
    rw [migrates]
    dsimp only
    rw [spelled.writable.named?_removeFile_of_ne file different]
    exact spelled
  · rw [migrates]
    exact spelled

theorem isBare_makeSecret {source : Option Path} (bare : Legacy.IsBare source disk) (path : Path)
    (token : List UInt8) : Legacy.IsBare source (makeSecret disk path token).2 := by
  have grown := bare.growsTo (Disk.growsTo_makeDirectory disk path.parent)
  unfold makeSecret
  split
  · rename_i made
    rwa [made] at grown
  · rename_i made
    rw [made] at grown
    dsimp only
    split
    · rename_i written
      exact grown.write written
        (isKeptIn_hexOfBytes (freshSecret_ne_nil token)).configurationOf?_eq_none
    · rename_i failed
      rw [Disk.eq_of_write_error failed]
      exact grown

theorem isBare_secret {source : Option Path} (bare : Legacy.IsBare source disk) (path : Path)
    (token : List UInt8) : Legacy.IsBare source (secret disk path token).2 := by
  unfold secret
  split
  · exact bare
  · split
    · exact bare
    · exact isBare_makeSecret bare path token

end Hotspot.Launch
