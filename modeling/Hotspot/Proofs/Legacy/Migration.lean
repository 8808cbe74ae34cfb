import Hotspot.Legacy.Migration
import Hotspot.Proofs.Configuration.Mapping
import Hotspot.Proofs.Disk.Writing
import Hotspot.Proofs.Legacy.Records

/-! What a migration takes over, and what it leaves behind. A record is converted
exactly if its numbers are known and its channel is not negative, and what it asks for
is then always a configuration. A file goes only after its record has been converted, so
whatever cannot be used is still there afterwards. -/

namespace Hotspot.Legacy

/-! ## Records -/

section Numbers

variable {number : Int} {band : Band} {securityType : SecurityType}

theorem band?_eq_some_iff :
    band? number = some band ↔
      number = 0 ∧ band = .ghz2 ∨ number = 1 ∧ band = .ghz5 ∨ number = -1 ∧ band = .any := by
  unfold band?
  split_ifs with low high every
  · simp [low, eq_comm]
  · simp [high, eq_comm]
  · simp [every, eq_comm]
  · simp [low, high, every]

theorem securityType?_eq_some_iff :
    securityType? number = some securityType ↔
      number = 0 ∧ securityType = .openAccess ∨
        (number = 1 ∨ number = 4) ∧ securityType = .wpa2Psk := by
  unfold securityType?
  split_ifs with free keyed
  · simp [free, eq_comm]
  · rcases keyed with rfl | rfl <;> simp [eq_comm]
  · simp [free, keyed]

theorem exists_band?_iff : (∃ band, band? number = some band) ↔ number ∈ [-1, 0, 1] := by
  simp only [List.mem_cons, List.not_mem_nil, or_false]
  constructor
  · rintro ⟨band, known⟩
    rcases band?_eq_some_iff.mp known with ⟨low, _⟩ | ⟨high, _⟩ | ⟨every, _⟩
    · exact .inr (.inl low)
    · exact .inr (.inr high)
    · exact .inl every
  · rintro (rfl | rfl | rfl)
    · exact ⟨.any, rfl⟩
    · exact ⟨.ghz2, rfl⟩
    · exact ⟨.ghz5, rfl⟩

theorem exists_securityType?_iff :
    (∃ securityType, securityType? number = some securityType) ↔ number ∈ [0, 1, 4] := by
  simp only [List.mem_cons, List.not_mem_nil, or_false]
  constructor
  · rintro ⟨securityType, known⟩
    rcases securityType?_eq_some_iff.mp known with ⟨free, _⟩ | ⟨keyed, _⟩
    · exact .inl free
    · exact .inr keyed
  · rintro (rfl | rfl | rfl)
    · exact ⟨.openAccess, rfl⟩
    · exact ⟨.wpa2Psk, rfl⟩
    · exact ⟨.wpa2Psk, rfl⟩

theorem isNamed_of_band? (known : band? number = some band) : band.IsNamed := by
  rcases band?_eq_some_iff.mp known with ⟨_, rfl⟩ | ⟨_, rfl⟩ | ⟨_, rfl⟩ <;> decide

end Numbers

namespace Record

/-- The numbers of the record are known, and its channel is not negative. -/
structure IsConvertible (record : Record) : Prop where
  band : record.band ∈ [-1, 0, 1]
  authType : record.authType ∈ [0, 1, 4]
  channel : 0 ≤ record.channel

def settings (record : Record) (band : Band) (securityType : SecurityType) : Settings where
  ssid := some record.ssid
  securityType
  passphrase := if securityType.requiresPassphrase then record.passphrase else none
  band
  channel := if band.isSingle then record.channel else 0
  hiddenSsid := record.hidden

/-- The configuration is what becomes of the settings that the record asks for. -/
structure Describes (record : Record) (configuration : Configuration) : Prop where
  band : band? record.band = some configuration.band
  securityType : securityType? record.authType = some configuration.securityType
  settings : (record.settings configuration.band configuration.securityType).check =
    .ok configuration

/-- The entry is a file that begins with the record. -/
def IsIn (record : Record) (entry : Option Entry) : Prop :=
  ∃ bytes rest, entry = some (.file bytes) ∧ readRecord bytes = .ok (record, rest)

variable {record : Record} {configuration : Configuration} {entry : Option Entry}

theorem isConvertible_iff :
    record.IsConvertible ↔
      (∃ band, band? record.band = some band) ∧
        (∃ securityType, securityType? record.authType = some securityType) ∧
        0 ≤ record.channel := by
  rw [exists_band?_iff, exists_securityType?_iff]
  exact ⟨fun ⟨band, authType, channel⟩ => ⟨band, authType, channel⟩,
    fun ⟨band, authType, channel⟩ => ⟨band, authType, channel⟩⟩

theorem channelOn_toNat (band : Band) {channel : Int} (positive : 0 ≤ channel) :
    (channelOn band channel.toNat : Int) = if band.isSingle then channel else 0 := by
  unfold channelOn
  split
  · exact Int.toNat_of_nonneg positive
  · rfl

theorem configuration_cases (record : Record) :
    (record.IsConvertible ∧
        ∃ configuration, record.configuration = .ok configuration ∧
          record.Describes configuration) ∨
      (¬record.IsConvertible ∧
        ∃ error ∈ [.unknownBand record.band, .unsupportedAuth record.authType,
            .invalidChannel record.channel],
          record.configuration = .error error) := by
  rw [isConvertible_iff]
  unfold configuration
  cases band : band? record.band with
  | none => exact .inr ⟨by simp, _, by simp, rfl⟩
  | some selected =>
    cases securityType : securityType? record.authType with
    | none => exact .inr ⟨by simp, _, by simp, rfl⟩
    | some protection =>
      by_cases negative : record.channel < 0
      · exact .inr ⟨by simp [negative], _, by simp, if_pos negative⟩
      · have channel : 0 ≤ record.channel := Int.not_lt.mp negative
        refine .inl ⟨by simp [channel], _, if_neg negative, band, securityType, ?_⟩
        rw [Configuration.check_eq_ok_iff]
        simp only [Configuration.settings, settings, channelOn_toNat selected channel]
        rfl

namespace Describes

theorem settings_eq (describes : record.Describes configuration) :
    configuration.settings =
      record.settings configuration.band configuration.securityType :=
  (Configuration.check_eq_ok_iff.mp describes.settings).symm

theorem channel_eq (describes : record.Describes configuration) :
    (configuration.channel : Int) = if configuration.band = .any then 0 else record.channel := by
  have channel := congrArg Settings.channel describes.settings_eq
  rcases band?_eq_some_iff.mp describes.band with ⟨_, band⟩ | ⟨_, band⟩ | ⟨_, band⟩ <;>
    rw [band] at channel ⊢ <;> exact channel

theorem passphrase_eq_none_iff (describes : record.Describes configuration)
    (within : record.IsIn entry) :
    configuration.passphrase = none ↔ configuration.securityType = .openAccess := by
  have passphrase := congrArg Settings.passphrase describes.settings_eq
  rcases securityType?_eq_some_iff.mp describes.securityType with
    ⟨_, securityType⟩ | ⟨keyed, securityType⟩
  · rw [securityType] at passphrase ⊢
    exact iff_of_true passphrase rfl
  · have present : record.authType ≠ 0 := by omega
    rcases within with ⟨_, _, _, read⟩
    rcases readRecord_eq_ok_iff.mp read with ⟨_, spells, _⟩
    rcases spells.exists_passphrase present with ⟨text, given, _⟩
    rw [securityType] at passphrase ⊢
    have kept : configuration.passphrase = some text := passphrase.trans given
    rw [kept]
    exact iff_of_false nofun nofun

end Describes

end Record

/-! ## Files -/

variable {entry : Option Entry} {record : Record} {configuration : Configuration} {disk : Disk}
  {path : Path}

theorem recordOf_eq_ok_iff : recordOf entry = .ok record ↔ record.IsIn entry := by
  constructor
  · intro found
    unfold recordOf at found
    split at found
    · rename_i bytes
      cases read : readRecord bytes with
      | error error =>
        rw [read] at found
        cases found
      | ok answer =>
        rw [read] at found
        cases found
        exact ⟨bytes, answer.2, rfl, read⟩
    · cases found
  · rintro ⟨bytes, rest, rfl, read⟩
    rw [recordOf, read]
    rfl

theorem configurationOf?_eq_some_iff :
    configurationOf? entry = some configuration ↔
      ∃ record : Record, record.IsIn entry ∧ record.configuration = .ok configuration := by
  simp only [← recordOf_eq_ok_iff, configurationOf?]
  cases found : recordOf entry with
  | error error => simp
  | ok record => cases converts : record.configuration <;> simp [converts, Except.toOption]

theorem exists_file_of_configurationOf? (found : configurationOf? entry = some configuration) :
    ∃ bytes, entry = some (.file bytes) := by
  rcases configurationOf?_eq_some_iff.mp found with ⟨_, ⟨bytes, _, file, _⟩, _⟩
  exact ⟨bytes, file⟩

theorem describes_of_configurationOf? (found : configurationOf? entry = some configuration) :
    ∃ record : Record, record.IsIn entry ∧ record.IsConvertible ∧
      record.Describes configuration := by
  rcases configurationOf?_eq_some_iff.mp found with ⟨record, read, converts⟩
  refine ⟨record, read, ?_⟩
  rcases record.configuration_cases with
    ⟨convertible, other, same, describes⟩ | ⟨_, error, _, failed⟩
  · rw [converts] at same
    cases same
    exact ⟨convertible, describes⟩
  · rw [converts] at failed
    cases failed

theorem isNamed_of_configurationOf? (found : configurationOf? entry = some configuration) :
    configuration.band.IsNamed := by
  rcases describes_of_configurationOf? found with ⟨record, _, _, describes⟩
  exact isNamed_of_band? describes.band

theorem isSome_configurationOf?_iff :
    (configurationOf? entry).isSome ↔
      ∃ record : Record, record.IsIn entry ∧ record.IsConvertible := by
  constructor
  · intro present
    rcases Option.isSome_iff_exists.mp present with ⟨configuration, found⟩
    rcases describes_of_configurationOf? found with ⟨record, read, convertible, _⟩
    exact ⟨record, read, convertible⟩
  · rintro ⟨record, read, convertible⟩
    rcases record.configuration_cases with ⟨_, configuration, converts, _⟩ | ⟨unconvertible, _⟩
    · exact Option.isSome_iff_exists.mpr
        ⟨configuration, configurationOf?_eq_some_iff.mpr ⟨record, read, converts⟩⟩
    · exact absurd convertible unconvertible

theorem migrate_cases (disk : Disk) (path : Path) :
    (∃ configuration bytes, configurationOf? (disk.named? path) = some configuration ∧
        disk.named? path = some (.file bytes) ∧
        migrate disk path true = (some configuration, disk.removeFile path)) ∨
      (configurationOf? (disk.named? path) = none ∧ migrate disk path true = (none, disk)) := by
  cases found : configurationOf? (disk.named? path) with
  | none => exact .inr ⟨rfl, by simp [migrate, found]⟩
  | some configuration =>
    rcases exists_file_of_configurationOf? found with ⟨bytes, file⟩
    exact .inl ⟨configuration, bytes, rfl, file, by simp [migrate, found]⟩

theorem migrateFrom_eq (disk : Disk) (path : Path) (removable : Bool) :
    migrateFrom disk path removable =
      (disk.holds path).map fun _ => migrate disk path removable := by
  unfold migrateFrom
  cases told : disk.holds path with
  | error error => rfl
  | ok present =>
    cases present with
    | true => rfl
    | false =>
      have nothing : migrate disk path removable = (none, disk) := by
        rw [migrate, Disk.named?_of_holds told]
        rfl
      simp only [nothing, Except.map]

theorem taken_of_migrate {taken : Option Configuration} {after : Disk} {removable : Bool}
    (migrated : migrate disk path removable = (taken, after)) :
    configurationOf? (disk.named? path) = taken := by
  unfold migrate at migrated
  split at migrated
  · rename_i configuration found
    cases migrated
    exact found
  · rename_i found
    cases migrated
    exact found

theorem files_of_migrate {taken : Option Configuration} {after : Disk} {removable : Bool}
    (migrated : migrate disk path removable = (taken, after)) :
    (after.holds path = .ok false ↔
        (taken.isSome ∧ removable) ∨ disk.holds path = .ok false) ∧
      (¬(taken.isSome ∧ removable) → after = disk) ∧
      ∀ place ≠ path.target, after.at? place = disk.at? place := by
  unfold migrate at migrated
  split at migrated
  · rename_i configuration found
    cases migrated
    cases removable with
    | true =>
      rcases exists_file_of_configurationOf? found with ⟨bytes, file⟩
      have gone := Disk.holds_removeFile file
      refine ⟨iff_of_true gone (.inl ⟨rfl, rfl⟩), fun stays => absurd ⟨rfl, rfl⟩ stays, ?_⟩
      exact fun place different => Disk.at?_removeFile_of_ne different
    | false => simp
  · cases migrated
    simp

/-- A migration is refused for no path that a file can have. It takes over a configuration
exactly from a file that begins with a convertible record, and nothing but that file is
removed. What is taken over is what the record asks for, and that is always a configuration,
so a record is refused for nothing but its numbers. -/
theorem migration_removes_converted (disk : Disk) (path : Path) (removable : Bool) :
    ((migrateFrom disk path removable = .error .tooLong ∧ ¬path.IsUsable) ∨
      ∃ taken after, migrateFrom disk path removable = .ok (taken, after) ∧
        (taken.isSome ↔
          ∃ record : Record, record.IsIn (disk.named? path) ∧ record.IsConvertible) ∧
        (∀ configuration ∈ taken, ∃ record : Record, record.IsIn (disk.named? path) ∧
          record.Describes configuration ∧
          (configuration.passphrase = none ↔ configuration.securityType = .openAccess) ∧
          (configuration.channel : Int) =
            if configuration.band = .any then 0 else record.channel) ∧
        (after.holds path = .ok false ↔
          (taken.isSome ∧ removable) ∨ disk.holds path = .ok false) ∧
        (¬(taken.isSome ∧ removable) → after = disk) ∧
        ∀ place ≠ path.target, after.at? place = disk.at? place) ∧
    ∀ record : Record,
      (record.IsConvertible ∧
          ∃ configuration, record.configuration = .ok configuration ∧
            record.Describes configuration) ∨
        (¬record.IsConvertible ∧
          ∃ error ∈ [.unknownBand record.band, .unsupportedAuth record.authType,
              .invalidChannel record.channel],
            record.configuration = .error error) := by
  refine ⟨?_, Record.configuration_cases⟩
  rw [migrateFrom_eq]
  cases told : disk.holds path with
  | error error =>
    rcases Disk.error_of_holds told with ⟨rfl, unusable⟩
    exact .inl ⟨rfl, unusable⟩
  | ok present =>
    rcases migrated : migrate disk path removable with ⟨taken, after⟩
    have found := taken_of_migrate migrated
    have files := files_of_migrate migrated
    rw [told] at files
    refine .inr ⟨taken, after, rfl, ?_, ?_, files⟩
    · rw [← isSome_configurationOf?_iff, found]
    · rintro configuration ⟨⟩
      rcases describes_of_configurationOf? found with ⟨record, within, _, describes⟩
      exact ⟨record, within, describes, describes.passphrase_eq_none_iff within,
        describes.channel_eq⟩

example :
    configurationOf? (some (.file
        [0, 0, 0, 2, 0, 2, 65, 80, 255, 255, 255, 255, 0, 0, 0, 11, 0, 0, 0, 4, 0, 1, 66])) =
      some { ssid := some "AP", securityType := .wpa2Psk, passphrase := some "B", band := .any } := by
  decide +kernel

end Hotspot.Legacy
