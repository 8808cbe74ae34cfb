import Hotspot.Proofs.Legacy.Migration
import Hotspot.Proofs.Session.Events

/-! How a session begins. A new engine finds the files as the former one left
them, a new store may take over a legacy configuration, and the first load
decides whether the document or the store has its way. -/

namespace Hotspot

/-! ## Legacy files -/

namespace Legacy

def IsBare (source : Option Path) (disk : Disk) : Prop :=
  ∀ path ∈ source, configurationOf? (disk.at? path.target) = none

variable {disk after : Disk} {path : Path} {source : Option Path}

theorem configurationOf?_named? (nothing : configurationOf? (disk.at? path.target) = none) :
    configurationOf? (disk.named? path) = none := by
  cases found : disk.named? path with
  | none => rfl
  | some entry => rwa [(Disk.named?_eq_some_iff.mp found).2] at nothing

theorem IsBare.growsTo (bare : IsBare source disk) (grows : disk.GrowsTo after) :
    IsBare source after := by
  intro path known
  rcases grows path.target with same | directory
  · rw [same]
    exact bare path known
  · rw [directory]
    rfl

theorem IsBare.write (bare : IsBare source disk) {bytes : List UInt8}
    (written : disk.write path bytes = (.ok (), after))
    (foreign : configurationOf? (some (.file bytes)) = none) : IsBare source after := by
  intro other known
  rw [Disk.at?_write written]
  split
  · exact foreign
  · exact bare other known

end Legacy

/-! ## Engines and stores -/

namespace Setup

variable {setup : Setup} {memory : Memory} {document : Document} {store : Store Document}

/-- A new engine finds the files as the former one left them, but for the
directories that it makes. -/
theorem boot_cases (setup : Setup) (disk : Disk) (draws : Draws) :
    ∃ after, disk.GrowsTo after ∧ (setup.boot disk draws).2 = after ∧
      ∀ memory, (setup.boot disk draws).1 = .ok memory →
        memory = .booted { disk := after, path := setup.path } draws 0 ∧
          after.find setup.path.parent = .ok .directory := by
  refine ⟨_, Disk.growsTo_makeDirectory disk setup.path.parent, rfl, ?_⟩
  intro memory booted
  simp only [boot, Document.boot] at booted
  cases made : (disk.makeDirectory setup.path.parent).1 with
  | error error => simp [made, Except.map] at booted
  | ok =>
    simp only [made, Except.map, Except.ok.injEq] at booted
    exact ⟨booted.symm, Disk.find_of_makeDirectory (Prod.ext made rfl)⟩

theorem boot_of_makeDirectory {disk : Disk}
    (made : disk.makeDirectory setup.path.parent = (.ok (), disk)) (draws : Draws) :
    setup.boot disk draws = (.ok (.booted { disk, path := setup.path } draws 0), disk) := by
  simp only [boot, Document.boot, made, Except.map]

theorem boot_of_writable {disk : Disk} (writable : disk.Writable setup.path) (draws : Draws) :
    setup.boot disk draws = (.ok (.booted { disk, path := setup.path } draws 0), disk) :=
  boot_of_makeDirectory writable.makeDirectory_parent draws

theorem takeOver_cases {takenOver : Option Configuration} {after : Document}
    (taken : setup.takeOver document = .ok (takenOver, after)) :
    (takenOver = none ∧ after = document) ∨
      ∃ legacy disk, setup.legacy = some legacy ∧
        Legacy.migrate document.disk legacy true = (takenOver, disk) ∧
        after = { document with disk } := by
  unfold takeOver at taken
  split at taken
  · cases taken
    exact .inl ⟨rfl, rfl⟩
  · rename_i legacy source
    rw [Legacy.migrateFrom_eq] at taken
    cases told : document.disk.holds legacy with
    | error error =>
      rw [told] at taken
      cases taken
    | ok present =>
      rw [told] at taken
      cases taken
      exact .inr ⟨legacy, _, source, rfl, rfl⟩

theorem takeOver_eq_ok {takenOver : Option Configuration} {after : Document}
    (taken : setup.takeOver document = .ok (takenOver, after)) :
    (∀ configuration ∈ takenOver, configuration.band.IsNamed) ∧
      ∃ disk, after = { document with disk } ∧
        ∀ path, document.disk.Writable path → disk.Writable path := by
  rcases takeOver_cases taken with ⟨rfl, rfl⟩ | ⟨legacy, disk, _, migrated, rfl⟩
  · exact ⟨nofun, _, rfl, fun _ writable => writable⟩
  · rcases Legacy.migrate_cases document.disk legacy with
      ⟨configuration, bytes, found, file, migrates⟩ | ⟨_, migrates⟩
    · cases migrates.symm.trans migrated
      refine ⟨?_, _, rfl, fun _ writable => writable.removeFile file⟩
      rintro _ ⟨⟩
      exact Legacy.isNamed_of_configurationOf? found
    · cases migrates.symm.trans migrated
      exact ⟨nofun, _, rfl, fun _ writable => writable⟩

theorem takeOver_of_converts {legacy : Path} {given : Configuration}
    (source : setup.legacy = some legacy)
    (converts : Legacy.configurationOf? (document.disk.named? legacy) = some given) :
    setup.takeOver document =
      .ok (some given, { document with disk := document.disk.removeFile legacy }) := by
  rcases Legacy.exists_file_of_configurationOf? converts with ⟨bytes, file⟩
  have found := Disk.find_eq_ok_iff.mpr (Disk.named?_eq_some_iff.mp file)
  simp [takeOver, source, Legacy.migrateFrom, Disk.holds, found, Legacy.migrate, converts,
    Except.map]

theorem eq_of_takeOver {takenOver : Option Configuration} {after : Document}
    (bare : Legacy.IsBare setup.legacy document.disk)
    (taken : setup.takeOver document = .ok (takenOver, after)) :
    takenOver = none ∧ after = document := by
  rcases takeOver_cases taken with same | ⟨legacy, disk, source, migrated, rfl⟩
  · exact same
  · have nothing := Legacy.configurationOf?_named? (bare legacy source)
    rw [Legacy.migrate, nothing] at migrated
    cases migrated
    exact ⟨rfl, rfl⟩

def IsCleared (setup : Setup) (disk : Disk) : Prop :=
  ∀ legacy ∈ setup.legacy, disk.holds legacy = .ok false

theorem isCleared_of_source {disk : Disk} {legacy : Path} (source : setup.legacy = some legacy)
    (missing : disk.holds legacy = .ok false) : setup.IsCleared disk := by
  intro other known
  rw [source] at known
  cases known
  exact missing

theorem takeOver_of_isCleared (cleared : setup.IsCleared document.disk) :
    setup.takeOver document = .ok (none, document) := by
  unfold takeOver
  split
  · rfl
  · rename_i legacy source
    rw [Legacy.migrateFrom, cleared legacy source]
    rfl

theorem openStore_eq_ok (opened : setup.openStore memory = .ok store) :
    ∃ takenOver after, setup.takeOver memory.document = .ok (takenOver, after) ∧
      store = .create setup.device after memory.draws memory.backups takenOver := by
  unfold openStore at opened
  cases taken : setup.takeOver memory.document with
  | error error =>
    rw [taken] at opened
    cases opened
  | ok result =>
    rw [taken] at opened
    exact ⟨result.1, result.2, rfl, (Except.ok.inj opened).symm⟩

theorem run_get_of_usable {configuration : Configuration} (held : store.slot = some configuration)
    (usable : setup.device.capabilities.policy.changes configuration.band = false) :
    setup.run (.running store) (.command .get) =
      (.ok (.configuration configuration), .running store) := by
  have same : store.get setup.device = (.ok configuration, store) := by
    rw [Store.get_of_some held, Store.keepUsable, if_neg (by simp [usable])]
  simp only [run, onStore, Store.run, same]
  rfl

theorem run_restart_of_writable (writable : memory.document.disk.Writable setup.path)
    (opens : setup.openStore
      (.booted { disk := memory.document.disk, path := setup.path } memory.draws 0) = .ok store) :
    setup.run memory .restart = (.ok .nothing, .running store) := by
  simp only [run, reboot, boot_of_writable writable, reopen, opens]

theorem run_restart_of_isCleared (writable : memory.document.disk.Writable setup.path)
    (cleared : setup.IsCleared memory.document.disk) :
    setup.run memory .restart =
      (.ok .nothing, .running {
        engine := { disk := memory.document.disk, path := setup.path, hasStore := true }
        draws := memory.draws }) := by
  apply run_restart_of_writable writable
  let document : Document := { disk := memory.document.disk, path := setup.path }
  have taken : setup.takeOver document = .ok (none, document) := takeOver_of_isCleared cleared
  rw [openStore, Memory.document, taken]
  rfl

end Setup

namespace Store

variable {device : Device} {store : Store Document} {document : Document}

theorem invariant_unloaded (unloaded : document.loaded = false) (own : Command → Prop) :
    Invariant device own fun onto _ => onto = document where
  request := by
    rintro _ slot rfl
    rw [Document.request_of_unloaded unloaded]
  keep := by
    rintro store command configuration _ _ rfl
    rw [Document.request_of_unloaded unloaded]
  adopt := fun _ same => same

theorem create_of_unloaded (device : Device) (unloaded : document.loaded = false)
    (draws : Draws) (backups : Nat)
    (takenOver : Option Configuration) :
    let store := create device document draws backups takenOver
    store.engine = { document with hasStore := true } ∧
      store.slot = takenOver.map (canonical device.capabilities) ∧
      store.migration = (if takenOver.isSome then .pendingReplay else .none) ∧
      store.queued = 0 := by
  have registered : Document.loaded { document with hasStore := true } = false := unloaded
  refine ⟨(invariant_unloaded registered fun _ => True).create rfl (fun _ _ => trivial) draws
    backups, ?_⟩
  cases takenOver with
  | none => exact ⟨rfl, rfl, rfl⟩
  | some configuration => exact ⟨slot_keep _ _, rfl, queued_keep _ _⟩

end Store

theorem Setup.opened_of_boot {setup : Setup} {disk : Disk} {draws : Draws} {booted : Memory}
    {store : Store Document} (boots : (setup.boot disk draws).1 = .ok booted)
    (opens : setup.openStore booted = .ok store) :
    ∃ takenOver files,
      setup.takeOver booted.document = .ok (takenOver, { disk := files, path := setup.path }) ∧
        (∀ configuration ∈ takenOver, configuration.band.IsNamed) ∧
        (∀ path, booted.document.disk.Writable path → files.Writable path) ∧
        store.engine = { disk := files, path := setup.path, hasStore := true } ∧
        store.slot = takenOver.map (Store.canonical setup.device.capabilities) ∧
        store.migration = (if takenOver.isSome then .pendingReplay else .none) ∧
        store.queued = 0 := by
  rcases boot_cases setup disk draws with ⟨after, _, _, result⟩
  rcases result booted boots with ⟨rfl, _⟩
  rcases openStore_eq_ok opens with ⟨takenOver, document, taken, created⟩
  rcases takeOver_eq_ok taken with ⟨named, files, same, keeps⟩
  have unread : document = { disk := files, path := setup.path } := same
  subst unread created
  exact ⟨takenOver, files, taken, named, keeps,
    Store.create_of_unloaded setup.device rfl draws 0 takenOver⟩

namespace Store

variable {device : Device} {store : Store Document}

/-! ## Loading -/

theorem load_of_stored (usable : store.engine.path.IsUsable) {configuration : Configuration}
    (found : store.engine.stored? = some configuration) :
    store.load device =
      (.ok (), { store with
        engine := { store.engine with loaded := true }
        slot := some configuration }) := by
  rcases store.engine.disk.holds_of_isUsable usable with ⟨present, holds⟩
  have again : Document.stored? { store.engine with loaded := true } = some configuration := found
  simp only [load, holds, again, adopt]

theorem load_of_missing (usable : store.engine.path.IsUsable)
    (missing : store.engine.stored? = none) :
    store.load device =
      replayReady device { store with engine := { store.engine with loaded := true } } := by
  rcases store.engine.disk.holds_of_isUsable usable with ⟨present, holds⟩
  have again : Document.stored? { store.engine with loaded := true } = none := missing
  simp only [load, holds, again]

end Store

end Hotspot
