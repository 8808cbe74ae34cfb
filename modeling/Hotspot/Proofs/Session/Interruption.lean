import Hotspot.Proofs.Session.Handover
import Hotspot.Proofs.Session.Restart

/-! What a restart finds while a legacy configuration is handed over. The legacy
file is removed when the store is created, and the document is written once it has
been loaded. Before and after that, one of the two holds the configuration; in
between neither does, and a store that is started then generates another one. -/

namespace Hotspot.Setup

variable {setup : Setup} {memory : Memory} {legacy : Path} {given : Configuration}

/-- A restart on the files of the memory gives the configuration. -/
def Recovers (setup : Setup) (memory : Memory) (configuration : Configuration) : Prop :=
  setup.answers memory [.restart, .load, .command .get] =
    [.ok .nothing, .ok .nothing, .ok (.configuration configuration)]

theorem Recovers.unique {first second : Configuration} (recovers : setup.Recovers memory first)
    (again : setup.Recovers memory second) : first = second := by
  have same := recovers.symm.trans again
  simpa using same

/-! ## What a restart gives -/

theorem recovers_of_converts (writable : memory.document.disk.Writable setup.path)
    (missing : memory.document.disk.named? setup.path = none)
    (source : setup.legacy = some legacy)
    (converts : Legacy.configurationOf? (memory.document.disk.named? legacy) = some given) :
    setup.Recovers memory (Store.canonical setup.device.capabilities given) := by
  have boots := congrArg Prod.fst (boot_of_writable writable memory.draws)
  rcases awaits_of_removed boots source converts with ⟨opened, opens, awaits⟩
  rcases Legacy.exists_file_of_configurationOf? converts with ⟨bytes, file⟩
  have empty := writable.named?_removeFile file missing
  rcases run_load_of_missing awaits rfl (writable.removeFile file)
    (Document.stored?_of_missing empty) with ⟨loaded, loads, slot, _⟩
  have restarts := run_restart_of_writable writable opens
  have gets := run_get_of_usable slot awaits.usable
  simp only [Recovers, answers, restarts, loads, gets]

theorem recovers_fresh (writable : memory.document.disk.Writable setup.path)
    (missing : memory.document.disk.named? setup.path = none)
    (cleared : setup.IsCleared memory.document.disk) :
    setup.Recovers memory (Defaults.tethering setup.device.capabilities memory.draws).1 := by
  let opened : Store Document :=
    { engine := { disk := memory.document.disk, path := setup.path, hasStore := true }
      draws := memory.draws }
  let loaded : Store Document := { opened with engine := { opened.engine with loaded := true } }
  have restarts : setup.run memory .restart = (.ok .nothing, .running opened) :=
    run_restart_of_isCleared writable cleared
  have stored : opened.engine.stored? = none := Document.stored?_of_missing missing
  have loads : setup.run (.running opened) .load = (.ok .nothing, .running loaded) := by
    have idle : loaded.replayReady setup.device = (.ok (), loaded) :=
      Store.replayReady_of_ne nofun
    simp only [run, onStore, (Store.load_of_missing writable.isUsable stored).trans idle]
    rfl
  let fresh : Configuration := (Defaults.tethering setup.device.capabilities memory.draws).1
  have accepted : (Engine.request loaded.engine (some fresh)).outcome = .ok () := by
    have ready : loaded.engine.loaded = true := rfl
    rcases Document.request_of_writable ready rfl writable with ⟨disk, _, same⟩
    rw [same]
  have keeps : loaded.kept? setup.device .get = some fresh := rfl
  have gets : (setup.run (.running loaded) (.command .get)).1 = .ok (.configuration fresh) :=
    congrArg (Except.mapError EventError.command) (Store.answer_run_of_kept? keeps accepted)
  simp only [Recovers, answers, restarts, loads, gets, fresh]

theorem recovers_of_written {document : Document} {held : Configuration}
    (onPath : document.path = setup.path) (named : held.band.IsNamed)
    (usable : setup.device.capabilities.policy.changes held.band = false)
    (written : document.disk.write document.path (Document.encode (some held)) =
      (.ok (), memory.document.disk))
    (cleared : setup.IsCleared memory.document.disk) : setup.Recovers memory held := by
  let read : Document :=
    { document with disk := memory.document.disk, loaded := true, faults := [] }
  have whole : ∀ configuration ∈ some held, configuration.band.IsNamed := by
    rintro _ ⟨⟩
    exact named
  have settled : read.Settled setup.path (some held) :=
    ⟨onPath, rfl, rfl, onPath ▸ Disk.Writable.write written,
      Document.stored?_of_write whole written rfl, whole⟩
  exact (answers_of_settled settled usable cleared rfl).1

/-! ## The handover -/

/-- Whatever else is in memory, a restart gives the configuration of a legacy file
that converts: before a store takes it over, and again once the document has been
written. In between it gives a fresh configuration, and a device that lets writes
wait is still in between after the load. -/
theorem recovers_outside_handover {disk : Disk} {draws : Draws} {booted : Memory}
    (boots : (setup.boot disk draws).1 = .ok booted) (source : setup.legacy = some legacy)
    (converts : Legacy.configurationOf? (booted.document.disk.named? legacy) = some given)
    (writable : booted.document.disk.Writable setup.path)
    (missing : booted.document.disk.named? setup.path = none) :
    ∃ opened final, setup.openStore booted = .ok opened ∧
      setup.after (.running opened) setup.firstLoad = .running final ∧
      (∀ memory : Memory,
        memory.document.disk = booted.document.disk ∨ memory.document.disk = final.engine.disk →
          setup.Recovers memory (Store.canonical setup.device.capabilities given)) ∧
      (∀ memory : Memory, memory.document.disk = opened.engine.disk →
        setup.Recovers memory (Defaults.tethering setup.device.capabilities memory.draws).1) ∧
      (setup.device.queues = true →
        (setup.after (.running opened) [.load]).document.disk = opened.engine.disk) := by
  rcases awaits_of_removed boots source converts with ⟨opened, opens, awaits⟩
  rcases Legacy.exists_file_of_configurationOf? converts with ⟨bytes, file⟩
  have free := writable.removeFile file
  have empty := writable.named?_removeFile file missing
  have files : opened.engine.disk = booted.document.disk.removeFile legacy := by
    rw [awaits.engine]
  rcases firstLoad_of_missing awaits rfl free (Document.stored?_of_missing empty) with
    ⟨final, written, ends, writes, engine, _⟩
  refine ⟨opened, final, opens, ends, ?_, ?_, ?_⟩
  · rintro memory (before | after)
    · rw [← before] at writable missing converts
      exact recovers_of_converts writable missing source converts
    · have named := Configuration.isNamed_canonical setup.device.capabilities
        (Legacy.isNamed_of_configurationOf? converts)
      have gone := Disk.holds_of_write_removeFile file (writable.target_ne missing file) writes
      have reached : memory.document.disk = written := by rw [after, engine]
      rw [← reached] at writes gone
      exact recovers_of_written rfl named awaits.usable writes (isCleared_of_source source gone)
  · intro memory between
    rw [files] at between
    rw [← between] at free empty
    have gone := Disk.holds_removeFile file
    rw [← between] at gone
    exact recovers_fresh free empty (isCleared_of_source source gone)
  · intro waits
    rcases run_load_of_missing awaits rfl free (Document.stored?_of_missing empty) with
      ⟨loaded, loads, _, _, waiting⟩
    rw [if_pos waits] at waiting
    have reached : setup.after (.running opened) [.load] = .running loaded :=
      congrArg Prod.snd loads
    rw [reached, files]
    exact congrArg Document.disk waiting.1

theorem recovers_outside_handover_of_record :
    let setup : Setup :=
      { path := { parts := ["softap.json"] }, legacy := some { parts := ["softap.conf"] } }
    let record : List UInt8 := [0, 0, 0, 1, 0, 2, 65, 80, 0, 0, 0, 0]
    let disk : Disk :=
      { entries := [({ base := .above 0, names := ["softap.conf"] }, .file record)] }
    let booted : Memory := .booted { disk, path := setup.path } (.cycle []) 0
    ∃ opened final, setup.openStore booted = .ok opened ∧
      setup.after (.running opened) [.load] = .running final ∧
      setup.Recovers booted { ssid := some "AP" } ∧
      setup.Recovers (.running opened) (Defaults.tethering {} (.cycle [])).1 ∧
      setup.Recovers (.running final) { ssid := some "AP" } := by
  intro setup record disk booted
  have boots : (setup.boot disk (.cycle [])).1 = .ok booted := rfl
  have converts : Legacy.configurationOf? (disk.named? { parts := ["softap.conf"] }) =
      some { ssid := some "AP" } := by decide +kernel
  have writable : disk.Writable setup.path := fun _ => ⟨_, rfl⟩
  have missing : disk.named? setup.path = none := by decide +kernel
  have usable : Store.canonical {} { ssid := some "AP" } = { ssid := some "AP" } := by
    decide +kernel
  rcases recovers_outside_handover boots rfl converts writable missing with
    ⟨opened, final, opens, ends, recovers, fresh, _⟩
  have known : setup.openStore booted = .ok (.create setup.device
      { disk := {}, path := setup.path } (.cycle []) 0 (some { ssid := some "AP" })) := by
    rfl
  rw [known] at opens
  cases opens
  exact ⟨_, final, known, ends, usable ▸ recovers booted (.inl rfl), fresh _ rfl,
    usable ▸ recovers (.running final) (.inr rfl)⟩

/-- The configuration of that file is lost to a restart between the creation of
the store and its first load. -/
theorem loses_takeover_before_load :
    let setup : Setup :=
      { path := { parts := ["softap.json"] }, legacy := some { parts := ["softap.conf"] } }
    let record : List UInt8 := [0, 0, 0, 1, 0, 2, 65, 80, 0, 0, 0, 0]
    let disk : Disk :=
      { entries := [({ base := .above 0, names := ["softap.conf"] }, .file record)] }
    let booted : Memory := .booted { disk, path := setup.path } (.cycle []) 0
    let given : Configuration := { ssid := some "AP" }
    (setup.boot disk (.cycle [])).1 = .ok booted ∧
      Legacy.configurationOf? (disk.named? { parts := ["softap.conf"] }) = some given ∧
      disk.Writable setup.path ∧ disk.named? setup.path = none ∧
      ∃ opened, setup.openStore booted = .ok opened ∧
        ¬setup.Recovers (.running opened) (Store.canonical setup.device.capabilities given) := by
  intro setup record disk booted given
  let opened : Store Document := .create setup.device { disk := {}, path := setup.path }
    (.cycle []) 0 (some given)
  refine ⟨rfl, by decide +kernel, fun _ => ⟨_, rfl⟩, by decide +kernel, opened, rfl, ?_⟩
  intro recovers
  have writable : (Memory.running opened).document.disk.Writable setup.path := fun _ => ⟨_, rfl⟩
  have fresh := recovers_fresh writable rfl (isCleared_of_source rfl rfl)
  have same := recovers.unique fresh
  exact absurd same (by decide +kernel)

end Hotspot.Setup
