import Hotspot.Proofs.Service.Secret
import Hotspot.Proofs.Session.Handover
import Hotspot.Proofs.Session.Restart

/-! What a start of the service leaves. Without a legacy configuration, the store holds
what its document holds, and nothing has been written but the secret of the device. The
secret lies beside the document, so the document stays as it is, unless both have the
same name. -/

namespace Hotspot.Launch

variable {launch : Launch} {disk : Disk} {draws : Draws} {service : Service}
  {capabilities : Capabilities}

/-- The document does not have the name of the secret, if the device needs a secret of
its own. -/
def KeepsApart (launch : Launch) (capabilities : Capabilities) : Prop :=
  launch.source = none → capabilities.macRandomization.isOn = true →
    launch.documentPath.withName? secretName ≠ some launch.documentPath

/-! ## The source of addresses -/

theorem isBare_addressSource {source : Option Path} (bare : Legacy.IsBare source disk) :
    Legacy.IsBare source (launch.addressSource capabilities disk).2 := by
  unfold addressSource
  split
  · split
    · exact bare
    · rename_i path _
      have kept := isBare_secret bare path launch.token
      split
      · rename_i failed
        rwa [failed] at kept
      · rename_i read
        rwa [read] at kept
  · exact bare

theorem addressSource_keeps (apart : launch.KeepsApart capabilities)
    (writable : disk.Writable launch.documentPath) :
    (launch.addressSource capabilities disk).2.Writable launch.documentPath ∧
      (launch.addressSource capabilities disk).2.named? launch.documentPath =
        disk.named? launch.documentPath := by
  unfold addressSource
  split
  · rename_i needed
    split
    · exact ⟨writable, rfl⟩
    · rename_i path renamed
      have ⟨alone, randomizes⟩ := Bool.and_eq_true_iff.mp needed
      have different : path ≠ launch.documentPath := by
        rintro rfl
        exact apart (Option.isNone_iff_eq_none.mp alone) randomizes renamed
      have keeps := secret_keeps writable (Path.parent_of_withName? renamed)
        (Path.target_ne_of_withName? renamed (by decide) different) launch.token
      split
      · rename_i failed
        rw [failed] at keeps
        exact keeps
      · rename_i read
        rw [read] at keeps
        exact keeps
  · exact ⟨writable, rfl⟩

/-! ## The start -/

theorem start_eq_ok (starts : (launch.start disk draws).1 = .ok service) :
    ∃ capabilities source files, launch.addressSource capabilities disk = (.ok source, files) ∧
      (launch.startOn { capabilities, source } files draws).1 = .ok service := by
  unfold start at starts
  split at starts
  · cases starts
  · rename_i capabilities _
    split at starts
    · cases starts
    · rename_i source files sourced
      exact ⟨capabilities, source, files, sourced, starts⟩

theorem startOn_eq_ok {device : Device}
    (starts : (launch.startOn device disk draws).1 = .ok service) :
    let setup : Setup := { device, path := launch.documentPath, legacy := launch.legacyPath }
    ∃ booted opened, (setup.boot disk draws).1 = .ok booted ∧
      setup.openStore booted = .ok opened ∧
      service = { device, store := (opened.load device).2 } := by
  intro setup
  unfold startOn at starts
  dsimp only at starts
  split at starts
  · cases starts
  · rename_i booted files boots
    split at starts
    · cases starts
    · rename_i opened opens
      cases loads : (opened.load device).1 with
      | error refusal =>
        rw [loads] at starts
        cases starts
      | ok =>
        rw [loads] at starts
        cases starts
        exact ⟨booted, opened, congrArg Prod.fst boots, opens, rfl⟩

/-- The store that holds what it has loaded from the files, and has done nothing else. -/
def loadedStore (launch : Launch) (files : Disk) (draws : Draws) : Store Document :=
  let engine : Document :=
    { disk := files, path := launch.documentPath, hasStore := true, loaded := true }
  { engine, draws, slot := engine.stored? }

theorem store_of_startOn {device : Device} (bare : Legacy.IsBare launch.legacyPath disk)
    (starts : (launch.startOn device disk draws).1 = .ok service)
    (usable : launch.documentPath.IsUsable) :
    service.device = device ∧ ∃ files, service.store = launch.loadedStore files draws ∧
      (disk.Writable launch.documentPath → files = disk) := by
  rcases startOn_eq_ok starts with ⟨booted, opened, boots, opens, rfl⟩
  let setup : Setup := { device, path := launch.documentPath, legacy := launch.legacyPath }
  rcases setup.boot_cases disk draws with ⟨files, grows, _, result⟩
  rcases result booted boots with ⟨rfl, _⟩
  rcases Setup.openStore_eq_ok opens with ⟨takenOver, document, taken, rfl⟩
  have stillBare : Legacy.IsBare setup.legacy files := bare.growsTo grows
  rcases Setup.eq_of_takeOver stillBare taken with ⟨rfl, rfl⟩
  refine ⟨rfl, files, ?_, fun writable => ?_⟩
  · let store : Store Document :=
      { engine := { disk := files, path := launch.documentPath, hasStore := true }, draws }
    let ready : Store Document := { store with engine := { store.engine with loaded := true } }
    have readable : store.engine.path.IsUsable := usable
    have nothingOwed : ready.migration ≠ .pendingReplay := nofun
    change (store.load device).2 = _
    cases found : store.engine.stored? with
    | some configuration =>
      rw [Store.load_of_stored readable found]
      exact congrArg (fun slot => { ready with slot }) found.symm
    | none =>
      rw [Store.load_of_missing readable found, Store.replayReady_of_ne nothingOwed]
      exact congrArg (fun slot => { ready with slot }) found.symm
  · have free : disk.Writable setup.path := writable
    have again : setup.boot disk draws = _ := Setup.boot_of_writable free draws
    rw [again] at boots
    cases boots
    rfl

theorem store_of_start (bare : Legacy.IsBare launch.legacyPath disk)
    (starts : (launch.start disk draws).1 = .ok service)
    (usable : launch.documentPath.IsUsable) :
    let found : Disk := (launch.addressSource service.device.capabilities disk).2
    ∃ files, service.store = launch.loadedStore files draws ∧
      (found.Writable launch.documentPath → files = found) := by
  rcases start_eq_ok starts with ⟨capabilities, source, files, sourced, startsOn⟩
  have kept : Legacy.IsBare launch.legacyPath (launch.addressSource capabilities disk).2 :=
    isBare_addressSource bare
  rw [sourced] at kept
  rcases store_of_startOn kept startsOn usable with ⟨device, loads⟩
  rw [device, sourced]
  exact loads

/-- After a start the store holds what its document holds, and whatever it is asked,
the document will hold what the store holds. -/
theorem settled_of_start (bare : Legacy.IsBare launch.legacyPath disk)
    (starts : (launch.start disk draws).1 = .ok service)
    (writable : service.store.engine.disk.Writable launch.documentPath) :
    service.store.engine.Settled launch.documentPath service.store.slot := by
  rcases store_of_start bare starts writable.isUsable with ⟨files, store, _⟩
  rw [store] at writable ⊢
  refine ⟨rfl, rfl, rfl, writable, rfl, ?_⟩
  intro configuration held
  exact Document.isNamed_of_stored? held

theorem document_of_start (bare : Legacy.IsBare launch.legacyPath disk)
    (starts : (launch.start disk draws).1 = .ok service)
    (apart : launch.KeepsApart service.device.capabilities)
    (writable : disk.Writable launch.documentPath) :
    service.store.engine.disk.Writable launch.documentPath ∧
      service.store.engine.disk.named? launch.documentPath =
        disk.named? launch.documentPath := by
  rcases store_of_start bare starts writable.isUsable with ⟨files, store, finds⟩
  have keeps := addressSource_keeps apart writable
  rw [store, finds keeps.1]
  exact keeps

theorem startOn_of_writable {device : Device} (inline : device.queues = false)
    (alone : launch.legacyPath = none) (writable : disk.Writable launch.documentPath)
    (draws : Draws) :
    ∃ store, (launch.startOn device disk draws).1 = .ok { device, store } := by
  let opened : Store Document :=
    { engine := { disk, path := launch.documentPath, hasStore := true }, draws }
  have usable : opened.engine.path.IsUsable := writable.isUsable
  have loads : (opened.load device).1 = .ok () := Store.answer_load inline usable
  let setup : Setup := { device, path := launch.documentPath }
  have free : disk.Writable setup.path := writable
  have boots : setup.boot disk draws = _ := Setup.boot_of_writable free draws
  have opens : setup.openStore (.booted { disk, path := setup.path } draws 0) = .ok opened := rfl
  refine ⟨(opened.load device).2, ?_⟩
  simp only [startOn, alone, setup, boots, opens, loads]
  rfl

theorem start_of_writable (known : launch.capabilities = some capabilities)
    (supplied : (launch.source.isNone && capabilities.macRandomization.isOn) = false)
    (alone : launch.legacyPath = none) (writable : disk.Writable launch.documentPath)
    (draws : Draws) :
    ∃ service, (launch.start disk draws).1 = .ok service ∧
      service.device.capabilities = capabilities := by
  let device : Device := { capabilities, source := launch.source }
  have inline : device.queues = false := rfl
  rcases startOn_of_writable inline alone writable draws with ⟨store, starts⟩
  have sourced : launch.addressSource capabilities disk = (.ok launch.source, disk) := by
    rw [addressSource, supplied]
    rfl
  refine ⟨{ device, store }, ?_, rfl⟩
  simp only [start, deviceCapabilities, known, sourced]
  exact starts

end Hotspot.Launch
