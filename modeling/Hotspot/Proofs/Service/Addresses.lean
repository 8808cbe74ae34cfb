import Hotspot.Proofs.Bssid
import Hotspot.Proofs.Configuration.Generation
import Hotspot.Proofs.Service.Serving

/-! The address that a device derives for itself, over requests and restarts. The secret beside
the document is made once, so everything that is derived from it stays as well, as long as the
document has another name. -/

namespace Hotspot

/-! ## The secret beside a document -/

namespace Launch

def secretFile? (document : Path) (disk : Disk) : Option Entry :=
  (document.withName? secretName).bind disk.named?

/-- The service has to derive addresses from a secret of its own, and its document does not
have the name of the secret. -/
structure NeedsSecret (launch : Launch) (capabilities : Capabilities) : Prop where
  alone : launch.source = none
  randomizes : capabilities.macRandomization.isOn = true
  apart : launch.documentPath.withName? secretName ≠ some launch.documentPath

theorem exists_path_of_secretFile? {document : Path} {disk : Disk} {kept : List UInt8}
    (secret : IsKeptIn kept (secretFile? document disk)) :
    ∃ path, document.withName? secretName = some path ∧ IsKeptIn kept (disk.named? path) := by
  unfold secretFile? at secret
  cases renamed : document.withName? secretName with
  | none =>
    rw [renamed] at secret
    cases secret
  | some path =>
    rw [renamed] at secret
    exact ⟨path, rfl, secret⟩

end Launch

open Launch

structure Document.Guards (kept : List UInt8) (document : Document) : Prop where
  apart : document.path.withName? secretName ≠ some document.path
  secret : IsKeptIn kept (secretFile? document.path document.disk)

namespace Document

variable {document : Document} {kept : List UInt8} {path : Path} {disk : Disk}

theorem guards_of_named? (apart : document.path.withName? secretName ≠ some document.path)
    (renamed : document.path.withName? secretName = some path)
    (secret : IsKeptIn kept (document.disk.named? path)) : document.Guards kept := by
  refine ⟨apart, ?_⟩
  rw [secretFile?, renamed]
  exact secret

theorem Guards.request (guards : document.Guards kept) (slot : Option Configuration) :
    (Engine.request document slot).engine.Guards kept := by
  rcases exists_path_of_secretFile? guards.secret with ⟨path, renamed, secret⟩
  have apart : (Engine.request document slot).engine.path.withName? secretName ≠
      some (Engine.request document slot).engine.path := by
    rw [path_request]
    exact guards.apart
  refine guards_of_named? apart ((path_request document slot).symm ▸ renamed) ?_
  rcases document.disk_request slot with same | ⟨bytes, written⟩
  · rw [same]
    exact secret
  · have other : path ≠ document.path := by
      rintro rfl
      exact guards.apart renamed
    have different := Path.target_ne_of_withName? renamed (by decide) other
    rw [(secret.writable.write_of_ne written different.symm).2]
    exact secret

end Document

theorem Setup.invariant_guards (setup : Setup) (kept : List UInt8) :
    setup.Invariant (fun _ => True) fun document _ => document.Guards kept where
  request := fun guards => guards.request _
  keep := fun _ _ guards => guards.request _
  adopt := fun _ guards => guards
  load := fun guards => ⟨guards.apart, guards.secret⟩
  read := fun guards _ => guards

/-! ## The start -/

namespace Launch

variable {launch : Launch} {disk after : Disk} {draws : Draws} {service : Service}
  {capabilities : Capabilities} {kept : List UInt8} {path : Path}

theorem addressSource_of_needsSecret (needs : launch.NeedsSecret capabilities)
    (renamed : launch.documentPath.withName? secretName = some path)
    (gives : secret disk path launch.token = (.ok kept, after)) :
    launch.addressSource capabilities disk =
      (.ok (some fun query => .ok (MacSource.derive kept query)), after) := by
  have filled := (isKeptIn_of_secret gives).ne_nil
  simp only [addressSource, needs.alone, needs.randomizes, renamed, gives,
    MacSource.ofSecret_of_ne_nil filled]
  rfl

theorem guards_of_startOn {device : Device}
    (starts : (launch.startOn device disk draws).1 = .ok service)
    (apart : launch.documentPath.withName? secretName ≠ some launch.documentPath)
    (renamed : launch.documentPath.withName? secretName = some path)
    (secret : IsKeptIn kept (disk.named? path)) : service.store.engine.Guards kept := by
  rcases startOn_eq_ok starts with ⟨booted, opened, boots, opens, rfl⟩
  let setup : Setup := { device, path := launch.documentPath, legacy := launch.legacyPath }
  -- The secret is there already, so its directory is, which is that of the document.
  have made : disk.makeDirectory setup.path.parent = (.ok (), disk) := by
    rw [← Path.parent_of_withName? renamed]
    exact secret.writable.makeDirectory_parent
  have again : setup.boot disk draws = _ := Setup.boot_of_makeDirectory made draws
  rw [again] at boots
  cases boots
  rcases Setup.openStore_eq_ok opens with ⟨takenOver, document, taken, rfl⟩
  have guards : document.Guards kept := by
    rcases Setup.takeOver_cases taken with ⟨_, rfl⟩ | ⟨legacy, files, _, migrated, rfl⟩
    · exact Document.guards_of_named? apart renamed secret
    · have stays := secret.migrate legacy
      rw [show Legacy.migrate disk legacy true = _ from migrated] at stays
      exact Document.guards_of_named? apart renamed stays
  have invariant := setup.invariant_guards kept
  exact invariant.loads
    (invariant.create ⟨guards.apart, guards.secret⟩ (fun _ _ => trivial) draws 0)

end Launch

namespace Service

variable {service later next : Service} {request : Request} {kept : List UInt8}

structure DerivesFrom (kept : List UInt8) (service : Service) : Prop where
  guards : service.store.engine.Guards kept
  source : service.device.source = some fun query => .ok (MacSource.derive kept query)
  randomizes : service.device.capabilities.macRandomization.isOn = true

theorem derivesFrom_of_start {launch : Launch} {disk after : Disk} {draws : Draws} {path : Path}
    (starts : (launch.start disk draws).1 = .ok service)
    (needs : launch.NeedsSecret service.device.capabilities)
    (renamed : launch.documentPath.withName? secretName = some path)
    (gives : secret disk path launch.token = (.ok kept, after)) :
    service.DerivesFrom kept := by
  rcases start_eq_ok starts with ⟨capabilities, source, files, sourced, startsOn⟩
  have device : service.device = { capabilities, source } := by
    rcases startOn_eq_ok startsOn with ⟨_, _, _, _, rfl⟩
    rfl
  rw [device] at needs
  rw [addressSource_of_needsSecret needs renamed gives] at sourced
  cases sourced
  refine ⟨guards_of_startOn startsOn needs.apart renamed (isKeptIn_of_secret gives), ?_, ?_⟩
  · rw [device]
  · rw [device]
    exact needs.randomizes

/-! ## Requests -/

theorem device_answer (framework : Framework) (service : Service) (request : Request) :
    (service.answer framework request).2.device = service.device := by
  rcases answer_cases framework service request with
    ⟨_, _, _, _, _, answers⟩ | ⟨_, _, _, answers⟩ | ⟨same, _⟩
  · rw [answers]
    rfl
  · rw [answers]
    rfl
  · rw [same]

theorem DerivesFrom.answer (derives : service.DerivesFrom kept) (framework : Framework)
    (request : Request) : (service.answer framework request).2.DerivesFrom kept := by
  have guards : (service.answer framework request).2.store.engine.Guards kept := by
    rcases answer_cases framework service request with
      ⟨includes, command, step, _, runs, answers⟩ | ⟨band, custom, _, answers⟩ | ⟨same, _⟩
    · let setup : Setup := { device := service.device, path := service.store.engine.path }
      have after : (service.store.run service.device command).2.engine.Guards kept :=
        (setup.invariant_guards kept).toInvariant.run derives.guards trivial
      rw [runs] at after
      rw [answers]
      exact after
    · rw [answers]
      exact derives.guards
    · rw [same]
      exact derives.guards
  refine ⟨guards, ?_, ?_⟩
  · rw [device_answer]
    exact derives.source
  · rw [device_answer]
    exact derives.randomizes

theorem DerivesFrom.offerLocalOnly (derives : service.DerivesFrom kept) (band : Band)
    {custom : Option Configuration}
    (unstated : ∀ configuration ∈ custom, configuration.bssid = none) :
    ∃ configuration : Configuration,
      (service.offerLocalOnly band custom).1 = .success (configuration.toValue true) ∧
        configuration.bssid = some (MacSource.derive kept {}) := by
  have nothing : custom.bind Configuration.bssid = none := Option.bind_eq_none_iff.mpr unstated
  let given : Configuration := (service.store.localOnly service.device band custom).1
  have lacks : given.bssid = none := by
    simp only [given, Store.localOnly, Defaults.localOnly_eq, nothing]
    rfl
  let address : MacAddress := MacSource.derive kept {}
  have chosen : Bssid.Chosen given service.device.capabilities.macRandomization.isOn
      service.device.source {} (some address) :=
    .derived ⟨lacks, derives.randomizes⟩ derives.source rfl
  refine ⟨given.withBssid (some address), ?_, rfl⟩
  have addressed : (Store.randomizeBssid service.device given).result =
      .ok (given.withBssid (some address)) :=
    Bssid.randomize_of_chosen chosen
  simp only [Service.offerLocalOnly, given] at addressed ⊢
  rw [addressed]

/-! ## Restarts -/

/-- What a service can come to. It answers requests and is started again, each time beside the
secret that it has left; other files may have changed. -/
inductive ComesTo (framework : Framework) (service : Service) : Service → Prop
  | here : ComesTo framework service service
  | answer {later : Service} (request : Request) :
      ComesTo framework service later → ComesTo framework service (later.answer framework request).2
  | restart {later next : Service} {launch : Launch} {disk : Disk} {draws : Draws} :
      ComesTo framework service later → (launch.start disk draws).1 = .ok next →
      launch.NeedsSecret next.device.capabilities →
      secretFile? launch.documentPath disk =
        secretFile? later.store.engine.path later.store.engine.disk →
      ComesTo framework service next

theorem DerivesFrom.comesTo {framework : Framework} (derives : service.DerivesFrom kept)
    (comesTo : service.ComesTo framework later) : later.DerivesFrom kept := by
  induction comesTo with
  | here => exact derives
  | answer request _ before => exact before.answer framework request
  | @restart later next launch disk draws _ starts needs same before =>
    have secret := before.guards.secret
    rw [← same] at secret
    rcases exists_path_of_secretFile? secret with ⟨path, renamed, spelled⟩
    exact derivesFrom_of_start starts needs renamed (secret_of_isKeptIn spelled launch.token)

end Service

def Request.LeavesAddress (framework : Framework) (request : Request) : Prop :=
  request.route = .offerLocalOnly ∧
    ∃ form band custom, framework.localOnly request = .ok form ∧
      Service.localOnlyWish form = .ok (band, custom) ∧
      ∀ configuration ∈ custom, configuration.bssid = none

theorem Service.DerivesFrom.answer_of_leavesAddress {framework : Framework} {service : Service}
    {request : Request} {kept : List UInt8} (derives : service.DerivesFrom kept)
    (leaves : request.LeavesAddress framework) :
    ∃ configuration : Configuration,
      (service.answer framework request).1 = .success (configuration.toValue true) ∧
        configuration.bssid = some (MacSource.derive kept {}) := by
  rcases leaves with ⟨route, form, band, custom, read, wished, unstated⟩
  rcases derives.offerLocalOnly band unstated with ⟨configuration, success, address⟩
  refine ⟨configuration, ?_, address⟩
  simp only [Service.answer, route, read, wished]
  exact success

/-- A device always gets a secret, which is the one that its file spells, if it spells one, and
is made otherwise, and the file spells it from then on. Whoever asks later gets the same secret
and leaves the files alone. So a service beside that secret gives the same address to every
network without connection for which none is stated, over all its requests and restarts, if its
document has another name. -/
theorem Launch.secret_made_once {disk : Disk} {path : Path} (room : disk.HasRoomFor path)
    (token : List UInt8) :
    ∃ kept after, secret disk path token = (.ok kept, after) ∧ kept ≠ [] ∧
      IsKeptIn kept (after.named? path) ∧
      (IsKeptIn kept (disk.named? path) ∧ after = disk ∨
        (∀ other, ¬IsKeptIn other (disk.named? path)) ∧ kept = freshSecret token) ∧
      (∀ later again, later.named? path = after.named? path →
        secret later path again = (.ok kept, later)) ∧
      ∀ (framework : Framework) (launch : Launch) (draws : Draws) (first later : Service)
          (request : Request),
        launch.documentPath.withName? secretName = some path → launch.token = token →
        (launch.start disk draws).1 = .ok first →
        launch.NeedsSecret first.device.capabilities → first.ComesTo framework later →
        request.LeavesAddress framework →
        ∃ configuration : Configuration,
          (later.answer framework request).1 = .success (configuration.toValue true) ∧
            configuration.bssid = some (MacSource.derive kept {}) := by
  rcases exists_secret room token with ⟨kept, after, gives, spelled, origin⟩
  refine ⟨kept, after, gives, spelled.ne_nil, spelled, origin, ?_, ?_⟩
  · intro later again same
    rw [← same] at spelled
    exact secret_of_isKeptIn spelled again
  · rintro framework launch draws first later request renamed rfl starts needs comesTo leaves
    have derives := Service.derivesFrom_of_start starts needs renamed gives
    exact (derives.comesTo comesTo).answer_of_leavesAddress leaves

/-- A device that has no files makes a secret at its first start, and derives the address of
its networks from it after a change of its configuration and another start. -/
theorem Launch.derives_address_after_restart :
    let launch (token : List UInt8) : Launch :=
      { path := some "softap.json", token
        capabilities := some { macRandomization := .ofSwitch true } }
    let token : List UInt8 := List.replicate secretLength 7
    let reset : Request := { route := .resetConfiguration }
    let offer : Request := { route := .offerLocalOnly, body := Text.encodeUtf8 ['{', '}'] }
    ∃ first next, ((launch token).start {} (.cycle [])).1 = .ok first ∧
      ((launch []).start (first.answer Strict.framework reset).2.store.engine.disk
        (.cycle [])).1 = .ok next ∧
      ∃ configuration : Configuration,
        (next.answer Strict.framework offer).1 = .success (configuration.toValue true) ∧
          configuration.bssid = some (MacSource.derive token {}) := by
  intro launch token reset offer
  let path : Path := { parts := [secretName] }
  have writable : Disk.Writable {} path := fun _ => ⟨_, rfl⟩
  rcases secret_made_once writable.hasRoomFor token with
    ⟨kept, after, _, _, _, origin, _, addresses⟩
  -- There is no file yet, so the secret is the fresh one.
  have fresh : kept = token := by
    rcases origin with ⟨spelled, _⟩ | ⟨_, made⟩
    · cases spelled
    · exact made.trans (freshSecret_eq_self (List.length_replicate ..))
  have starts : ((launch token).start {} (.cycle [])).1.toOption.any (fun first =>
      first.device.capabilities.macRandomization.isOn &&
        (first.answer Strict.framework reset).2.store.engine.path = (launch []).documentPath &&
        ((launch []).start (first.answer Strict.framework reset).2.store.engine.disk
          (.cycle [])).1.toOption.any
          (·.device.capabilities.macRandomization.isOn)) = true := by
    decide +kernel
  rcases (Option.any_eq_true ..).mp starts with ⟨first, started, later⟩
  rcases Bool.and_eq_true_iff.mp later with ⟨before, again⟩
  rcases Bool.and_eq_true_iff.mp before with ⟨randomizes, onPath⟩
  rcases (Option.any_eq_true ..).mp again with ⟨next, restarted, stillRandomizes⟩
  have started := Configuration.toOption_eq_some started
  have restarted := Configuration.toOption_eq_some restarted
  have apart : (launch token).documentPath.withName? secretName ≠
      some (launch token).documentPath := by
    decide +kernel
  have comesTo : first.ComesTo Strict.framework next :=
    .restart (.answer reset .here) restarted ⟨rfl, stillRandomizes, apart⟩
      (congrArg (secretFile? · _) (of_decide_eq_true onPath).symm)
  have leaves : offer.LeavesAddress Strict.framework :=
    ⟨rfl, { band := .text "2ghz", bssid := none }, .ghz2, none, rfl, rfl, nofun⟩
  have answers := addresses Strict.framework (launch token) (.cycle []) first next offer
    (by decide +kernel) rfl started ⟨rfl, randomizes, apart⟩ comesTo leaves
  rw [fresh] at answers
  exact ⟨first, next, started, restarted, answers⟩

/-- Under the name of the secret, the document is written over the secret, and the next start
makes another one, with another address. -/
theorem Service.changes_address_under_name_of_secret :
    let launch (token : List UInt8) : Launch :=
      { path := some "softap_mac_secret", token
        capabilities := some { macRandomization := .ofSwitch true } }
    let reset : Request := { route := .resetConfiguration }
    let offer : Request := { route := .offerLocalOnly, body := Text.encodeUtf8 ['{', '}'] }
    let first : Option Service := ((launch [0x00, 0xFF]).start {} (.cycle [])).1.toOption
    let next : Option Service := first.bind fun service =>
      ((launch [0x01, 0x02]).start (service.answer Strict.framework reset).2.store.engine.disk
        (.cycle [])).1.toOption
    let address (service : Service) : Option String :=
      (service.answer Strict.framework offer).1.text? "bssid"
    first.bind address = some "ee:63:0a:ae:c2:e8" ∧
      next.bind address = some "b6:6c:49:29:87:ff" := by
  decide +kernel

end Hotspot
