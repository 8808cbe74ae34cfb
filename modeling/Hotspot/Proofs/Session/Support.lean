import Hotspot.Proofs.Session.Opening

/-! What a store can hold over any number of sessions on one document. As long
as nobody else writes the document, a device only ever finds configurations in
it that it has written itself, so it holds none that it cannot use. -/

namespace Hotspot

open Document (decodeFile?)

def Event.IsRestart : Event → Prop
  | .boot | .openStore | .restart => True
  | _ => False

/-- The configuration in the place that the path leads to is one that the device
uses as it is. Of a path that cannot be followed nothing is said. -/
def Disk.Supports (capabilities : Capabilities) (path : Path) (disk : Disk) : Prop :=
  path.IsUsable → ∀ configuration, decodeFile? (disk.at? path.target) = some configuration →
    configuration.IsSupported capabilities

structure Document.Supports (capabilities : Capabilities) (path : Path) (document : Document)
    (slot : Option Configuration) : Prop where
  onPath : document.path = path
  unharmed : document.faults = []
  disk : document.disk.Supports capabilities path
  slot : ∀ configuration ∈ slot, configuration.IsSupported capabilities

def Memory.slot : Memory → Option Configuration
  | .booted .. => none
  | .running store => store.slot

/-- What a device can have in memory that keeps its document at a path. The
first document is missing or unreadable; sessions then follow each other, with
or without legacy files, and somebody may put files in other places. -/
inductive Memory.Reachable (capabilities : Capabilities) (path : Path) : Memory → Prop
  | start {setup : Setup} {disk : Disk} {draws : Draws} {memory : Memory} :
      setup.path = path → (setup.boot disk draws).1 = .ok memory →
      memory.document.stored? = none → Reachable capabilities path memory
  | run {setup : Setup} {memory : Memory} {event : Event} :
      setup.device.capabilities = capabilities → setup.path = path →
      Reachable capabilities path memory →
      event.IsOwn (Command.IsOwn fun _ => True) ∨ event.IsRestart →
      Reachable capabilities path (setup.run memory event).2
  | put {memory : Memory} {place : Place} {entry : Entry} :
      Reachable capabilities path memory → place ≠ path.target →
      Reachable capabilities path (memory.withDisk (memory.document.disk.put place entry))

variable {capabilities : Capabilities} {path : Path}

/-! ## Files -/

namespace Disk

theorem Supports.of_at? {disk after : Disk} (supports : disk.Supports capabilities path)
    (same : after.at? path.target = disk.at? path.target ∨
      decodeFile? (after.at? path.target) = none) :
    after.Supports capabilities path := by
  intro usable configuration found
  rcases same with same | unreadable
  · rw [same] at found
    exact supports usable configuration found
  · rw [unreadable] at found
    cases found

theorem Supports.growsTo {disk after : Disk} (supports : disk.Supports capabilities path)
    (grows : disk.GrowsTo after) : after.Supports capabilities path := by
  rcases grows path.target with same | directory
  · exact supports.of_at? (.inl same)
  · exact supports.of_at? (.inr (by rw [directory]; rfl))

theorem Supports.removeFile {disk : Disk} (supports : disk.Supports capabilities path)
    {other : Path} {bytes : List UInt8} (file : disk.named? other = some (.file bytes)) :
    (disk.removeFile other).Supports capabilities path := by
  by_cases same : path.target = other.target
  · exact supports.of_at? (.inr (by rw [same, at?_removeFile_target file]; rfl))
  · exact supports.of_at? (.inl (at?_removeFile_of_ne same))

/-- A legacy file that is taken over is removed, and it may be the document. -/
theorem Supports.migrate {disk : Disk} (supports : disk.Supports capabilities path)
    (other : Path) : (Legacy.migrate disk other true).2.Supports capabilities path := by
  rcases Legacy.migrate_cases disk other with ⟨_, bytes, _, file, migrates⟩ | ⟨_, migrates⟩
  · rw [migrates]
    exact supports.removeFile file
  · rw [migrates]
    exact supports

end Disk

/-! ## Sessions -/

namespace Document

theorem Supports.stored? {document : Document} {slot : Option Configuration}
    (supports : document.Supports capabilities path slot) {configuration : Configuration}
    (found : document.stored? = some configuration) :
    configuration.IsSupported capabilities := by
  cases named : document.disk.named? document.path with
  | none => simp [Document.stored?, named, decodeFile?] at found
  | some entry =>
    rcases Disk.named?_eq_some_iff.mp named with ⟨located, held⟩
    rw [supports.onPath] at located held
    rw [Document.stored?, named, ← held] at found
    exact supports.disk (Disk.isUsable_of_locate located) configuration found

theorem Supports.request {document : Document} {slot : Option Configuration}
    (supports : document.Supports capabilities path slot) :
    (Engine.request document slot).engine.Supports capabilities path slot := by
  rcases request_cases_of_unharmed supports.unharmed slot with ⟨disk, writes, written, same⟩ | same
  · rw [same]
    refine { supports with disk := ?_ }
    intro usable configuration found
    have onPath := supports.onPath
    subst onPath
    rw [Disk.at?_write written, if_pos rfl, decodeFile?, decode?_encode] at found
    exact supports.slot configuration (Option.eq_some_of_filter_eq_some found)
  · rw [same]
    exact supports

end Document

theorem Setup.invariant_supports {setup : Setup}
    (device : setup.device.capabilities = capabilities) :
    setup.Invariant (Command.IsOwn fun _ => True) (Document.Supports capabilities path) where
  request := Document.Supports.request
  keep := by
    intro store command configuration _ keeps supports
    subst device
    have kept := Store.isSupported_of_kept?
      (fun held member => (supports.slot held member).toIsWithin) keeps
    refine Document.Supports.request { supports with slot := ?_ }
    rintro _ ⟨⟩
    exact kept
  adopt := fun own => own.elim
  load := fun supports => { supports with }
  read := by
    intro document slot configuration supports found
    refine { supports with slot := ?_ }
    rintro _ ⟨⟩
    exact supports.stored? found

/-! ## Restarts -/

def Memory.Supports (capabilities : Capabilities) (path : Path) (memory : Memory) : Prop :=
  memory.document.Supports capabilities path memory.slot

theorem Document.Supports.withDisk {document : Document} {slot : Option Configuration}
    (supports : document.Supports capabilities path slot) {disk : Disk}
    (usable : disk.Supports capabilities path) :
    Document.Supports capabilities path { document with disk } slot :=
  { supports with disk := usable }

theorem Memory.Supports.withDisk {memory : Memory} (supports : memory.Supports capabilities path)
    {disk : Disk} (usable : disk.Supports capabilities path) :
    (memory.withDisk disk).Supports capabilities path := by
  cases memory <;> exact Document.Supports.withDisk supports usable

namespace Setup

variable {setup : Setup} {memory : Memory}

theorem supports_boot (onPath : setup.path = path) {disk : Disk}
    (usable : disk.Supports capabilities path) {draws : Draws}
    (booted : (setup.boot disk draws).1 = .ok memory) : memory.Supports capabilities path := by
  rcases boot_cases setup disk draws with ⟨after, grows, _, result⟩
  rcases result memory booted with ⟨rfl, _⟩
  exact ⟨onPath, rfl, usable.growsTo grows, nofun⟩

theorem supports_reboot (onPath : setup.path = path)
    (supports : memory.Supports capabilities path) :
    (setup.reboot memory).2.Supports capabilities path := by
  unfold reboot
  split
  · rename_i later disk booted
    exact supports_boot onPath supports.disk (congrArg Prod.fst booted)
  · rename_i error disk failed
    rcases boot_cases setup memory.document.disk memory.draws with ⟨after, grows, same, _⟩
    rw [failed] at same
    subst same
    exact supports.withDisk (supports.disk.growsTo grows)

theorem supports_reopen (device : setup.device.capabilities = capabilities)
    (supports : memory.Supports capabilities path) :
    (setup.reopen memory).2.Supports capabilities path := by
  have create {document : Document} (takenOver : Option Configuration)
      (on : document.Supports capabilities path memory.slot) :
      Memory.Supports capabilities path (.running
        (Store.create setup.device document memory.draws memory.backups takenOver)) :=
    (invariant_supports device).create { on with slot := nofun } (fun _ _ => trivial) _ _
  unfold reopen
  split
  · rename_i store opened
    rcases openStore_eq_ok opened with ⟨takenOver, after, taken, rfl⟩
    rcases takeOver_cases taken with ⟨rfl, rfl⟩ | ⟨legacy, disk, _, migrated, rfl⟩
    · exact create none supports
    · have kept := supports.disk.migrate legacy
      rw [migrated] at kept
      exact create takenOver (Document.Supports.withDisk supports kept)
  · exact supports

theorem supports_run (device : setup.device.capabilities = capabilities)
    (onPath : setup.path = path) (supports : memory.Supports capabilities path) {event : Event}
    (either : event.IsOwn (Command.IsOwn fun _ => True) ∨ event.IsRestart) :
    (setup.run memory event).2.Supports capabilities path := by
  rcases either with own | restart
  · cases memory with
    | running store =>
      rcases (invariant_supports device).run supports own with ⟨after, same, held⟩
      rw [same]
      exact held
    | booted document draws backups =>
      cases event with
      | command command => exact supports
      | load => exact supports
      | requestPersist changed => exact supports
      | _ => exact own.elim
  · cases event with
    | boot => exact supports_reboot onPath supports
    | openStore => exact supports_reopen device supports
    | restart =>
      have rebooted := supports_reboot onPath supports
      unfold run
      dsimp only
      split
      · rename_i again
        rw [again] at rebooted
        exact supports_reopen device rebooted
      · rename_i failed
        rw [failed] at rebooted
        exact rebooted
    | _ => exact restart.elim

end Setup

namespace Memory

theorem supports_start {setup : Setup} (onPath : setup.path = path) {disk : Disk} {draws : Draws}
    {memory : Memory} (booted : (setup.boot disk draws).1 = .ok memory)
    (empty : memory.document.stored? = none) : memory.Supports capabilities path := by
  rcases Setup.boot_cases setup disk draws with ⟨after, _, _, result⟩
  rcases result memory booted with ⟨rfl, directory⟩
  subst onPath
  refine ⟨rfl, rfl, ?_, nofun⟩
  intro usable configuration found
  change decodeFile? (after.at? setup.path.target) = some configuration at found
  by_cases parts : setup.path.parts = []
  · have outer : setup.path.target.names = [] := by rw [Path.target, parts]; rfl
    simp [Disk.at?, outer, decodeFile?] at found
  · have located := (Disk.locate_iff_find_parent parts).mpr ⟨usable, directory⟩
    have nothing : decodeFile? (after.named? setup.path) = none := empty
    rw [Disk.named?_of_locate located, found] at nothing
    cases nothing

theorem Reachable.supports {memory : Memory} (reachable : Reachable capabilities path memory) :
    memory.Supports capabilities path := by
  induction reachable with
  | start onPath booted empty => exact supports_start onPath booted empty
  | run device onPath _ either supports =>
    exact Setup.supports_run device onPath supports either
  | put _ different supports =>
    exact supports.withDisk
      (supports.disk.of_at? (.inl (Disk.at?_put_of_ne _ _ different.symm)))

/-- A configuration that a store holds is one that the device uses as it is:
neither its features nor its bands are changed any more. -/
theorem Reachable.held_eq_self {store : Store Document} {configuration : Configuration}
    (reachable : Reachable capabilities path (.running store))
    (held : store.slot = some configuration) :
    configuration.withinCapabilities capabilities = configuration ∧
      configuration.withPolicy capabilities.policy = configuration ∧
      (configuration.securityType.isSae = true → capabilities.sae.isOn = true) ∧
      (capabilities.clientControl.isOn = false →
        configuration.maxClients = 0 ∧ configuration.clientControl = false) ∧
      (configuration.band = .ghz2 → configuration.channel ≠ 0 →
        configuration.channel ∈ capabilities.channels.map Channel.number) ∧
      (if capabilities.widens5Ghz.isOn then configuration.band ≠ .ghz5
        else configuration.band = .ghz2 ∨ configuration.band = .ghz5) ∧
      (configuration.channel ≠ 0 → configuration.band.isSingle = true) := by
  have supported := reachable.supports.slot configuration held
  exact ⟨Configuration.withinCapabilities_eq_self_iff.mpr supported.toIsWithin,
    supported.withPolicy_eq, supported.security, supported.clients, supported.channel,
    (RadioPolicy.changes_ofWidening_eq_false_iff _ _).mp supported.bands,
    configuration.single_of_channel⟩

theorem held_eq_self_after_set :
    let setup : Setup := { path := { parts := ["softap.json"] } }
    let candidate : Configuration :=
      { securityType := .wpa3Sae, band := .any, maxClients := 3, clientControl := true }
    let held : Configuration := { securityType := .wpa2Psk, band := .ghz5 }
    let opened := Store.create setup.device { disk := {}, path := setup.path } (.cycle []) 0 none
    let store := (opened.run setup.device (.set (some candidate))).2
    Reachable {} setup.path (.running store) ∧ store.slot = some held ∧
      held.withinCapabilities {} = held := by
  intro setup candidate held opened store
  have booted : (setup.boot {} (.cycle [])).1 =
      .ok (.booted { disk := {}, path := setup.path } (.cycle []) 0) := rfl
  have empty : Document.stored? { disk := {}, path := setup.path } = none := by decide +kernel
  have start : Reachable {} setup.path _ := .start rfl booted empty
  have created : Reachable {} setup.path (setup.run _ .openStore).2 :=
    .run rfl rfl start (.inr trivial)
  have reachable : Reachable {} setup.path (setup.run _ (.command (.set (some candidate)))).2 :=
    .run rfl rfl created (.inl trivial)
  have slot : store.slot = some held := by decide +kernel
  exact ⟨reachable, slot, (reachable.held_eq_self slot).1⟩

end Memory

end Hotspot
