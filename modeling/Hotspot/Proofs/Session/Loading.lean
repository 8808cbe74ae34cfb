import Hotspot.Proofs.Session.Opening

/-! Loading, whatever is found at the path of the document. Nothing that a file
can hold makes a load fail: either the bytes spell a configuration, which the
store then holds, or they count for nothing, and only the write that a takeover
owes is asked for. In both cases the store can give a configuration afterwards. -/

namespace Hotspot

namespace Document

/-- The bytes are a JSON object whose field `softap` spells the configuration. -/
def Spells (bytes : List UInt8) (configuration : Configuration) : Prop :=
  ∃ fields value, Json.ofUtf8? bytes = some (.object fields) ∧
    Fields.find? fields "softap" = some value ∧ value ≠ .null ∧
    Configuration.ofValue value = .ok configuration

theorem decode?_eq_some_iff {bytes : List UInt8} {configuration : Configuration} :
    decode? bytes = some configuration ↔ Spells bytes configuration := by
  constructor
  · intro read
    rcases Option.bind_eq_some_iff.mp read with ⟨content, parsed, found⟩
    cases content with
    | object fields =>
      rcases Option.bind_eq_some_iff.mp found with ⟨value, present, spelled⟩
      have read := Configuration.toOption_eq_some spelled
      refine ⟨fields, value, parsed, present, ?_, read⟩
      rintro rfl
      cases read
    | _ => cases found
  · rintro ⟨fields, value, parsed, present, _, spelled⟩
    simp [decode?, parsed, ofContent?, present, spelled, Except.toOption]

def Holds (document : Document) (configuration : Configuration) : Prop :=
  ∃ bytes, document.disk.named? document.path = some (.file bytes) ∧ Spells bytes configuration

theorem stored?_eq_some_iff {document : Document} {configuration : Configuration} :
    document.stored? = some configuration ↔ document.Holds configuration := by
  unfold stored? decodeFile? Holds
  split
  · rename_i bytes file
    simp [file, decode?_eq_some_iff]
  · rename_i other
    constructor
    · exact nofun
    · rintro ⟨bytes, file, _⟩
      exact absurd file (other bytes)

end Document

theorem Setup.invariant_path (setup : Setup) (path : Path) :
    setup.Invariant (fun _ => True) fun document _ => document.path = path where
  request := fun onPath => (Document.path_request _ _).trans onPath
  keep := fun _ _ onPath => (Document.path_request _ _).trans onPath
  adopt := fun _ onPath => onPath
  load := fun onPath => onPath
  read := fun onPath _ => onPath

namespace Store

variable {device : Device} {store : Store Document}

theorem answer_replayReady (inline : device.queues = false)
    (usable : store.engine.path.IsUsable) : (store.replayReady device).1 = .ok () := by
  by_cases pending : store.migration = .pendingReplay
  · cases held : store.slot with
    | none => rw [replayReady_of_none pending held]
    | some configuration =>
      rw [replayReady_of_some pending held, post, inline]
      exact Document.accepts_request usable _
  · rw [replayReady_of_ne pending]

theorem answer_load (inline : device.queues = false) (usable : store.engine.path.IsUsable) :
    (store.load device).1 = .ok () := by
  cases found : store.engine.stored? with
  | some configuration => rw [load_of_stored usable found]
  | none =>
    rw [load_of_missing usable found]
    exact answer_replayReady inline usable

theorem slot_load (device : Device) (usable : store.engine.path.IsUsable) :
    (store.load device).2.slot = store.engine.stored?.or store.slot := by
  cases found : store.engine.stored? with
  | some configuration => rw [load_of_stored usable found, Option.some_or]
  | none =>
    rw [load_of_missing usable found, Option.none_or]
    exact slot_replayReady device _

theorem answer_of_isGiving (device : Device) (usable : store.engine.path.IsUsable)
    {command : Command} (giving : command.IsGiving) :
    ∃ configuration, (store.run device command).1 = .ok (.configuration configuration) ∧
      (store.run device command).2.slot = some configuration ∧
      device.capabilities.policy.changes configuration.band = false := by
  cases keeps : store.kept? device command with
  | some configuration =>
    exact ⟨configuration, answer_run_of_kept? keeps (Document.accepts_request usable _),
      slot_run_of_kept? keeps, changes_of_kept? keeps⟩
  | none =>
    cases command with
    | get =>
      rcases get_of_kept?_eq_none keeps with ⟨configuration, held, unchanged, same⟩
      rw [run, same]
      exact ⟨configuration, rfl, held, unchanged⟩
    | set candidate => cases candidate <;> cases keeps
    | _ => exact giving.elim

theorem replayReady_eq (inline : device.queues = false) (store : Store Document) :
    (store.replayReady device).2 =
      if store.migration = .pendingReplay ∧ store.slot ≠ none then
        (request { store with migration := .replayComplete, dirty := true }).2
      else { store with migration := store.migration.next .replayReady } := by
  split
  · rename_i owed
    rcases Option.ne_none_iff_exists'.mp owed.2 with ⟨configuration, held⟩
    rw [replayReady_of_some owed.1 held, post, inline]
    rfl
  · rename_i nothingOwed
    by_cases pending : store.migration = .pendingReplay
    · have empty : store.slot = none := by
        by_contra held
        exact nothingOwed ⟨pending, held⟩
      rw [replayReady_of_none pending empty, pending]
      rfl
    · have still := migration_replayReady device store
      rw [replayReady_of_ne pending] at still ⊢
      rw [← still]

/-- A load does not fail, whatever is found at the path of the document and whatever
the store has been through. A configuration that the document spells is all that
changes in the store. Without one, the owed write is asked for if there is something
to be written, and nothing else happens. The store then gives a configuration on bands
that the device uses. -/
theorem load_survives (inline : device.queues = false) (usable : store.engine.path.IsUsable) :
    let ready : Store Document := { store with engine := { store.engine with loaded := true } }
    let loaded := (store.load device).2
    (store.load device).1 = .ok () ∧
      (∀ configuration, store.engine.Holds configuration →
        loaded = { ready with slot := some configuration }) ∧
      ((∀ configuration, ¬store.engine.Holds configuration) →
        loaded.slot = store.slot ∧
          loaded =
            if store.migration = .pendingReplay ∧ store.slot ≠ none then
              (request { ready with migration := .replayComplete, dirty := true }).2
            else { ready with migration := store.migration.next .replayReady }) ∧
      ∃ configuration,
        (loaded.run device .get).1 = .ok (.configuration configuration) ∧
          device.capabilities.policy.changes configuration.band = false := by
  intro ready loaded
  refine ⟨answer_load inline usable, ?_, ?_, ?_⟩
  · intro configuration holds
    exact congrArg Prod.snd (load_of_stored usable (Document.stored?_eq_some_iff.mpr holds))
  · intro nothing
    have missing : store.engine.stored? = none := by
      rw [Option.eq_none_iff_forall_ne_some]
      intro configuration found
      exact nothing configuration (Document.stored?_eq_some_iff.mp found)
    have same : loaded = (ready.replayReady device).2 :=
      congrArg Prod.snd (load_of_missing usable missing)
    rw [same]
    exact ⟨slot_replayReady device ready, replayReady_eq inline ready⟩
  · have onPath : loaded.engine.path = store.engine.path :=
      (Setup.invariant_path { device, path := store.engine.path } _).loads rfl
    rw [← onPath] at usable
    have giving : Command.get.IsGiving := trivial
    rcases answer_of_isGiving device usable giving with ⟨configuration, answer, _, unchanged⟩
    exact ⟨configuration, answer, unchanged⟩

theorem load_survives_of_unreadable :
    let path : Path := { parts := ["softap.json"] }
    let place : Place := { base := .above 0, names := ["softap.json"] }
    let disk : Disk := { entries := [(place, .file [255])] }
    let given : Configuration := { ssid := some "AP" }
    let store : Store Document :=
      { engine := { disk, path }, draws := .cycle [], slot := some given
        migration := .pendingReplay }
    let loaded := (store.load {}).2
    (store.load {}).1 = .ok () ∧ loaded.slot = some given ∧
      loaded.migration = .replayComplete ∧ loaded.engine.writes = 1 := by
  intro path place disk given store loaded
  have inline : Device.queues {} = false := rfl
  have writable : disk.Writable path := fun _ => ⟨_, rfl⟩
  have usable : store.engine.path.IsUsable := writable.isUsable
  have missing : store.engine.stored? = none := by decide +kernel
  have nothing : ∀ configuration, ¬store.engine.Holds configuration := fun _ holds =>
    nomatch missing.symm.trans (Document.stored?_eq_some_iff.mpr holds)
  rcases load_survives inline usable with ⟨accepted, _, owes, _⟩
  rcases owes nothing with ⟨slot, asked⟩
  rw [if_pos ⟨rfl, nofun⟩] at asked
  refine ⟨accepted, slot, ?_, ?_⟩
  · exact congrArg (·.migration) asked
  · exact congrArg (·.engine.writes) asked

end Store

end Hotspot
