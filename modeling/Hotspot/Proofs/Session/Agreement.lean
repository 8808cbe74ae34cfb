import Hotspot.Proofs.Session.Loading

/-! When the document and the store hold the same. Before the first load every
request is dropped, and only what was taken over is asked for again. From the
first load on the document therefore follows the store, with one exception: a
store that has taken over nothing, but was asked or told something before it found
its document empty. Such a store holds what its document has never seen, and stays
dirty until something is set. -/

namespace Hotspot

/-- The document holds what the store holds. Bands without a name cannot be read
back, so a document with such a selection counts as empty. -/
def Document.Agrees (document : Document) (slot : Option Configuration) : Prop :=
  document.stored? = slot.filter fun configuration => configuration.band.IsNamed

/-- The document has been loaded, can be written, and holds what is held. -/
structure Document.Follows (path : Path) (document : Document) (slot : Option Configuration) :
    Prop where
  onPath : document.path = path
  loaded : document.loaded = true
  unharmed : document.faults = []
  writable : document.disk.Writable path
  agrees : document.Agrees slot

def Event.IsRoutine : Event → Prop
  | .command .get | .command (.set _) | .command .replayReady | .load => True
  | _ => False

namespace Document

variable {document : Document} {slot : Option Configuration} {configuration : Configuration}
  {path : Path}

theorem agrees_of_stored? (found : document.stored? = some configuration) :
    document.Agrees (some configuration) := by
  have named := isNamed_of_stored? found
  simp [Agrees, found, Option.filter, named]

theorem agrees_iff_of_isNamed (named : ∀ configuration ∈ slot, configuration.band.IsNamed) :
    document.Agrees slot ↔ document.stored? = slot := by
  have whole : (slot.filter fun configuration => configuration.band.IsNamed) = slot := by
    cases slot with
    | none => rfl
    | some configuration => simp [Option.filter, named configuration rfl]
  rw [Agrees, whole]

theorem agrees_of_write {after : Document}
    (written : document.write slot = (.ok (), after.disk))
    (onPath : after.path = document.path) : after.Agrees slot := by
  rw [Agrees, stored?, onPath, Disk.named?_of_write written]
  exact decode?_encode slot

theorem follows_request (onPath : document.path = path) (loaded : document.loaded = true)
    (unharmed : document.faults = []) (writable : document.disk.Writable path)
    (slot : Option Configuration) :
    (Engine.request document slot).outcome = .ok () ∧
      (Engine.request document slot).engine.Follows path slot := by
  subst onPath
  rcases request_of_writable loaded unharmed writable with ⟨disk, written, same⟩
  rw [same]
  refine ⟨rfl, rfl, loaded, unharmed, Disk.Writable.write written, ?_⟩
  exact agrees_of_write ((write_of_unharmed unharmed slot).trans written) rfl

end Document

/-! ## Sessions -/

namespace Setup

variable {setup : Setup} {path : Path}

theorem invariant_follows (setup : Setup) (path : Path) :
    setup.Invariant (Command.IsOwn fun _ => True) (Document.Follows path) where
  request := fun follows =>
    (Document.follows_request follows.onPath follows.loaded follows.unharmed follows.writable _).2
  keep := fun _ _ follows =>
    (Document.follows_request follows.onPath follows.loaded follows.unharmed follows.writable _).2
  adopt := fun own => own.elim
  load := fun follows => { follows with loaded := rfl }
  read := fun follows found => { follows with agrees := Document.agrees_of_stored? found }

end Setup

namespace Store

variable {device : Device} {onto : Document} {store : Store Document} {path : Path}

/-- The store waits for its first load. Its engine has taken nothing from it yet,
so all that it holds is new. -/
structure Waits (device : Device) (onto : Document) (store : Store Document) : Prop where
  engine : store.engine = onto
  usable : ∀ held ∈ store.slot, device.capabilities.policy.changes held.band = false
  dirty : store.dirty = store.slot.isSome

theorem waits_keep (unloaded : onto.loaded = false) {configuration : Configuration}
    (usable : device.capabilities.policy.changes configuration.band = false)
    (engine : store.engine = onto) : (store.keep configuration).2.Waits device onto := by
  subst engine
  have idle : Engine.request store.engine (some configuration) = { engine := store.engine } :=
    Document.request_of_unloaded unloaded
  refine ⟨?_, ?_, ?_⟩
  · rw [engine_keep, idle]
  · rw [slot_keep]
    rintro _ ⟨⟩
    exact usable
  · rw [slot_keep, keep_eq]
    simp [request_eq, idle, Except.isOk, Except.toBool, notify]

theorem Waits.run (waits : store.Waits device onto) (unloaded : onto.loaded = false)
    {command : Command} (giving : command.IsGiving) :
    (store.run device command).2.Waits device onto ∧
      (store.run device command).2.slot ≠ none ∧
      (store.run device command).2.migration = store.migration := by
  cases keeps : store.kept? device command with
  | some configuration =>
    rcases run_of_kept? keeps with ⟨draws, same⟩
    have engine : Store.engine { store with draws } = onto := waits.engine
    rw [same, StoreStep.answer]
    exact ⟨waits_keep unloaded (changes_of_kept? keeps) engine, by simp, migration_keep _ _⟩
  | none =>
    cases command with
    | get =>
      rcases get_of_kept?_eq_none keeps with ⟨configuration, held, _, same⟩
      rw [Store.run, same]
      have kept : store.slot ≠ none := held ▸ Option.some_ne_none configuration
      exact ⟨waits, kept, rfl⟩
    | set candidate => cases candidate <;> cases keeps
    | _ => exact giving.elim

theorem Waits.after (waits : store.Waits device onto) (unloaded : onto.loaded = false)
    {calls : List Command} (giving : ∀ call ∈ calls, call.IsGiving) :
    (store.after device calls).Waits device onto ∧
      (calls ≠ [] → (store.after device calls).slot ≠ none) ∧
      (store.after device calls).migration = store.migration := by
  induction calls generalizing store with
  | nil => exact ⟨waits, fun nonempty => absurd rfl nonempty, rfl⟩
  | cons call rest induction =>
    rcases waits.run unloaded (giving call List.mem_cons_self) with ⟨next, held, same⟩
    rcases induction next fun later member => giving later (List.mem_cons_of_mem call member) with
      ⟨final, kept, still⟩
    refine ⟨final, fun _ => ?_, still.trans same⟩
    cases rest with
    | nil => exact held
    | cons later rest => exact kept (List.cons_ne_nil later rest)

theorem waits_create (device : Device) {document : Document} (unloaded : document.loaded = false)
    (draws : Draws) (backups : Nat) (takenOver : Option Configuration) :
    (create device document draws backups takenOver).Waits device
      { document with hasStore := true } := by
  cases takenOver with
  | none => exact ⟨rfl, nofun, rfl⟩
  | some configuration =>
    have usable := (Configuration.isSupported_canonical device.capabilities configuration).bands
    let start : Store Document := { engine := Engine.register document, draws, backups }
    have registered : start.engine.loaded = false := unloaded
    have kept : (start.keep _).2.Waits device start.engine := waits_keep registered usable rfl
    exact ⟨kept.engine, kept.usable, kept.dirty⟩

/-! ## The first load -/

theorem follows_replayReady (inline : device.queues = false)
    (empty : store.engine.Follows path none)
    (owing : store.slot ≠ none → store.migration = .pendingReplay) :
    (store.replayReady device).2.engine.Follows path (store.replayReady device).2.slot := by
  cases held : store.slot with
  | none =>
    have follows : store.engine.Follows path store.slot := held ▸ empty
    exact (Setup.invariant_follows { device, path } path).replayReady follows
  | some configuration =>
    rw [replayReady_of_some (owing (by simp [held])) held, post, inline]
    simp only [Bool.false_eq_true, if_false, request_eq]
    exact (Document.follows_request empty.onPath empty.loaded empty.unharmed empty.writable _).2

/-- The first load makes the document follow the store, unless the store holds
something that the document has never heard of and that nothing asks for again. -/
theorem follows_load (inline : device.queues = false) (onPath : store.engine.path = path)
    (unharmed : store.engine.faults = []) (writable : store.engine.disk.Writable path)
    (heard : store.engine.stored? = none → store.slot ≠ none →
      store.migration = .pendingReplay) :
    (store.load device).2.engine.Follows path (store.load device).2.slot := by
  subst onPath
  cases found : store.engine.stored? with
  | some configuration =>
    rw [load_of_stored writable.isUsable found]
    exact ⟨rfl, rfl, unharmed, writable, Document.agrees_of_stored? found⟩
  | none =>
    rw [load_of_missing writable.isUsable found]
    exact follows_replayReady inline ⟨rfl, rfl, unharmed, writable, found⟩ (heard found)

end Store

namespace Setup

variable {setup : Setup} {store : Store Document} {path : Path} {event : Event}

theorem waits_of_boot {disk : Disk} {draws : Draws} {booted : Memory}
    (boots : (setup.boot disk draws).1 = .ok booted)
    (opens : setup.openStore booted = .ok store) :
    ∃ onto, onto.path = setup.path ∧ onto.loaded = false ∧ onto.faults = [] ∧
      (∀ path, booted.document.disk.Writable path → onto.disk.Writable path) ∧
      store.Waits setup.device onto ∧
      (store.migration = .pendingReplay ∨ store.migration = .none ∧ store.slot = none) := by
  rcases opened_of_boot boots opens with
    ⟨takenOver, files, taken, _, keeps, engine, slot, migration, _⟩
  rcases openStore_eq_ok opens with ⟨again, document, same, created⟩
  rw [taken] at same
  rcases Prod.mk.inj (Except.ok.inj same) with ⟨rfl, rfl⟩
  let document : Document := { disk := files, path := setup.path }
  have unloaded : document.loaded = false := rfl
  refine ⟨{ document with hasStore := true }, rfl, rfl, rfl, keeps, ?_, ?_⟩
  · rw [created]
    exact Store.waits_create setup.device unloaded _ _ _
  · cases takenOver with
    | none => exact .inr ⟨migration, slot⟩
    | some given => exact .inl migration

end Setup

end Hotspot
