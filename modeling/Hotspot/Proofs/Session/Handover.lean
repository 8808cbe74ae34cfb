import Hotspot.Proofs.Session.Opening

/-! How a legacy configuration gets into the document. The store that has taken
it over may be asked for anything before its first load. If the document turns
out to hold nothing, what the store holds by then is written, once; if it holds
a configuration, that one takes its place and nothing is written. -/

namespace Hotspot

/-- The command comes from those who use the store, and not from its engine,
which hands over what it has read and says when it is ready. -/
def Command.IsCall : Command → Prop
  | .adopt _ | .replayReady => False
  | _ => True

namespace Store

def heldAfter (held : Configuration) : Command → Except CommandError Answer → Configuration
  | .set _, .ok (.configuration configuration) => configuration
  | _, _ => held

def lastSet {engine : Type} [Engine engine] (device : Device) (store : Store engine)
    (held : Configuration) : List Command → Configuration
  | [] => held
  | command :: rest =>
    let (answer, after) := store.run device command
    after.lastSet device (heldAfter held command answer) rest

/-! ## Before the first load -/

/-- The store waits for its first load, and owes what it holds. -/
structure Awaits (device : Device) (onto : Document) (held : Configuration)
    (store : Store Document) : Prop where
  engine : store.engine = onto
  slot : store.slot = some held
  usable : device.capabilities.policy.changes held.band = false
  migration : store.migration = .pendingReplay
  queued : store.queued = 0

variable {device : Device} {onto : Document} {held : Configuration} {store : Store Document}

theorem Awaits.run (awaits : store.Awaits device onto held) (unloaded : onto.loaded = false)
    {command : Command} (call : command.IsCall) :
    (store.run device command).2.Awaits device onto
      (heldAfter held command (store.run device command).1) := by
  cases keeps : store.kept? device command with
  | some configuration =>
    have accepted : (Engine.request store.engine (some configuration)) = { engine := onto } := by
      rw [awaits.engine, Document.request_of_unloaded unloaded]
    have answer := answer_run_of_kept? keeps (congrArg Reply.outcome accepted)
    have next : heldAfter held command (store.run device command).1 = configuration := by
      rw [answer]
      cases command with
      | get => simp [kept?, awaits.slot, awaits.usable] at keeps
      | set candidate => rfl
      | _ => cases keeps
    rcases run_of_kept? keeps with ⟨draws, same⟩
    rw [next, same]
    exact {
      engine := (engine_keep _ _).trans (congrArg Reply.engine accepted)
      slot := slot_keep _ _
      usable := changes_of_kept? keeps
      migration := (migration_keep _ _).trans awaits.migration
      queued := (queued_keep _ _).trans awaits.queued }
  | none =>
    cases command with
    | get =>
      rcases get_of_kept?_eq_none keeps with ⟨configuration, _, _, same⟩
      rw [Store.run, same]
      exact awaits
    | set candidate => cases candidate <;> cases keeps
    | dispatch =>
      rw [Store.run, dispatch_of_queued_eq_zero awaits.queued]
      exact awaits
    | adopt configuration => exact call.elim
    | replayReady => exact call.elim
    | _ => exact ⟨awaits.engine, awaits.slot, awaits.usable, awaits.migration, awaits.queued⟩

theorem Awaits.after (awaits : store.Awaits device onto held) (unloaded : onto.loaded = false)
    {commands : List Command} (calls : ∀ command ∈ commands, command.IsCall) :
    (store.after device commands).Awaits device onto (store.lastSet device held commands) := by
  induction commands generalizing store held with
  | nil => exact awaits
  | cons command rest induction =>
    exact induction (awaits.run unloaded (calls command List.mem_cons_self))
      fun later member => calls later (List.mem_cons_of_mem command member)

/-! ## After the takeover -/

theorem request_of_writable (loaded : store.engine.loaded = true)
    (unharmed : store.engine.faults = [])
    (writable : store.engine.disk.Writable store.engine.path) :
    ∃ disk after,
      store.engine.disk.write store.engine.path (Document.encode store.slot) = (.ok (), disk) ∧
      store.request = (.ok (), after) ∧
      after.engine = { store.engine with disk, writes := store.engine.writes + 1 } ∧
      after.slot = store.slot ∧ after.migration = store.migration := by
  rcases Document.request_of_writable loaded unharmed writable with ⟨disk, written, asked⟩
  rw [request_eq, asked]
  exact ⟨disk, _, written, rfl, rfl, rfl, rfl⟩

end Store

namespace Setup

variable {setup : Setup} {store : Store Document}

def firstLoad (setup : Setup) : List Event :=
  if setup.device.queues then [.load, .command .dispatch] else [.load]

variable {onto : Document} {held : Configuration}

/-- Where the document holds nothing, the first load makes the owed write, or
lets it wait. -/
theorem run_load_of_missing (awaits : store.Awaits setup.device onto held)
    (unharmed : onto.faults = []) (writable : onto.disk.Writable onto.path)
    (missing : onto.stored? = none) :
    ∃ loaded, setup.run (.running store) .load = (.ok .nothing, .running loaded) ∧
      loaded.slot = some held ∧ loaded.migration = .replayComplete ∧
      if setup.device.queues then
        loaded.engine = { onto with loaded := true } ∧ loaded.queued = 1
      else
        ∃ disk, onto.disk.write onto.path (Document.encode (some held)) = (.ok (), disk) ∧
          loaded.engine = { onto with disk, loaded := true, writes := onto.writes + 1 } := by
  rcases awaits with ⟨rfl, slot, _, migration, queued⟩
  let ready : Store Document := { store with engine := { store.engine with loaded := true } }
  let owing : Store Document := { ready with migration := .replayComplete, dirty := true }
  have loads : store.load setup.device = owing.post setup.device :=
    (Store.load_of_missing writable.isUsable missing).trans
      (Store.replayReady_of_some migration slot)
  simp only [run, onStore, loads]
  cases waits : setup.device.queues with
  | false =>
    have loaded : owing.engine.loaded = true := rfl
    rcases Store.request_of_writable loaded unharmed writable with
      ⟨disk, after, written, asked, engine, kept, complete⟩
    rw [show owing.slot = some held from slot] at written kept
    have posts : owing.post setup.device = (.ok (), after) := by
      rw [Store.post, waits]
      exact asked
    rw [posts]
    exact ⟨after, rfl, kept, complete, disk, written, engine⟩
  | true =>
    have posts : owing.post setup.device = (.ok (), { owing with queued := owing.queued + 1 }) := by
      rw [Store.post, waits]
      rfl
    rw [posts]
    exact ⟨_, rfl, slot, rfl, rfl, congrArg (· + 1) queued⟩

theorem firstLoad_of_missing (awaits : store.Awaits setup.device onto held)
    (unharmed : onto.faults = []) (writable : onto.disk.Writable onto.path)
    (missing : onto.stored? = none) :
    ∃ final disk, setup.after (.running store) setup.firstLoad = .running final ∧
      onto.disk.write onto.path (Document.encode (some held)) = (.ok (), disk) ∧
      final.engine = { onto with disk, loaded := true, writes := onto.writes + 1 } ∧
      final.slot = some held ∧ final.migration = .replayComplete := by
  rcases run_load_of_missing awaits unharmed writable missing with
    ⟨loaded, loads, slot, complete, files⟩
  cases waits : setup.device.queues with
  | false =>
    rw [waits] at files
    rcases files with ⟨disk, written, engine⟩
    refine ⟨loaded, disk, ?_, written, engine, slot, complete⟩
    simp only [firstLoad, waits, Bool.false_eq_true, if_false, after, List.foldl_cons,
      List.foldl_nil, loads]
  | true =>
    rw [waits] at files
    rcases files with ⟨engine, one⟩
    let due : Store Document := { loaded with queued := 0 }
    have same : due.engine = { onto with loaded := true } := engine
    have free : due.engine.disk.Writable due.engine.path := by
      rw [same]
      exact writable
    have whole : due.engine.faults = [] := by
      rw [same]
      exact unharmed
    rcases Store.request_of_writable (by rw [same]) whole free with
      ⟨disk, final, written, asked, stopped, kept, settled⟩
    rw [show due.slot = some held from slot, same] at written
    have dispatches : (setup.run (.running loaded) (.command .dispatch)).2 = .running final := by
      simp only [run, onStore, Store.run, Store.dispatch_of_queued_eq_one one asked]
      rfl
    refine ⟨final, disk, ?_, written, ?_, kept.trans slot, settled.trans complete⟩
    · simp only [firstLoad, waits, if_true, after, List.foldl_cons, List.foldl_nil, loads,
        dispatches]
    · rw [stopped, same]

theorem awaits_of_removed {disk : Disk} {draws : Draws} {booted : Memory} {legacy : Path}
    {given : Configuration} (boots : (setup.boot disk draws).1 = .ok booted)
    (source : setup.legacy = some legacy)
    (converts : Legacy.configurationOf? (booted.document.disk.named? legacy) = some given) :
    ∃ opened, setup.openStore booted = .ok opened ∧
      opened.Awaits setup.device
        { disk := booted.document.disk.removeFile legacy, path := setup.path, hasStore := true }
        (Store.canonical setup.device.capabilities given) := by
  have taken := takeOver_of_converts source converts
  have opens : setup.openStore booted = .ok (.create setup.device
      { booted.document with disk := booted.document.disk.removeFile legacy } booted.draws
      booted.backups (some given)) := by
    rw [openStore, taken]
    rfl
  rcases opened_of_boot boots opens with
    ⟨takenOver, files, again, _, _, engine, slot, migration, queued⟩
  rw [taken] at again
  rcases Prod.mk.inj (Except.ok.inj again) with ⟨rfl, document⟩
  have removed : booted.document.disk.removeFile legacy = files := congrArg Document.disk document
  rw [removed]
  exact ⟨_, opens, engine, slot, (Configuration.isSupported_canonical _ _).bands, migration, queued⟩

end Setup

end Hotspot
