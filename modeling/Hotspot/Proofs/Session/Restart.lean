import Hotspot.Proofs.Session.Agreement

/-! What survives a restart. From the first load on, the document of a store
that writes at once holds what the store holds, whatever has been asked of the
store. The configuration that the store has given last is therefore the one that
a new store reads from the document, and gives without writing anything. -/

namespace Hotspot

/-- The document has been loaded, can be written, and holds what is held. -/
structure Document.Settled (path : Path) (document : Document) (slot : Option Configuration) :
    Prop where
  onPath : document.path = path
  loaded : document.loaded = true
  unharmed : document.faults = []
  writable : document.disk.Writable path
  stored : document.stored? = slot
  named : ∀ configuration ∈ slot, configuration.band.IsNamed

def Event.IsGiving : Event → Prop
  | .command operation => operation.IsGiving
  | _ => False

def Command.IsQuiet (command : Command) : Prop :=
  ¬command.IsGiving ∧ command.IsOwn fun _ => True

theorem Event.isOwn_isQuiet {own : Command → Prop} {event : Event} (owned : event.IsOwn own)
    (weaker : ∀ command, own command → command.IsOwn fun _ => True) (silent : ¬event.IsGiving) :
    event.IsOwn Command.IsQuiet := by
  cases event with
  | command command => exact ⟨silent, weaker command owned⟩
  | load => trivial
  | requestPersist changed => trivial
  | _ => exact owned.elim

variable {setup : Setup} {store : Store Document} {path : Path}

/-! ## Sessions -/

namespace Document

variable {document : Document} {slot held : Option Configuration}

theorem Settled.follows (settled : document.Settled path slot) : document.Follows path slot :=
  ⟨settled.onPath, settled.loaded, settled.unharmed, settled.writable,
    (agrees_iff_of_isNamed settled.named).mpr settled.stored⟩

theorem Follows.settled (follows : document.Follows path slot)
    (named : ∀ configuration ∈ slot, configuration.band.IsNamed) : document.Settled path slot :=
  ⟨follows.onPath, follows.loaded, follows.unharmed, follows.writable,
    (agrees_iff_of_isNamed named).mp follows.agrees, named⟩

theorem Settled.request (settled : document.Settled path held)
    (named : ∀ configuration ∈ slot, configuration.band.IsNamed) :
    (Engine.request document slot).outcome = .ok () ∧
      (Engine.request document slot).engine.Settled path slot := by
  rcases follows_request settled.onPath settled.loaded settled.unharmed settled.writable slot with
    ⟨accepted, follows⟩
  exact ⟨accepted, follows.settled named⟩

end Document

namespace Setup

theorem invariant_settled (setup : Setup) (path : Path) :
    setup.Invariant (Command.IsOwn (·.band.IsNamed)) (Document.Settled path) where
  request := fun settled => (settled.request settled.named).2
  keep := by
    intro store command configuration own keeps settled
    have named := Store.isNamed_of_kept? settled.named own keeps
    refine (settled.request ?_).2
    rintro _ ⟨⟩
    exact named
  adopt := fun own => own.elim
  load := fun settled => { settled with loaded := rfl }
  read := by
    intro document slot configuration settled found
    rw [settled.stored] at found
    subst found
    exact settled

theorem invariant_settled_quiet (setup : Setup) (path : Path) (held : Option Configuration) :
    setup.Invariant Command.IsQuiet fun document slot =>
      document.Settled path slot ∧ slot = held where
  request := fun settled => ⟨((invariant_settled setup path).request settled.1), settled.2⟩
  keep := fun quiet keeps => absurd (Store.isGiving_of_kept? keeps) quiet.1
  adopt := fun quiet => quiet.2.elim
  load := fun settled => ⟨(invariant_settled setup path).load settled.1, settled.2⟩
  read := by
    intro document slot configuration settled found
    have same := settled.1.stored.symm.trans found
    subst same
    exact settled

end Setup

namespace Store

variable {device : Device} {command : Command}

theorem answer_of_settled (device : Device) (settled : store.engine.Settled path store.slot)
    (giving : command.IsGiving) :
    ∃ configuration, (store.run device command).1 = .ok (.configuration configuration) ∧
      (store.run device command).2.slot = some configuration ∧
      device.capabilities.policy.changes configuration.band = false := by
  have onPath := settled.onPath
  subst onPath
  exact answer_of_isGiving device settled.writable.isUsable giving

/-- The first load settles the document of a store that writes at once: it reads
what the document holds, or writes what the store holds. -/
theorem settled_load (inline : device.queues = false) (onPath : store.engine.path = path)
    (unharmed : store.engine.faults = []) (writable : store.engine.disk.Writable path)
    (named : ∀ configuration ∈ store.slot, configuration.band.IsNamed)
    (owing : store.slot ≠ none → store.migration = .pendingReplay) :
    (store.load device).2.engine.Settled path (store.load device).2.slot := by
  refine (follows_load inline onPath unharmed writable fun _ => owing).settled ?_
  rw [slot_load device (onPath ▸ writable.isUsable)]
  cases found : store.engine.stored? with
  | some configuration =>
    rintro _ ⟨⟩
    exact Document.isNamed_of_stored? found
  | none => exact named

end Store

namespace Setup

theorem answers_of_settled {document : Document} {configuration : Configuration}
    (settled : document.Settled setup.path (some configuration))
    (usable : setup.device.capabilities.policy.changes configuration.band = false)
    (cleared : setup.IsCleared document.disk) {memory : Memory}
    (files : memory.document.disk = document.disk) :
    setup.answers memory [.restart, .load, .command .get] =
        [.ok .nothing, .ok .nothing, .ok (.configuration configuration)] ∧
      ∃ store, setup.after memory [.restart, .load, .command .get] = .running store ∧
        store.engine.disk = document.disk ∧ store.engine.writes = 0 ∧ store.backups = 0 := by
  have writable : memory.document.disk.Writable setup.path := files ▸ settled.writable
  let opened : Store Document :=
    { engine := { disk := memory.document.disk, path := setup.path, hasStore := true }
      draws := memory.draws }
  have restarts : setup.run memory .restart = (.ok .nothing, .running opened) :=
    run_restart_of_isCleared writable (files ▸ cleared)
  have stored : opened.engine.stored? = some configuration := by
    have held := settled.stored
    rw [Document.stored?, settled.onPath, ← files] at held
    exact held
  let loaded : Store Document :=
    { opened with engine := { opened.engine with loaded := true }, slot := some configuration }
  have loads : setup.run (.running opened) .load = (.ok .nothing, .running loaded) := by
    have same : opened.load setup.device = (.ok (), loaded) :=
      Store.load_of_stored writable.isUsable stored
    simp only [run, onStore, same]
    rfl
  have gets : setup.run (.running loaded) (.command .get) =
      (.ok (.configuration configuration), .running loaded) := run_get_of_usable rfl usable
  refine ⟨?_, loaded, ?_, files, rfl, rfl⟩
  · simp only [answers, restarts, loads, gets]
  · simp only [after, List.foldl_cons, List.foldl_nil, restarts, loads, gets]

theorem answers_after_restart {document : Document} {configuration : Configuration}
    (settled : document.Settled setup.path (some configuration))
    (usable : setup.device.capabilities.policy.changes configuration.band = false)
    (alone : setup.legacy = none) {memory : Memory} (files : memory.document.disk = document.disk) :
    setup.answers memory [.restart, .load, .command .get] =
        [.ok .nothing, .ok .nothing, .ok (.configuration configuration)] ∧
      ∃ store, setup.after memory [.restart, .load, .command .get] = .running store ∧
        store.engine.disk = document.disk ∧ store.engine.writes = 0 ∧ store.backups = 0 :=
  answers_of_settled settled usable (fun _ source => nomatch alone.symm.trans source) files

theorem settled_first_load {disk : Disk} {draws : Draws} {booted : Memory}
    (inline : setup.device.queues = false) (boots : (setup.boot disk draws).1 = .ok booted)
    (writable : booted.document.disk.Writable setup.path)
    (opens : setup.openStore booted = .ok store) :
    (store.load setup.device).2.engine.Settled setup.path (store.load setup.device).2.slot := by
  rcases opened_of_boot boots opens with
    ⟨takenOver, files, _, named, keeps, engine, slot, migration, _⟩
  apply Store.settled_load inline
  · rw [engine]
  · rw [engine]
  · rw [engine]
    exact keeps setup.path writable
  · intro configuration held
    rw [slot] at held
    rcases Option.map_eq_some_iff.mp held with ⟨given, taken, rfl⟩
    exact Configuration.isNamed_canonical _ (named given taken)
  · intro held
    rw [slot] at held
    rw [migration]
    cases takenOver with
    | none => exact absurd rfl held
    | some given => rfl

/-- Whatever is asked of a store that writes at once, the configuration that it
has given last survives: a new store on the same document gives it as well, and
neither writes nor announces anything. -/
theorem last_given_survives_restart {disk : Disk} {draws : Draws} {booted : Memory}
    (inline : setup.device.queues = false) (boots : (setup.boot disk draws).1 = .ok booted)
    (writable : booted.document.disk.Writable setup.path)
    (opens : setup.openStore booted = .ok store) {before later : List Event} {command : Command}
    (owned : ∀ event ∈ before ++ .command command :: later,
      event.IsOwn (Command.IsOwn Configuration.IsSpelled))
    (giving : command.IsGiving) (last : ∀ event ∈ later, ¬event.IsGiving) :
    let asked := setup.after (.running store) (.load :: before)
    let final := setup.after (.running store) (.load :: (before ++ .command command :: later))
    ∃ configuration, (setup.run asked (.command command)).1 = .ok (.configuration configuration) ∧
      ∀ (fresh : Setup) (memory : Memory),
        fresh.device.capabilities = setup.device.capabilities → fresh.path = setup.path →
        fresh.legacy = none → memory.document.disk = final.document.disk →
        fresh.answers memory [.restart, .load, .command .get] =
            [.ok .nothing, .ok .nothing, .ok (.configuration configuration)] ∧
          ∃ reader, fresh.after memory [.restart, .load, .command .get] = .running reader ∧
            reader.engine.disk = final.document.disk ∧ reader.engine.writes = 0 ∧
            reader.backups = 0 := by
  intro asked final
  have named : ∀ event ∈ before ++ .command command :: later,
      event.IsOwn (Command.IsOwn (·.band.IsNamed)) :=
    fun event member => (owned event member).imp fun _ own => own.imp fun _ =>
      Configuration.IsSpelled.isNamed
  have own : command.IsOwn (·.band.IsNamed) :=
    named (.command command) (List.mem_append_right _ List.mem_cons_self)
  -- The first load settles the document, and the session keeps it settled.
  have settled := settled_first_load inline boots writable opens
  rcases (invariant_settled setup setup.path).after settled fun event member =>
    named event (List.mem_append_left _ member) with ⟨middle, reached, settled⟩
  have arrives : asked = .running middle := reached
  rcases Store.answer_of_settled setup.device settled giving with
    ⟨configuration, answer, held, usable⟩
  refine ⟨configuration, ?_, ?_⟩
  · rw [arrives, run, onStore]
    exact congrArg (Except.mapError EventError.command) answer
  -- What is asked later changes neither the document nor what the store holds.
  have given := (invariant_settled setup setup.path).toInvariant.run settled own
  have silent : ∀ event ∈ later, event.IsOwn Command.IsQuiet := by
    intro event member
    have owned := named event (List.mem_append_right _ (List.mem_cons_of_mem _ member))
    exact Event.isOwn_isQuiet owned (fun _ own => own.imp fun _ _ => trivial) (last event member)
  rcases (invariant_settled_quiet setup setup.path (some configuration)).after ⟨given, held⟩ silent
    with ⟨stopped, stops, settled, held⟩
  have ends : final = .running stopped := by
    change setup.after (.running (store.load setup.device).2)
      (before ++ .command command :: later) = _
    rw [after_append, reached]
    exact stops
  intro fresh memory capabilities path alone files
  rw [ends] at files ⊢
  rw [held, ← path] at settled
  rw [← capabilities] at usable
  exact answers_after_restart settled usable alone files

theorem last_given_survives_restart_of_set :
    let setup : Setup := { path := { parts := ["softap.json"] } }
    let opened := Store.create setup.device { disk := {}, path := setup.path } (.cycle []) 0 none
    let candidate : Configuration :=
      { ssid := some "net", band := .ghz5, channel := 36
        single_of_channel := fun _ => Band.isSingle_ghz5 }
    let asked := setup.after (.running opened) [.load, .command .get]
    let final := setup.after (.running opened)
      [.load, .command .get, .command (.set (some candidate)), .requestPersist true]
    ∃ configuration,
      (setup.run asked (.command (.set (some candidate)))).1 = .ok (.configuration configuration) ∧
        setup.answers final [.restart, .load, .command .get] =
          [.ok .nothing, .ok .nothing, .ok (.configuration configuration)] := by
  intro setup opened candidate asked final
  have boots : (setup.boot {} (.cycle [])).1 =
      .ok (.booted { disk := {}, path := setup.path } (.cycle []) 0) := rfl
  have writable : Disk.Writable {} setup.path := fun _ => ⟨_, rfl⟩
  have spelled : candidate.IsSpelled := Configuration.isSpelled_iff.mpr (by decide)
  have owned : ∀ event ∈ [Event.command .get] ++
      .command (.set (some candidate)) :: [Event.requestPersist true],
      event.IsOwn (Command.IsOwn Configuration.IsSpelled) := by
    simp only [List.cons_append, List.nil_append, List.forall_mem_cons]
    exact ⟨trivial, spelled, trivial, List.forall_mem_nil _⟩
  have last : ∀ event ∈ [Event.requestPersist true], ¬event.IsGiving := by
    simp only [List.forall_mem_cons]
    exact ⟨id, List.forall_mem_nil _⟩
  rcases last_given_survives_restart rfl boots writable rfl owned trivial last with
    ⟨configuration, answer, survives⟩
  exact ⟨configuration, answer, (survives setup final rfl rfl rfl rfl).1⟩

end Setup

end Hotspot
