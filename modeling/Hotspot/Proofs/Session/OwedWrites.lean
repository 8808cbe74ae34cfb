import Hotspot.Proofs.Session.Agreement

/-! What a clean store says about its document. An engine that takes what a store
holds makes the store clean before it writes. So a clean store agrees with its
document as long as the last write that was asked for has succeeded. Once that has
failed, the store is clean although its document is whatever the write has left of
it: what it was, or a beginning of what it was to be. -/

namespace Hotspot

namespace Document

/-- What a write leaves to be read of the document, if it fails. -/
def leftBy? (document : Document) (slot : Option Configuration) : Option (Option Configuration) :=
  match document.write slot with
  | (.ok (), _) => none
  | (.error _, disk) => some (stored? { document with disk })

/-- A write that fails leaves what was in the document, or a beginning of what was to be
written. -/
theorem leftBy?_cases {document : Document} {slot left : Option Configuration}
    (leaves : document.leftBy? slot = some left) :
    left = document.stored? ∨ ∃ count, left = decode? ((encode slot).take count) := by
  unfold leftBy? at leaves
  split at leaves
  · cases leaves
  · rename_i error disk failed
    cases leaves
    rcases Disk.eq_or_write_of_write_error failed with rfl | ⟨count, _, written⟩
    · exact .inl rfl
    · exact .inr ⟨count, stored?_of_file (Disk.named?_of_write written)⟩

end Document

namespace Store

def replayed? (device : Device) (store : Store Document) : Option Configuration :=
  if store.migration = .pendingReplay ∧ device.queues = false then store.slot else none

def asked? (device : Device) (store : Store Document) : Event → Option Configuration
  | .command .replayReady => store.replayed? device
  | .command command => store.kept? device command
  | .load =>
    match store.engine.disk.holds store.engine.path, store.engine.stored? with
    | .ok _, none => store.replayed? device
    | _, _ => none
  | _ => none

def reads (store : Store Document) : Event → Bool
  | .load => store.engine.stored?.isSome
  | _ => false

/-- What the last write that was asked for has left of the document, if it has failed
and the document has not been read since: after an event, given what it was before. -/
def lostAt (device : Device) (store : Store Document) (lost : Option (Option Configuration))
    (event : Event) : Option (Option Configuration) :=
  match store.asked? device event with
  | some configuration => store.engine.leftBy? (some configuration)
  | none => if store.reads event then none else lost

def amid (store : Store Document) (disk : Disk) (faults : List (Option WriteFault)) :
    Store Document :=
  { store with engine := { store.engine with disk, faults } }

/-- The states that a store can come to from its first load on, each with what the
last write that was asked for has left of the document if it has failed. Before the
load the store is asked and told anything, and the files may become any others. From
then on the document is the store's own, but somebody may change what lies around it,
and any fault may befall a write. -/
inductive Loaded (setup : Setup) : Store Document → Option (Option Configuration) → Prop
  | load {disk files : Disk} {draws : Draws} {booted : Memory} {opened waiting : Store Document}
      {calls : List Command} {faults : List (Option WriteFault)} :
      (setup.boot disk draws).1 = .ok booted → setup.openStore booted = .ok opened →
      (∀ call ∈ calls, call.IsGiving) →
      waiting = (opened.after setup.device calls).amid files faults →
      Loaded setup (waiting.load setup.device).2 (waiting.lostAt setup.device none .load)
  | run {store next : Store Document} {lost : Option (Option Configuration)} {event : Event} :
      Loaded setup store lost → event.IsRoutine →
      (setup.run (.running store) event).2 = .running next →
      Loaded setup next (store.lostAt setup.device lost event)
  | amid {store : Store Document} {lost : Option (Option Configuration)} {disk : Disk}
      {faults : List (Option WriteFault)} :
      Loaded setup store lost → (store.amid disk faults).engine.stored? = store.engine.stored? →
      Loaded setup (store.amid disk faults) lost

variable {device : Device} {store next : Store Document} {lost : Option (Option Configuration)}
  {event : Event} {configuration : Configuration}

/-- How a store stands to its document. As long as the last write has not failed, the
two agree when the store is clean. After it has failed, the document is what the write
has left, and a store whose writes never wait is clean all the same. -/
structure Reports (device : Device) (store : Store Document)
    (lost : Option (Option Configuration)) : Prop where
  loaded : store.engine.loaded = true
  agrees : lost = none → store.dirty = false → store.engine.Agrees store.slot
  lost : ∀ left ∈ lost, store.slot ≠ none ∧ store.engine.stored? = left ∧
    (device.queues = false → store.dirty = false)

/-! ## Single events -/

structure Asks (onto : Document) (configuration : Configuration) (next : Store Document) :
    Prop where
  engine : next.engine = (Engine.request onto (some configuration)).engine
  slot : next.slot = some configuration
  clean : next.dirty = false

structure Rests (device : Device) (onto : Document) (store next : Store Document) : Prop where
  engine : next.engine = onto
  slot : next.slot = store.slot
  dirty : next.dirty = store.dirty ∨ device.queues = true ∧ next.dirty = true

theorem Asks.reports {onto : Document} (asks : Asks onto configuration next)
    (loaded : onto.loaded = true) : next.Reports device (onto.leftBy? (some configuration)) := by
  unfold Document.leftBy?
  rcases attempt : onto.write (some configuration) with ⟨error | _, disk⟩
  · have engine :=
      asks.engine.trans (congrArg Reply.engine (Document.request_of_error loaded attempt))
    refine ⟨?_, nofun, ?_⟩
    · rw [engine]
      exact loaded
    · rintro left ⟨⟩
      rw [asks.slot, engine]
      exact ⟨nofun, rfl, fun _ => asks.clean⟩
  · have engine :=
      asks.engine.trans (congrArg Reply.engine (Document.request_of_write loaded attempt))
    refine ⟨?_, fun _ _ => ?_, nofun⟩
    · rw [engine]
      exact loaded
    · rw [asks.slot, engine]
      exact Document.agrees_of_write attempt rfl

theorem Rests.reports {onto : Document} (rests : Rests device onto store next)
    (loaded : onto.loaded = true)
    (agrees : lost = none → store.dirty = false → onto.Agrees store.slot)
    (loses : ∀ left ∈ lost, store.slot ≠ none ∧ onto.stored? = left ∧
      (device.queues = false → store.dirty = false)) :
    next.Reports device lost := by
  refine ⟨rests.engine ▸ loaded, fun written clean => ?_, fun left lose => ?_⟩
  · rw [rests.engine, rests.slot]
    rcases rests.dirty with same | ⟨_, dirty⟩
    · exact agrees written (same.symm.trans clean)
    · exact nomatch clean.symm.trans dirty
  · rcases loses left lose with ⟨held, leaves, clean⟩
    rw [rests.engine, rests.slot]
    refine ⟨held, leaves, fun inline => ?_⟩
    rcases rests.dirty with same | ⟨waits, _⟩
    · exact same.trans (clean inline)
    · exact nomatch inline.symm.trans waits

theorem asks_keep (loaded : store.engine.loaded = true) (configuration : Configuration) :
    Asks store.engine configuration (store.keep configuration).2 := by
  refine ⟨engine_keep _ _, slot_keep _ _, ?_⟩
  have taken := Document.taken_of_loaded loaded (some configuration)
  rw [keep_eq, request_eq]
  dsimp only
  split <;> simp [taken, notify]

theorem asks_replayReady (loaded : store.engine.loaded = true)
    (asked : store.replayed? device = some configuration) :
    Asks store.engine configuration (store.replayReady device).2 := by
  unfold replayed? at asked
  split at asked
  · rename_i owed
    have taken := Document.taken_of_loaded loaded store.slot
    rw [replayReady_of_some owed.1 asked, post, owed.2]
    simp only [Bool.false_eq_true, if_false, request_eq]
    refine ⟨?_, asked, ?_⟩
    · rw [asked]
    · simp [taken]
  · cases asked

theorem rests_replayReady (asked : store.replayed? device = none) :
    Rests device store.engine store (store.replayReady device).2 := by
  by_cases pending : store.migration = .pendingReplay
  · cases held : store.slot with
    | none =>
      rw [replayReady_of_none pending held]
      exact ⟨rfl, rfl, .inl rfl⟩
    | some configuration =>
      have waits : device.queues = true := by simpa [replayed?, pending, held] using asked
      rw [replayReady_of_some pending held, post, waits]
      exact ⟨rfl, rfl, .inr ⟨waits, rfl⟩⟩
  · rw [replayReady_of_ne pending]
    exact ⟨rfl, rfl, .inl rfl⟩

theorem load_cases (device : Device) (store : Store Document) :
    let onto : Document := { store.engine with loaded := true }
    let next := (store.load device).2
    (∃ configuration, store.asked? device .load = none ∧
        store.engine.stored? = some configuration ∧
        next = { store with engine := onto, slot := some configuration }) ∨
      (∃ configuration, store.asked? device .load = some configuration ∧
        Asks onto configuration next) ∨
      (store.asked? device .load = none ∧ store.engine.stored? = none ∧
        Rests device onto store next) := by
  intro onto next
  let ready : Store Document := { store with engine := onto }
  have loaded : ready.engine.loaded = true := rfl
  cases holds : store.engine.disk.holds store.engine.path with
  | error error =>
    have missing : store.engine.stored? = none :=
      Document.stored?_of_missing (Disk.named?_of_holds_eq_error holds)
    have same : next = ready := by simp only [next, load, holds, ready, onto]
    refine .inr (.inr ⟨by simp only [asked?, holds], missing, ?_⟩)
    rw [same]
    exact ⟨rfl, rfl, .inl rfl⟩
  | ok present =>
    have again : onto.stored? = store.engine.stored? := rfl
    cases found : store.engine.stored? with
    | some configuration =>
      have same : next = { ready with slot := some configuration } := by
        simp only [next, load, holds, again.trans found, adopt, ready, onto]
      exact .inl ⟨configuration, by simp only [asked?, holds, found], rfl, same⟩
    | none =>
      have same : next = (ready.replayReady device).2 := by
        simp only [next, load, holds, again.trans found, ready, onto]
      have asks : store.asked? device .load = ready.replayed? device := by
        simp only [asked?, holds, found, replayed?, ready]
      rw [asks, same]
      cases asked : ready.replayed? device with
      | some configuration => exact .inr (.inl ⟨configuration, rfl, asks_replayReady loaded asked⟩)
      | none =>
        have rests := rests_replayReady asked
        exact .inr (.inr ⟨rfl, rfl, rests.engine, rests.slot, rests.dirty⟩)

theorem reports_load
    (agrees : lost = none → store.dirty = false → store.engine.stored? = none →
      store.engine.Agrees store.slot)
    (loses : ∀ left ∈ lost, store.slot ≠ none ∧ store.engine.stored? = left ∧
      (device.queues = false → store.dirty = false)) :
    (store.load device).2.Reports device (store.lostAt device lost .load) := by
  rcases load_cases device store with ⟨configuration, asked, found, same⟩ |
    ⟨configuration, asked, asks⟩ | ⟨asked, missing, rests⟩
  · rw [lostAt, asked, same]
    simp only [reads, found, Option.isSome_some, if_true]
    exact ⟨rfl, fun _ _ => Document.agrees_of_stored? found, nofun⟩
  · rw [lostAt, asked]
    exact asks.reports rfl
  · rw [lostAt, asked]
    simp only [reads, missing, Option.isSome_none, Bool.false_eq_true, if_false]
    exact rests.reports rfl (fun written clean => agrees written clean missing) loses

theorem Reports.runCommand (reports : store.Reports device lost) {command : Command}
    (routine : Event.IsRoutine (.command command)) :
    (store.run device command).2.Reports device (store.lostAt device lost (.command command)) := by
  cases keeps : store.kept? device command with
  | some configuration =>
    have asked : store.asked? device (.command command) = some configuration := by
      cases command with
      | replayReady => cases keeps
      | _ => exact keeps
    rcases run_of_kept? keeps with ⟨draws, same⟩
    let drawn : Store Document := { store with draws }
    have loaded : drawn.engine.loaded = true := reports.loaded
    rw [lostAt, asked, same]
    exact (asks_keep loaded configuration).reports loaded
  | none =>
    cases command with
    | get =>
      have asked : store.asked? device (.command .get) = none := keeps
      rcases get_of_kept?_eq_none keeps with ⟨configuration, _, _, same⟩
      rw [lostAt, asked, Store.run, same]
      exact reports
    | set candidate => cases candidate <;> cases keeps
    | replayReady =>
      cases asked : store.replayed? device with
      | some configuration =>
        rw [lostAt, asked?, asked]
        exact (asks_replayReady reports.loaded asked).reports reports.loaded
      | none =>
        rw [lostAt, asked?, asked]
        exact (rests_replayReady asked).reports reports.loaded reports.agrees reports.lost
    | _ => exact routine.elim

theorem Reports.run {setup : Setup} (reports : store.Reports setup.device lost)
    (routine : event.IsRoutine)
    (runs : (setup.run (.running store) event).2 = .running next) :
    next.Reports setup.device (store.lostAt setup.device lost event) := by
  cases event with
  | command command =>
    cases runs
    exact reports.runCommand routine
  | load =>
    cases runs
    exact reports_load (fun written clean _ => reports.agrees written clean) reports.lost
  | _ => exact routine.elim

theorem Reports.amid (reports : store.Reports device lost) {disk : Disk}
    {faults : List (Option WriteFault)}
    (same : (store.amid disk faults).engine.stored? = store.engine.stored?) :
    Reports device (store.amid disk faults) lost := by
  refine ⟨reports.loaded, fun written clean => same.trans (reports.agrees written clean), ?_⟩
  intro left lose
  rcases reports.lost left lose with ⟨held, leaves, clean⟩
  exact ⟨held, same.trans leaves, clean⟩

theorem reports_first_load {setup : Setup} {disk files : Disk} {draws : Draws} {booted : Memory}
    {opened : Store Document} (boots : (setup.boot disk draws).1 = .ok booted)
    (opens : setup.openStore booted = .ok opened) {calls : List Command}
    (giving : ∀ call ∈ calls, call.IsGiving) {faults : List (Option WriteFault)} :
    let waiting := (opened.after setup.device calls).amid files faults
    (waiting.load setup.device).2.Reports setup.device
      (waiting.lostAt setup.device none .load) := by
  intro waiting
  rcases Setup.waits_of_boot boots opens with ⟨onto, _, unloaded, _, _, waits, _⟩
  have still := (waits.after unloaded giving).1
  refine reports_load (fun _ clean missing => ?_) nofun
  have empty : waiting.slot = none := Option.not_isSome_iff_eq_none.mp (by
    rw [show waiting.slot.isSome = waiting.dirty from still.dirty.symm, clean]
    exact Bool.false_ne_true)
  rw [Document.Agrees, missing, empty]
  rfl

/-- As long as the last write that was asked for has not failed, a clean store is one
whose document holds what the store holds. Once that write has failed, the document is
what the write has left of it, but a store whose writes never wait is clean all the
same: nothing says any more that the write is owed. -/
theorem Loaded.agrees_unless_write_failed {setup : Setup} (loaded : store.Loaded setup lost) :
    (lost = none → store.dirty = false → store.engine.Agrees store.slot) ∧
      (∀ left ∈ lost, store.slot ≠ none ∧ store.engine.stored? = left ∧
        (setup.device.queues = false → store.dirty = false)) := by
  suffices reports : store.Reports setup.device lost from ⟨reports.agrees, reports.lost⟩
  induction loaded with
  | load boots opens giving same =>
    subst same
    exact reports_first_load boots opens giving
  | run _ routine runs reports => exact reports.run routine runs
  | amid _ same reports => exact reports.amid same

theorem agrees_unless_write_failed_of_set :
    let setup : Setup := { path := { parts := ["softap.json"] } }
    let opened := Store.create setup.device { disk := {}, path := setup.path } (.cycle []) 0 none
    let setting : Command := .set (some { ssid := some "AP" })
    let final := ((opened.load setup.device).2.run setup.device setting).2
    final.dirty = false ∧ final.slot ≠ none ∧ final.engine.Agrees final.slot := by
  intro setup opened setting final
  have boots : (setup.boot {} (.cycle [])).1 =
      .ok (.booted { disk := {}, path := setup.path } (.cycle []) 0) := rfl
  have ready : Loaded setup (opened.load setup.device).2 none :=
    .load boots rfl (List.forall_mem_nil Command.IsGiving) rfl
  have routine : (Event.command setting).IsRoutine := trivial
  have loaded : final.Loaded setup none := .run ready routine rfl
  have clean : final.dirty = false := rfl
  exact ⟨clean, nofun, loaded.agrees_unless_write_failed.1 rfl clean⟩

/-- Where the path of the document is a directory, a store is clean although it holds
what was never written. -/
theorem clean_after_failed_write :
    let setup : Setup := { path := { parts := ["softap.json"] } }
    let disk : Disk := { entries := [({ base := .above 0, names := ["softap.json"] }, .directory)] }
    let opened := Store.create setup.device { disk, path := setup.path } (.cycle []) 0 none
    let given : Configuration := { ssid := some "AP" }
    let final := ((opened.load setup.device).2.run setup.device (.set (some given))).2
    final.Loaded setup (some none) ∧ final.dirty = false ∧ final.slot = some given ∧
      final.engine.stored? = none := by
  intro setup disk opened given final
  have boots : (setup.boot disk (.cycle [])).1 =
      .ok (.booted { disk, path := setup.path } (.cycle []) 0) := rfl
  have ready : Loaded setup (opened.load setup.device).2 none :=
    .load boots rfl (List.forall_mem_nil Command.IsGiving) rfl
  have routine : (Event.command (.set (some given))).IsRoutine := trivial
  have loaded : final.Loaded setup (some none) := .run ready routine rfl
  exact ⟨loaded, rfl, by decide +kernel, by decide +kernel⟩

/-- A document that may be read but not written stays what it was. The store is clean
nevertheless, and holds what it was asked to keep. -/
theorem run_of_denied (loaded : store.engine.loaded = true)
    (denied : store.engine.faults.headD none = some .denied) {command : Command}
    (keeps : store.kept? device command = some configuration) {former : Configuration}
    (stored : store.engine.stored? = some former) :
    let next := (store.run device command).2
    next.dirty = false ∧ next.slot = some configuration ∧ next.engine.stored? = some former := by
  intro next
  rcases run_of_kept? keeps with ⟨draws, same⟩
  let drawn : Store Document := { store with draws }
  have asks : Asks store.engine configuration next := by
    have opened : drawn.engine.loaded = true := loaded
    have kept := asks_keep opened configuration
    have ran : next = (drawn.keep configuration).2 := congrArg Prod.snd same
    rw [ran]
    exact kept
  refine ⟨asks.clean, asks.slot, ?_⟩
  rcases Document.writable_of_stored? stored (Document.encode (some configuration)) with
    ⟨after, written⟩
  have attempt : store.engine.write (some configuration) = (.error .denied, store.engine.disk) := by
    rw [Document.write, denied]
    exact Disk.write_denied_of_write written
  rw [asks.engine, Document.request_of_error loaded attempt]
  exact stored

end Store

end Hotspot
