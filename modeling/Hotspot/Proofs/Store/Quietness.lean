import Hotspot.Proofs.Configuration.Generation
import Hotspot.Proofs.Session.Events
import Hotspot.Proofs.Store.Accounting

/-! Reading is quiet once it has settled. A reading may have to generate a
configuration or to change its bands, and then asks once for it to be written. What
it answers with stays in the store through everything but settings and adoptions, and
nothing more is written then but what a takeover still owes. All of this holds
whatever the engine makes of the requests, so it is stated for any engine. -/

namespace Hotspot

def Engine.requested {engine : Type} [Engine engine] (onto : engine)
    (slots : List (Option Configuration)) : engine :=
  slots.foldl (fun onto slot => (Engine.request onto slot).engine) onto

theorem Engine.requested_append {engine : Type} [Engine engine] (onto : engine)
    (first later : List (Option Configuration)) :
    Engine.requested onto (first ++ later) =
      Engine.requested (Engine.requested onto first) later :=
  List.foldl_append

theorem requests_requested {recording : Recording} (accepting : recording.refusing = false)
    (slots : List (Option Configuration)) :
    (Engine.requested recording slots).requests = recording.requests + slots.length := by
  induction slots generalizing recording with
  | nil => rfl
  | cons slot rest induction =>
    rcases Store.request_accepting accepting slot with ⟨_, asked, still⟩
    have later := induction still
    rw [List.length_cons, Nat.add_comm rest.length, ← Nat.add_assoc, ← asked]
    exact later

/-- The command neither sets a configuration nor adopts one. -/
def Command.IsReading : Command → Prop
  | .set _ | .adopt _ => False
  | _ => True

def Command.isOffer : Command → Bool
  | .localOnly .. => true
  | _ => false

namespace Store

variable {engine : Type} [Engine engine] {device : Device} {store : Store engine}
  {configuration : Configuration}

/-! ## What goes on in a store that nobody changes -/

/-- From one store to another, so many owed writes were carried out, each of what the
store holds, and so many offers were drawn. That is all that has happened. -/
structure Undisturbed (replayed offered : Nat) (store after : Store engine) : Prop where
  slot : after.slot = store.slot
  engine : after.engine =
    Engine.requested store.engine (List.replicate replayed store.slot)
  owed : replayed + after.owed = store.owed
  backups : after.backups = store.backups
  draws : after.draws = store.draws.skip (16 * offered)

namespace Undisturbed

theorem refl (store : Store engine) : Undisturbed 0 0 store store where
  slot := rfl
  engine := rfl
  owed := Nat.zero_add _
  backups := rfl
  draws := rfl

theorem trans {middle after : Store engine} {replayed offered more others : Nat}
    (first : Undisturbed replayed offered store middle)
    (later : Undisturbed more others middle after) :
    Undisturbed (replayed + more) (offered + others) store after where
  slot := later.slot.trans first.slot
  engine := by
    rw [later.engine, first.engine, first.slot, ← Engine.requested_append,
      List.replicate_append_replicate]
  owed := by
    have start := first.owed
    have rest := later.owed
    omega
  backups := later.backups.trans first.backups
  draws := by
    rw [later.draws, first.draws]
    simp only [Draws.skip, Nat.mul_add, Nat.add_assoc]

end Undisturbed

theorem undisturbed_request {count : Nat} (waiting : store.queued = count + 1) :
    Undisturbed 1 0 store (request { store with queued := count }).2 := by
  rw [request_eq]
  exact {
    slot := rfl
    engine := rfl
    owed := by
      have before : store.owed =
          count + 1 + if store.migration = .pendingReplay then 1 else 0 := by
        rw [owed, waiting]
      rw [before, Nat.add_comm count 1, Nat.add_assoc]
      rfl
    backups := rfl
    draws := rfl }

theorem undisturbed_dispatchFirst {count : Nat} (waiting : store.queued = count) :
    ∃ replayed, Undisturbed replayed 0 store (store.dispatchFirst count).2 := by
  induction count generalizing store with
  | zero => exact ⟨0, .refl store⟩
  | succ count induction =>
    have first := undisturbed_request waiting
    unfold dispatchFirst
    split
    · rename_i middle requested
      have left : middle.queued = count := by
        rw [← show (request { store with queued := count }).2 = middle from
          congrArg Prod.snd requested, request_eq]
      rw [requested] at first
      rcases induction left with ⟨more, later⟩
      refine ⟨1 + more, ?_⟩
      split <;> rename_i dispatched <;> rw [dispatched] at later <;> exact first.trans later
    · rename_i requested
      rw [requested] at first
      exact ⟨1, first⟩

theorem undisturbed_replayReady (device : Device) (held : store.slot = some configuration) :
    ∃ replayed, Undisturbed replayed 0 store (store.replayReady device).2 := by
  by_cases pending : store.migration = .pendingReplay
  · rw [replayReady_of_some pending held, post]
    cases device.queues with
    | true =>
      exact ⟨0, {
        slot := rfl
        engine := rfl
        owed := by simp [owed, pending]
        backups := rfl
        draws := rfl }⟩
    | false =>
      simp only [Bool.false_eq_true, if_false, request_eq]
      exact ⟨1, {
        slot := rfl
        engine := rfl
        owed := by simp [owed, pending, Nat.add_comm]
        backups := rfl
        draws := rfl }⟩
  · rw [replayReady_of_ne pending]
    exact ⟨0, .refl store⟩

/-- The store holds a configuration on bands that the device uses. -/
structure Settled {engine : Type} (device : Device) (configuration : Configuration)
    (store : Store engine) : Prop where
  slot : store.slot = some configuration
  usable : device.capabilities.policy.changes configuration.band = false

theorem Settled.of_undisturbed {after : Store engine} {replayed offered : Nat}
    (settled : store.Settled device configuration)
    (undisturbed : Undisturbed replayed offered store after) :
    after.Settled device configuration :=
  ⟨undisturbed.slot.trans settled.slot, settled.usable⟩

theorem Settled.get_eq (settled : store.Settled device configuration) :
    store.get device = (.ok configuration, store) := by
  rw [get_of_some settled.slot, keepUsable, if_neg (by simp [settled.usable])]

theorem Settled.undisturbed_run (settled : store.Settled device configuration)
    {command : Command} (reading : command.IsReading) :
    ∃ replayed, Undisturbed replayed command.isOffer.toNat store
      (store.run device command).2 := by
  cases command with
  | get =>
    rw [run, settled.get_eq]
    exact ⟨0, .refl store⟩
  | set candidate => exact reading.elim
  | adopt configuration => exact reading.elim
  | replayReady => exact undisturbed_replayReady device settled.slot
  | dispatch => exact undisturbed_dispatchFirst rfl
  | localOnly band custom =>
    exact ⟨0, {
      slot := rfl
      engine := rfl
      owed := Nat.zero_add _
      backups := rfl
      draws := by
        have left := Defaults.localOnly_eq device.capabilities band custom store.draws
        exact congrArg Prod.snd left }⟩
  | _ => exact ⟨0, ⟨rfl, rfl, Nat.zero_add _, rfl, rfl⟩⟩

theorem Settled.undisturbed_after (settled : store.Settled device configuration)
    {commands : List Command} (reading : ∀ command ∈ commands, command.IsReading) :
    ∃ replayed, Undisturbed replayed (commands.countP Command.isOffer) store
      (store.after device commands) := by
  induction commands generalizing store with
  | nil => exact ⟨0, .refl store⟩
  | cons command rest induction =>
    rcases settled.undisturbed_run (reading command List.mem_cons_self) with ⟨replayed, first⟩
    rcases induction (settled.of_undisturbed first)
      fun later member => reading later (List.mem_cons_of_mem command member) with ⟨more, later⟩
    have offers : (command :: rest).countP Command.isOffer =
        command.isOffer.toNat + rest.countP Command.isOffer := by
      rw [List.countP_cons, Nat.add_comm]
      cases command.isOffer <;> rfl
    exact ⟨replayed + more, offers ▸ first.trans later⟩

/-! ## The first reading -/

theorem keep_requests (configuration : Configuration) (store : Store engine) :
    (store.keep configuration).2.engine =
        Engine.requested store.engine (List.replicate 1 (some configuration)) ∧
      (store.keep configuration).2.owed = store.owed ∧
      (store.keep configuration).2.draws = store.draws ∧
      ((Engine.request store.engine (some configuration)).outcome = .ok () →
        (store.keep configuration).1 = .ok configuration ∧
          (store.keep configuration).2.backups = store.backups + 1) := by
  refine ⟨engine_keep _ _, ?_, ?_, fun accepted => ⟨?_, backups_keep accepted⟩⟩
  · simp only [owed, queued_keep, migration_keep]
  · rw [keep_eq, request_eq]
    dsimp only
    split <;> rfl
  · rw [answer_keep, accepted]
    rfl

def GetsThrough (device : Device) (store : Store engine) (configuration : Configuration) : Prop :=
  store.changingReads device .get = 0 ∨
    (Engine.request store.engine (some configuration)).outcome = .ok ()

/-- A reading settles the store. It asks once for what it answers with to be written
if the store was empty or on other bands, and for nothing otherwise. -/
theorem get_settles (device : Device) (store : Store engine) :
    ∃ configuration,
      (store.get device).2.Settled device configuration ∧
      (store.get device).2.engine = Engine.requested store.engine
        (List.replicate (store.changingReads device .get) (some configuration)) ∧
      (store.get device).2.owed = store.owed ∧
      (store.get device).2.draws = store.draws.skip (if store.slot.isNone then 16 else 0) ∧
      (store.GetsThrough device configuration →
        (store.get device).1 = .ok configuration ∧
          (store.get device).2.backups = store.backups + store.changingReads device .get) := by
  cases held : store.slot with
  | none =>
    let drawn : Store engine :=
      { store with draws := (Defaults.tethering device.capabilities store.draws).2 }
    let fresh := (Defaults.tethering device.capabilities store.draws).1
    have usable := (Configuration.isSupported_tethering device.capabilities store.draws).bands
    have amount : store.changingReads device .get = 1 := by simp only [changingReads, held]
    have getting : store.get device = drawn.keep fresh := get_of_none held
    rcases keep_requests fresh drawn with ⟨engine, owed, draws, through⟩
    rw [getting, amount]
    refine ⟨fresh, ⟨slot_keep _ _, usable⟩, engine, owed, ?_, fun accepted => ?_⟩
    · rw [draws]
      exact Defaults.draws_tethering device.capabilities store.draws
    · exact through (accepted.resolve_left (by omega))
  | some configuration =>
    cases changes : device.capabilities.policy.changes configuration.band with
    | true =>
      let converted := configuration.withPolicy device.capabilities.policy
      have usable : device.capabilities.policy.changes converted.band = false := by
        rw [Configuration.band_withPolicy]
        exact RadioPolicy.changes_convert _ _
      have amount : store.changingReads device .get = 1 := by
        simp only [changingReads, held, changes, if_true]
      have getting : store.get device = store.keep converted :=
        (get_of_some held).trans (if_pos changes)
      rcases keep_requests converted store with ⟨engine, owed, draws, through⟩
      rw [getting, amount]
      exact ⟨converted, ⟨slot_keep _ _, usable⟩, engine, owed, draws,
        fun accepted => through (accepted.resolve_left (by omega))⟩
    | false =>
      have settled : store.Settled device configuration := ⟨held, changes⟩
      have amount : store.changingReads device .get = 0 := by
        simp [changingReads, held, changes]
      rw [settled.get_eq, amount]
      exact ⟨configuration, settled, rfl, rfl, rfl, fun _ => ⟨rfl, rfl⟩⟩

/-! ## Stores in the course of their lives -/

/-- A store that was created, perhaps with a takeover, and has carried out commands.
In between, the engine may have changed of its own accord, as by reading its document
or by losing it. -/
inductive Reachable (device : Device) : Store engine → Prop
  | create (onto : engine) (draws : Draws) (backups : Nat) (takenOver : Option Configuration) :
      Reachable device (create device onto draws backups takenOver)
  | run {store : Store engine} (command : Command) (reachable : Reachable device store) :
      Reachable device (store.run device command).2
  | engine {store : Store engine} (onto : engine) (reachable : Reachable device store) :
      Reachable device { store with engine := onto }

theorem owed_run_le (device : Device) (store : Store engine) (command : Command) :
    (store.run device command).2.owed ≤ store.owed := by
  cases keeps : store.kept? device command with
  | some configuration =>
    rcases run_of_kept? keeps with ⟨draws, same⟩
    rw [same, StoreStep.answer]
    simp only [owed, queued_keep, migration_keep, Nat.le_refl]
  | none =>
    cases command with
    | get =>
      rcases get_of_kept?_eq_none keeps with ⟨configuration, _, _, same⟩
      rw [run, same]
      exact Nat.le_refl _
    | set candidate => cases candidate <;> cases keeps
    | replayReady =>
      cases held : store.slot with
      | none =>
        by_cases pending : store.migration = .pendingReplay
        · rw [run, replayReady_of_none pending held]
          simp [StoreStep.answer, owed]
        · rw [run, replayReady_of_ne pending]
          exact Nat.le_refl _
      | some configuration =>
        rcases undisturbed_replayReady device held with ⟨replayed, undisturbed⟩
        exact Nat.le.intro ((Nat.add_comm _ _).trans undisturbed.owed)
    | dispatch =>
      rcases undisturbed_dispatchFirst (rfl : store.queued = _) with ⟨replayed, undisturbed⟩
      exact Nat.le.intro ((Nat.add_comm _ _).trans undisturbed.owed)
    | _ => exact Nat.le_refl _

theorem Reachable.owed_le_one (reachable : Reachable device store) : store.owed ≤ 1 := by
  induction reachable with
  | create onto draws backups takenOver =>
    cases takenOver with
    | none => exact Nat.zero_le 1
    | some configuration =>
      have queued : (set device (some configuration)
          { engine := Engine.register onto, draws, backups }).2.queued = 0 := queued_keep _ _
      simp [Store.create, owed, queued]
  | run command _ induction => exact Nat.le_trans (owed_run_le device _ command) induction
  | engine onto _ induction => exact induction

/-- The stores of a session are of this kind. -/
theorem Reachable.event {setup : Setup} {store : Store Document} {event : Event}
    (reachable : Reachable setup.device store) (own : event.IsOwn fun _ => True) :
    ∃ after, (setup.run (.running store) event).2 = .running after ∧
      Reachable setup.device after := by
  cases event with
  | command command => exact ⟨_, rfl, reachable.run command⟩
  | load =>
    refine ⟨_, rfl, ?_⟩
    have ready := reachable.engine { store.engine with loaded := true }
    unfold load
    dsimp only
    split
    · exact ready
    · split
      · exact ready.run (.adopt _)
      · exact ready.run .replayReady
  | requestPersist changed =>
    refine ⟨_, rfl, ?_⟩
    cases changed with
    | false => exact reachable
    | true =>
      have asked := reachable.engine (Engine.request store.engine store.slot).engine
      change Reachable setup.device store.request.2
      simp only [request_eq]
      cases (Engine.request store.engine store.slot).taken with
      | false =>
        rw [Bool.not_false, Bool.and_true]
        exact asked
      | true =>
        rw [Bool.not_true, Bool.and_false]
        exact asked.run .serialize
  | _ => exact own.elim

/-- A reading asks for what the store then holds to be written exactly if the store
was empty or on bands that the device does not use. Unless the engine turns that down,
the reading announces it as often and answers with it. Until the next setting or
adoption, every reading then gives that answer and changes nothing; no backup is
announced, nothing is drawn but for offers, and nothing is written but what a takeover
still owes, once at most. -/
theorem Reachable.reads_quietly (reachable : Reachable device store) :
    ∃ configuration after, (store.get device).2 = after ∧
      after.slot = some configuration ∧
      after.engine = Engine.requested store.engine
        (List.replicate (store.changingReads device .get) (some configuration)) ∧
      (store.GetsThrough device configuration →
        (store.get device).1 = .ok configuration ∧
          after.backups = store.backups + store.changingReads device .get) ∧
      after.owed = store.owed ∧ store.owed ≤ 1 ∧
      ∀ commands : List Command, (∀ command ∈ commands, command.IsReading) →
        (after.after device commands).get device =
            (.ok configuration, after.after device commands) ∧
          ∃ replayed, Undisturbed replayed (commands.countP Command.isOffer) after
            (after.after device commands) := by
  rcases get_settles device store with ⟨configuration, settled, engine, owed, _, through⟩
  refine ⟨configuration, _, rfl, settled.slot, engine, through, owed,
    reachable.owed_le_one, ?_⟩
  intro commands reading
  rcases settled.undisturbed_after reading with ⟨replayed, undisturbed⟩
  exact ⟨(settled.of_undisturbed undisturbed).get_eq, replayed, undisturbed⟩

theorem reads_quietly_of_adopted :
    let device : Device := { queues := true }
    let start : Store Recording :=
      create device {} (.cycle [9, 88, 777]) 0 (some { ssid := some "AP" })
    let store := (start.run device (.adopt (some { ssid := some "AP", band := ⟨11⟩ }))).2
    let commands : List Command :=
      [.replayReady, .get, .localOnly .ghz5 none, .dispatch, .serialize, .get]
    Reachable device store ∧ (∀ command ∈ commands, command.IsReading) ∧
      ∃ configuration after, store.get device = (.ok configuration, after) ∧
        after.slot = some configuration ∧
        after.engine.requests = 2 ∧ after.backups = 2 ∧
        (after.after device commands).get device =
          (.ok configuration, after.after device commands) ∧
        ∃ replayed, Undisturbed replayed 1 after (after.after device commands) := by
  intro device start store commands
  have reachable : Reachable device store := .run _ (.create _ _ _ _)
  have reading : ∀ command ∈ commands, command.IsReading := by
    simp [commands, Command.IsReading]
  have accepting : store.engine.refusing = false := by decide +kernel
  have amount : store.changingReads device .get = 1 := by decide +kernel
  have told : store.backups = 1 := by decide +kernel
  have asked : store.engine.requests = 1 := by decide +kernel
  rcases reachable.reads_quietly with
    ⟨configuration, after, left, slot, engine, through, _, _, later⟩
  rcases through (.inr (request_accepting accepting _).1) with ⟨answer, backups⟩
  refine ⟨reachable, reading, configuration, after, Prod.ext answer left, slot, ?_, ?_,
    (later commands reading).1, (later commands reading).2⟩
  · rw [engine, requests_requested accepting, List.length_replicate, asked, amount]
  · rw [backups, told, amount]

end Store

end Hotspot
