import Hotspot.Proofs.Store.Steps
import Hotspot.Store.Recording

/-! How often a store asks its engine to write, and what for. Every request
belongs to a configuration that the store has just kept, which the backup service
hears of, or to the write that a takeover owes. The owed write waits for the
engine to be ready, then perhaps in the queue, and is asked for once at most. -/

namespace Hotspot

namespace Store

variable {device : Device}

/-! ## Amounts -/

def total {engine : Type} [Engine engine] (device : Device)
    (amount : Store engine → Command → Nat) (store : Store engine) : List Command → Nat
  | [] => 0
  | command :: rest =>
    amount store command + total device amount (store.run device command).2 rest

def sets {engine : Type} (_ : Store engine) : Command → Nat
  | .set _ => 1
  | _ => 0

def changingReads {engine : Type} (device : Device) (store : Store engine) : Command → Nat
  | .get =>
    match store.slot with
    | none => 1
    | some configuration =>
      if device.capabilities.policy.changes configuration.band then 1 else 0
  | _ => 0

/-- How many owed writes a command carries out: the one that falls due and need
not wait, or those that waited. -/
def replays {engine : Type} (device : Device) (store : Store engine) : Command → Nat
  | .replayReady =>
    if store.migration = .pendingReplay ∧ store.slot.isSome ∧ device.queues = false then 1 else 0
  | .dispatch => store.queued
  | _ => 0

/-- How many owed writes may still be carried out. -/
def owed {engine : Type} (store : Store engine) : Nat :=
  store.queued + if store.migration = .pendingReplay then 1 else 0

theorem sets_add_changingReads {engine : Type} (device : Device) (store : Store engine)
    (command : Command) :
    store.sets command + store.changingReads device command =
      (store.kept? device command).isSome.toNat := by
  cases command with
  | get =>
    unfold sets changingReads kept?
    cases store.slot with
    | none => rfl
    | some configuration =>
      dsimp only
      split <;> rfl
  | set candidate => cases candidate <;> rfl
  | _ => rfl

/-! ## What a command does to the accounts -/

structure Accounted (device : Device) (store : Store Recording) (command : Command)
    (after : Store Recording) : Prop where
  accepting : after.engine.refusing = false
  requests : after.engine.requests = store.engine.requests +
    (store.sets command + store.changingReads device command) + store.replays device command
  backups : after.backups =
    store.backups + (store.sets command + store.changingReads device command)
  owed : store.replays device command + after.owed ≤ store.owed

theorem request_accepting {recording : Recording} (accepting : recording.refusing = false)
    (slot : Option Configuration) :
    (Engine.request recording slot).outcome = .ok () ∧
      (Engine.request recording slot).engine.requests = recording.requests + 1 ∧
      (Engine.request recording slot).engine.refusing = false := by
  simp only [Engine.request, Recording.request, accepting, Bool.false_eq_true, if_false]
  split <;> exact ⟨rfl, rfl, rfl⟩

theorem dispatchFirst_accepting {store : Store Recording} {count : Nat}
    (accepting : store.engine.refusing = false) (waiting : store.queued = count) :
    ∃ after, store.dispatchFirst count = (.ok count, after) ∧
      after.engine.refusing = false ∧
      after.engine.requests = store.engine.requests + count ∧
      after.queued = 0 ∧ after.backups = store.backups ∧
      after.migration = store.migration := by
  induction count generalizing store with
  | zero => exact ⟨store, rfl, accepting, rfl, waiting, rfl, rfl⟩
  | succ count induction =>
    have asked := request_accepting accepting store.slot
    let reply := Engine.request store.engine store.slot
    let first : Store Recording :=
      { store with engine := reply.engine, dirty := store.dirty && !reply.taken, queued := count }
    have requested : request { store with queued := count } = (.ok (), first) := by
      rw [request_eq, ← asked.1]
    have accepted : first.engine.refusing = false := asked.2.2
    rcases induction accepted rfl with
      ⟨after, dispatched, still, requests, queued, backups, migration⟩
    refine ⟨after, ?_, still, ?_, queued, backups, migration⟩
    · simp only [dispatchFirst, requested, dispatched]
    · have one : first.engine.requests = store.engine.requests + 1 := asked.2.1
      omega

theorem accounted_of_kept? {store : Store Recording} {command : Command}
    {configuration : Configuration} (accepting : store.engine.refusing = false)
    (keeps : store.kept? device command = some configuration) :
    Accounted device store command (store.run device command).2 := by
  have amount := sets_add_changingReads device store command
  have asked := request_accepting accepting (some configuration)
  have noReplay : store.replays device command = 0 := by
    cases command with
    | get => rfl
    | set candidate => rfl
    | _ => cases keeps
  rw [keeps] at amount
  rcases run_of_kept? keeps with ⟨draws, same⟩
  rw [same, StoreStep.answer]
  exact {
    accepting := by rw [engine_keep]; exact asked.2.2
    requests := by rw [engine_keep, amount, noReplay]; exact asked.2.1
    backups := by rw [amount]; exact backups_keep asked.1
    owed := by simp [owed, noReplay] }

theorem accounted_of_quiet {store after : Store Recording} {command : Command}
    (accepting : store.engine.refusing = false)
    (quiet : store.sets command + store.changingReads device command = 0)
    (noReplay : store.replays device command = 0) (engine : after.engine = store.engine)
    (backups : after.backups = store.backups) (owed : after.owed ≤ store.owed) :
    Accounted device store command after where
  accepting := by rw [engine]; exact accepting
  requests := by rw [engine, quiet, noReplay]; rfl
  backups := by rw [backups, quiet]; rfl
  owed := by rw [noReplay]; omega

theorem accounted_replayReady {store : Store Recording}
    (accepting : store.engine.refusing = false) :
    Accounted device store .replayReady (store.replayReady device).2 := by
  by_cases pending : store.migration = .pendingReplay
  · cases held : store.slot with
    | none =>
      have amount : store.replays device .replayReady = 0 := by simp [replays, held]
      rw [replayReady_of_none pending held]
      exact accounted_of_quiet accepting rfl amount rfl rfl (by simp [owed])
    | some configuration =>
      rw [replayReady_of_some pending held, post]
      cases waits : device.queues with
      | true =>
        have amount : store.replays device .replayReady = 0 := by simp [replays, waits]
        exact accounted_of_quiet accepting rfl amount rfl rfl (by simp [owed, pending])
      | false =>
        have asked := request_accepting accepting store.slot
        have amount : store.replays device .replayReady = 1 := by
          simp [replays, pending, held, waits]
        simp only [Bool.false_eq_true, if_false, request_eq]
        exact {
          accepting := asked.2.2
          requests := by rw [amount]; exact asked.2.1
          backups := rfl
          owed := by simp [owed, amount, pending]; omega }
  · have amount : store.replays device .replayReady = 0 := by simp [replays, pending]
    rw [replayReady_of_ne pending]
    exact accounted_of_quiet accepting rfl amount rfl rfl (Nat.le_refl _)

theorem accounted_dispatch {store : Store Recording}
    (accepting : store.engine.refusing = false) :
    Accounted device store .dispatch store.dispatch.2 := by
  rcases dispatchFirst_accepting accepting rfl with
    ⟨after, dispatched, still, requests, queued, backups, migration⟩
  rw [dispatch, dispatched]
  exact {
    accepting := still
    requests := requests
    backups := backups
    owed := by simp only [owed, replays, queued, migration]; omega }

theorem accounted_run {store : Store Recording} (accepting : store.engine.refusing = false)
    (command : Command) : Accounted device store command (store.run device command).2 := by
  cases keeps : store.kept? device command with
  | some configuration => exact accounted_of_kept? accepting keeps
  | none =>
    have quiet := sets_add_changingReads device store command
    rw [keeps] at quiet
    cases command with
    | replayReady => exact accounted_replayReady accepting
    | dispatch => exact accounted_dispatch accepting
    | get =>
      rcases get_of_kept?_eq_none keeps with ⟨configuration, _, _, same⟩
      rw [run, same]
      exact accounted_of_quiet accepting quiet rfl rfl rfl (Nat.le_refl _)
    | set candidate => cases candidate <;> cases keeps
    | _ => exact accounted_of_quiet accepting quiet rfl rfl rfl (Nat.le_refl _)

/-! ## Histories -/

structure Balanced (device : Device) (store : Store Recording) (commands : List Command)
    (after : Store Recording) : Prop where
  requests : after.engine.requests = store.engine.requests +
    (store.total device sets commands + store.total device (changingReads device) commands) +
    store.total device (replays device) commands
  backups : after.backups = store.backups +
    (store.total device sets commands + store.total device (changingReads device) commands)
  owed : store.total device (replays device) commands + after.owed ≤ store.owed

theorem balanced_after {store : Store Recording} (accepting : store.engine.refusing = false)
    (commands : List Command) : Balanced device store commands (store.after device commands) := by
  induction commands generalizing store with
  | nil => exact ⟨rfl, rfl, by simp [total, after]⟩
  | cons command rest induction =>
    have first : Accounted device store command _ := accounted_run accepting command
    have later := induction first.accepting
    exact {
      requests := by
        have start := first.requests
        have final := later.requests
        simp only [total]
        change (after device (store.run device command).2 rest).engine.requests = _
        omega
      backups := by
        have start := first.backups
        have final := later.backups
        simp only [total]
        change (after device (store.run device command).2 rest).backups = _
        omega
      owed := by
        have start := first.owed
        have final := later.owed
        simp only [total]
        change _ + (after device (store.run device command).2 rest).owed ≤ _
        omega }

theorem accounts_create (device : Device) (takes : Bool) (draws : Draws)
    (takenOver : Option Configuration) :
    let start : Store Recording := create device { takes } draws 0 takenOver
    start.engine.refusing = false ∧ start.engine.requests = start.backups ∧
      start.backups = takenOver.isSome.toNat ∧ start.owed = takenOver.isSome.toNat ∧
      start.migration = if takenOver.isSome then .pendingReplay else .none := by
  cases takenOver with
  | none => exact ⟨rfl, rfl, rfl, rfl, rfl⟩
  | some configuration =>
    let start : Store Recording :=
      { engine := Engine.register { takes }, draws, backups := 0 }
    have first : Accounted device start (.set (some configuration)) _ :=
      accounted_of_kept? rfl rfl
    have requests := first.requests
    have backups := first.backups
    have queued : ((start.set device (some configuration)).2).queued = 0 := queued_keep _ _
    refine ⟨first.accepting, requests.trans backups.symm, backups, ?_, rfl⟩
    simp only [create, owed, if_true, Option.isSome_some, Bool.toNat_true]
    exact congrArg (· + 1) queued

/-- A store asks its engine to write for every change that the backup service
hears of, and for an owed write. Changes are the takeover, every setting, and
every reading that finds nothing or bands that the device does not use. One
write is owed at most, by a store that has taken over a configuration, and it
falls due with the first sign that the engine is ready. -/
theorem requests_and_backups_of_history (device : Device) (takes : Bool) (draws : Draws)
    (takenOver : Option Configuration) (commands : List Command) :
    let start : Store Recording := create device { takes } draws 0 takenOver
    let final := start.after device commands
    let replayed := start.total device (replays device) commands
    final.engine.requests = final.backups + replayed ∧
      final.backups = takenOver.isSome.toNat + start.total device sets commands +
        start.total device (changingReads device) commands ∧
      replayed + final.queued ≤ 1 ∧
      (final.migration ≠ .replayComplete → replayed + final.queued = 0) ∧
      final.migration =
        if takenOver.isSome then
          if commands.any Command.isReplayReady then .replayComplete else .pendingReplay
        else .none := by
  intro start final replayed
  rcases accounts_create device takes draws takenOver with
    ⟨accepting, written, told, owing, latch⟩
  have balance : Balanced device start commands final := balanced_after accepting commands
  have requests : final.engine.requests = start.engine.requests + _ + replayed := balance.requests
  have backups : final.backups = start.backups + _ := balance.backups
  have due : replayed + final.owed ≤ takenOver.isSome.toNat := owing ▸ balance.owed
  have state : final.migration = commands.foldl Migration.next _ :=
    latch ▸ migration_after device start commands
  have waiting : final.owed = final.queued + _ := rfl
  refine ⟨?_, ?_, ?_, ?_, state.trans (foldl_next takenOver.isSome commands)⟩
  · rw [requests, backups]
    exact congrArg (· + _ + replayed) written
  · rw [backups, Nat.add_assoc]
    exact congrArg (· + _) told
  · have atMost := takenOver.isSome.toNat_le
    omega
  · intro incomplete
    rw [foldl_next] at state
    cases takenOver with
    | none =>
      have nothing : replayed + final.owed ≤ 0 := due
      omega
    | some configuration =>
      have single : replayed + final.owed ≤ 1 := due
      have pending : final.migration = .pendingReplay := by
        cases ready : commands.any Command.isReplayReady with
        | true => exact absurd (by rw [state, ready]; rfl) incomplete
        | false => rw [state, ready]; rfl
      rw [if_pos pending] at waiting
      omega

end Store

end Hotspot
