import Hotspot.Proofs.Configuration.Support
import Hotspot.Proofs.Configuration.Validity
import Hotspot.Store.Command

/-! What the commands of a store do, for any engine. A command either makes the
store keep one configuration, which is then its answer, or leaves the held one
as it is; adopting is the only exception. What all of them preserve is therefore
shown once, from what a single request does. -/

namespace Hotspot

/-- The command adopts nothing, and what it sets is admitted. -/
def Command.IsOwn (admits : Configuration → Prop) : Command → Prop
  | .adopt _ => False
  | .set (some candidate) => admits candidate
  | _ => True

theorem Command.IsOwn.imp {admits other : Configuration → Prop} {command : Command}
    (weaker : ∀ configuration, admits configuration → other configuration)
    (own : command.IsOwn admits) : command.IsOwn other := by
  cases command with
  | adopt configuration => exact own
  | set candidate =>
    cases candidate with
    | none => trivial
    | some configuration => exact weaker configuration own
  | _ => trivial

def Command.IsGiving : Command → Prop
  | .get | .set _ => True
  | _ => False

def Command.isReplayReady : Command → Bool
  | .replayReady => true
  | _ => false

def Migration.next : Migration → Command → Migration
  | .pendingReplay, .replayReady => .replayComplete
  | state, _ => state

namespace Store

variable {engine : Type} [Engine engine] {device : Device} {store : Store engine}
  {command : Command} {configuration : Configuration}

/-! ## Requests -/

theorem request_eq (store : Store engine) :
    store.request =
      let reply := Engine.request store.engine store.slot
      (reply.outcome,
        { store with engine := reply.engine, dirty := store.dirty && !reply.taken }) := by
  cases taken : (Engine.request store.engine store.slot).taken <;>
    simp [request, serialize, taken]

/-! ## Keeping a configuration -/

theorem keep_eq (configuration : Configuration) (store : Store engine) :
    store.keep configuration =
      let requested := request { store with slot := some configuration, dirty := true }
      (requested.1.map fun _ => configuration,
        if requested.1.isOk then requested.2.notify else requested.2) := by
  unfold keep
  split <;> rename_i kept <;> simp [kept, Except.map, Except.isOk, Except.toBool]

theorem answer_keep (configuration : Configuration) (store : Store engine) :
    (store.keep configuration).1 =
      (Engine.request store.engine (some configuration)).outcome.map fun _ => configuration := by
  rw [keep_eq]
  rfl

theorem eq_of_answer_keep {answered : Configuration}
    (answer : (store.keep configuration).1 = .ok answered) : configuration = answered := by
  rw [answer_keep] at answer
  cases outcome : (Engine.request store.engine (some configuration)).outcome with
  | error refusal =>
    rw [outcome] at answer
    cases answer
  | ok =>
    rw [outcome] at answer
    exact Except.ok.inj answer

@[simp] theorem slot_keep (configuration : Configuration) (store : Store engine) :
    (store.keep configuration).2.slot = some configuration := by
  rw [keep_eq, request_eq]
  dsimp only
  split <;> rfl

@[simp] theorem engine_keep (configuration : Configuration) (store : Store engine) :
    (store.keep configuration).2.engine =
      (Engine.request store.engine (some configuration)).engine := by
  rw [keep_eq, request_eq]
  dsimp only
  split <;> rfl

@[simp] theorem migration_keep (configuration : Configuration) (store : Store engine) :
    (store.keep configuration).2.migration = store.migration := by
  rw [keep_eq, request_eq]
  dsimp only
  split <;> rfl

@[simp] theorem queued_keep (configuration : Configuration) (store : Store engine) :
    (store.keep configuration).2.queued = store.queued := by
  rw [keep_eq, request_eq]
  dsimp only
  split <;> rfl

theorem backups_keep
    (accepted : (Engine.request store.engine (some configuration)).outcome = .ok ()) :
    (store.keep configuration).2.backups = store.backups + 1 := by
  have announced : (request { store with slot := some configuration, dirty := true }).1.isOk :=
    congrArg Except.isOk accepted
  rw [keep_eq]
  dsimp only
  rw [if_pos announced, request_eq]
  rfl

/-- The configuration that a command makes the store keep, if it makes it keep
one. -/
def kept? (device : Device) (store : Store engine) : Command → Option Configuration
  | .get =>
    match store.slot with
    | none => some (Defaults.tethering device.capabilities store.draws).1
    | some configuration =>
      if device.capabilities.policy.changes configuration.band then
        some (configuration.withPolicy device.capabilities.policy)
      else none
  | .set none => some (Defaults.tethering device.capabilities store.draws).1
  | .set (some configuration) => some (canonical device.capabilities configuration)
  | _ => none

omit [Engine engine] in
theorem kept?_cases (keeps : store.kept? device command = some configuration) :
    (∃ draws, configuration = (Defaults.tethering device.capabilities draws).1) ∨
      (∃ held ∈ store.slot, configuration = held.withPolicy device.capabilities.policy) ∨
      ∃ candidate, command = .set (some candidate) ∧
        configuration = canonical device.capabilities candidate := by
  unfold kept? at keeps
  split at keeps
  · split at keeps
    · exact .inl ⟨_, (Option.some.inj keeps).symm⟩
    · rename_i held slot
      split at keeps
      · exact .inr (.inl ⟨held, slot, (Option.some.inj keeps).symm⟩)
      · cases keeps
  · exact .inl ⟨_, (Option.some.inj keeps).symm⟩
  · exact .inr (.inr ⟨_, rfl, (Option.some.inj keeps).symm⟩)
  · cases keeps

omit [Engine engine] in
theorem changes_of_kept? (keeps : store.kept? device command = some configuration) :
    device.capabilities.policy.changes configuration.band = false := by
  rcases kept?_cases keeps with ⟨draws, rfl⟩ | ⟨held, _, rfl⟩ | ⟨candidate, _, rfl⟩
  · exact (Configuration.isSupported_tethering _ _).bands
  · rw [Configuration.band_withPolicy]
    exact RadioPolicy.changes_convert _ _
  · exact (Configuration.isSupported_canonical _ _).bands

omit [Engine engine] in
theorem isSupported_of_kept?
    (within : ∀ held ∈ store.slot, held.IsWithin device.capabilities)
    (keeps : store.kept? device command = some configuration) :
    configuration.IsSupported device.capabilities := by
  refine ⟨?_, changes_of_kept? keeps⟩
  rcases kept?_cases keeps with ⟨draws, rfl⟩ | ⟨held, slot, rfl⟩ | ⟨candidate, _, rfl⟩
  · exact (Configuration.isSupported_tethering _ _).toIsWithin
  · exact (within held slot).withPolicy _
  · exact (Configuration.isSupported_canonical _ _).toIsWithin

omit [Engine engine] in
theorem isGiving_of_kept? (keeps : store.kept? device command = some configuration) :
    command.IsGiving := by
  cases command with
  | get => trivial
  | set candidate => trivial
  | _ => cases keeps

omit [Engine engine] in
theorem isNamed_of_kept? (named : ∀ held ∈ store.slot, held.band.IsNamed)
    (own : command.IsOwn (·.band.IsNamed))
    (keeps : store.kept? device command = some configuration) :
    configuration.band.IsNamed := by
  rcases kept?_cases keeps with ⟨draws, rfl⟩ | ⟨held, slot, rfl⟩ | ⟨candidate, rfl, rfl⟩
  · exact Configuration.isNamed_tethering _ _
  · rw [Configuration.band_withPolicy]
    exact RadioPolicy.isNamed_convert _ (named held slot)
  · exact Configuration.isNamed_canonical _ own

omit [Engine engine] in
theorem isValid_of_kept? (valid : ∀ held ∈ store.slot, held.IsValid)
    (own : command.IsOwn Configuration.IsValid)
    (keeps : store.kept? device command = some configuration) : configuration.IsValid := by
  rcases kept?_cases keeps with ⟨draws, rfl⟩ | ⟨held, slot, rfl⟩ | ⟨candidate, rfl, rfl⟩
  · exact Defaults.isValid_tethering _ _
  · exact (valid held slot).withPolicy _
  · exact Configuration.IsValid.canonical own _

theorem get_of_some (held : store.slot = some configuration) :
    store.get device = store.keepUsable device configuration := by
  unfold get
  rw [held]

theorem get_of_none (empty : store.slot = none) :
    store.get device = store.keepFresh device := by
  have usable := (Configuration.isSupported_tethering device.capabilities store.draws).bands
  unfold get
  rw [empty]
  dsimp only
  split
  · rename_i fresh after kept
    have same : (Defaults.tethering device.capabilities store.draws).1 = fresh :=
      eq_of_answer_keep (congrArg Prod.fst kept)
    rw [same] at usable
    rw [kept, keepUsable, if_neg (by simp [usable])]
  · rename_i kept
    exact kept.symm

/-- The answer to a command that makes the store keep a configuration, and what
it leaves, are those of the keeping. Drawn numbers are all that may differ. -/
theorem run_of_kept? (keeps : store.kept? device command = some configuration) :
    ∃ draws, store.run device command =
      StoreStep.answer .configuration (keep configuration { store with draws }) := by
  unfold kept? at keeps
  split at keeps
  · split at keeps <;> rename_i held
    · cases keeps
      exact ⟨_, congrArg (StoreStep.answer .configuration) (get_of_none held)⟩
    · split at keeps <;> rename_i changes
      · cases keeps
        have getting : store.get device = store.keep _ :=
          (get_of_some held).trans (if_pos changes)
        exact ⟨store.draws, congrArg (StoreStep.answer .configuration) getting⟩
      · cases keeps
  · cases keeps
    exact ⟨_, rfl⟩
  · cases keeps
    exact ⟨store.draws, rfl⟩
  · cases keeps

theorem answer_run_of_kept? (keeps : store.kept? device command = some configuration)
    (accepted : (Engine.request store.engine (some configuration)).outcome = .ok ()) :
    (store.run device command).1 = .ok (.configuration configuration) := by
  rcases run_of_kept? keeps with ⟨draws, same⟩
  rw [same, StoreStep.answer, answer_keep]
  simp only [accepted]
  rfl

theorem get_of_kept?_eq_none (quiet : store.kept? device .get = none) :
    ∃ configuration, store.slot = some configuration ∧
      device.capabilities.policy.changes configuration.band = false ∧
      store.get device = (.ok configuration, store) := by
  unfold kept? at quiet
  dsimp only at quiet
  split at quiet <;> rename_i held
  · cases quiet
  · rename_i configuration
    split at quiet <;> rename_i changes
    · cases quiet
    · rw [Bool.not_eq_true] at changes
      exact ⟨configuration, held, changes, (get_of_some held).trans (by simp [keepUsable, changes])⟩

/-! ## Owed writes -/

theorem replayReady_of_ne (settled : store.migration ≠ .pendingReplay) :
    store.replayReady device = (.ok (), store) := by
  unfold replayReady
  split
  · rename_i pending
    exact absurd pending settled
  · rfl

theorem replayReady_of_none (pending : store.migration = .pendingReplay)
    (empty : store.slot = none) :
    store.replayReady device = (.ok (), { store with migration := .replayComplete }) := by
  simp only [replayReady, pending, empty]

theorem replayReady_of_some (pending : store.migration = .pendingReplay)
    (held : store.slot = some configuration) :
    store.replayReady device =
      post device { store with migration := .replayComplete, dirty := true } := by
  simp only [replayReady, pending, held]

theorem dispatchFirst_induction {holds : Store engine → Prop}
    (step : ∀ {store : Store engine} (count : Nat), holds store →
      holds (request { store with queued := count }).2)
    (held : holds store) (count : Nat) :
    holds (store.dispatchFirst count).2 := by
  induction count generalizing store with
  | zero => exact held
  | succ count induction =>
    have first := step count held
    unfold dispatchFirst
    split
    · rename_i after requested
      rw [requested] at first
      have later := induction first
      split <;> rename_i dispatched <;> rw [dispatched] at later <;> exact later
    · rename_i requested
      rw [requested] at first
      exact first

theorem dispatch_of_queued_eq_zero (empty : store.queued = 0) :
    store.dispatch = (.ok 0, store) := by
  rw [dispatch, empty]
  rfl

theorem dispatch_of_queued_eq_one {after : Store engine} (waiting : store.queued = 1)
    (requests : request { store with queued := 0 } = (.ok (), after)) :
    store.dispatch = (.ok 1, after) := by
  simp only [dispatch, waiting, dispatchFirst, requests]

/-! ## What is held after a command -/

theorem slot_run_of_kept? (keeps : store.kept? device command = some configuration) :
    (store.run device command).2.slot = some configuration := by
  rcases run_of_kept? keeps with ⟨draws, same⟩
  rw [same]
  exact slot_keep _ _

theorem slot_replayReady (device : Device) (store : Store engine) :
    (store.replayReady device).2.slot = store.slot := by
  by_cases pending : store.migration = .pendingReplay
  · cases held : store.slot with
    | none =>
      rw [replayReady_of_none pending held]
      exact held
    | some configuration =>
      rw [replayReady_of_some pending held, post, request_eq]
      split <;> exact held
  · rw [replayReady_of_ne pending]

theorem slot_run_of_kept?_eq_none (quiet : store.kept? device command = none)
    (own : command.IsOwn fun _ => True) :
    (store.run device command).2.slot = store.slot := by
  cases command with
  | get =>
    rcases get_of_kept?_eq_none quiet with ⟨configuration, _, _, same⟩
    rw [run, same]
    rfl
  | set candidate => cases candidate <;> cases quiet
  | adopt configuration => exact own.elim
  | replayReady => exact slot_replayReady device store
  | dispatch =>
    exact @dispatchFirst_induction _ _ store (fun after => after.slot = store.slot)
      (fun count same => by rw [request_eq]; exact same) rfl store.queued
  | _ => rfl

/-! ## The state of the takeover -/

theorem migration_replayReady (device : Device) (store : Store engine) :
    (store.replayReady device).2.migration = store.migration.next .replayReady := by
  by_cases pending : store.migration = .pendingReplay
  · cases held : store.slot with
    | none =>
      rw [replayReady_of_none pending held, pending]
      rfl
    | some configuration =>
      rw [replayReady_of_some pending held, pending, post, request_eq]
      split <;> rfl
  · rw [replayReady_of_ne pending]
    cases state : store.migration with
    | pendingReplay => exact absurd state pending
    | _ => rfl

theorem migration_run (device : Device) (store : Store engine) (command : Command) :
    (store.run device command).2.migration = store.migration.next command := by
  have still (other : command ≠ .replayReady) : store.migration.next command = store.migration := by
    unfold Migration.next
    split
    · exact absurd rfl other
    · rfl
  cases keeps : store.kept? device command with
  | some configuration =>
    rcases run_of_kept? keeps with ⟨draws, same⟩
    rw [same, StoreStep.answer, migration_keep, still]
    rintro rfl
    cases keeps
  | none =>
    cases command with
    | replayReady => exact migration_replayReady device store
    | dispatch =>
      rw [still nofun]
      exact @dispatchFirst_induction _ _ store (fun after => after.migration = store.migration)
        (fun count same => by rw [request_eq]; exact same) rfl store.queued
    | get =>
      rcases get_of_kept?_eq_none keeps with ⟨configuration, _, _, same⟩
      rw [run, same, still nofun]
      rfl
    | set candidate => cases candidate <;> cases keeps
    | _ => exact (still nofun).symm

theorem migration_after (device : Device) (store : Store engine) (commands : List Command) :
    (store.after device commands).migration = commands.foldl Migration.next store.migration := by
  induction commands generalizing store with
  | nil => rfl
  | cons command rest induction =>
    have later := induction (store.run device command).2
    rw [migration_run] at later
    exact later

theorem foldl_next_none (commands : List Command) :
    commands.foldl Migration.next .none = .none := by
  induction commands with
  | nil => rfl
  | cons command rest induction => exact induction

theorem foldl_next_replayComplete (commands : List Command) :
    commands.foldl Migration.next .replayComplete = .replayComplete := by
  induction commands with
  | nil => rfl
  | cons command rest induction => exact induction

theorem foldl_next_pendingReplay (commands : List Command) :
    commands.foldl Migration.next .pendingReplay =
      if commands.any Command.isReplayReady then .replayComplete else .pendingReplay := by
  induction commands with
  | nil => rfl
  | cons command rest induction =>
    cases command with
    | replayReady => exact foldl_next_replayComplete rest
    | _ => exact induction

theorem foldl_next (takenOver : Bool) (commands : List Command) :
    commands.foldl Migration.next (if takenOver then .pendingReplay else .none) =
      if takenOver then
        if commands.any Command.isReplayReady then .replayComplete else .pendingReplay
      else .none := by
  cases takenOver with
  | true => exact foldl_next_pendingReplay commands
  | false => exact foldl_next_none commands

/-! ## Invariants -/

/-- A property of the engine and the slot that requests preserve, and that the
configurations which the commands put into the store have. -/
structure Invariant (device : Device) (own : Command → Prop)
    (holds : engine → Option Configuration → Prop) : Prop where
  request : ∀ {onto : engine} {slot : Option Configuration}, holds onto slot →
    holds (Engine.request onto slot).engine slot
  keep : ∀ {store : Store engine} {command : Command} {configuration : Configuration},
    own command → store.kept? device command = some configuration →
    holds store.engine store.slot →
    holds (Engine.request store.engine (some configuration)).engine (some configuration)
  adopt : ∀ {onto : engine} {slot adopted : Option Configuration}, own (.adopt adopted) →
    holds onto slot → holds onto adopted

namespace Invariant

variable {own : Command → Prop} {holds : engine → Option Configuration → Prop}

theorem requests (invariant : Invariant device own holds)
    (held : holds store.engine store.slot) :
    holds store.request.2.engine store.request.2.slot := by
  rw [request_eq]
  exact invariant.request held

theorem replayReady (invariant : Invariant device own holds)
    (held : holds store.engine store.slot) :
    holds (store.replayReady device).2.engine (store.replayReady device).2.slot := by
  by_cases pending : store.migration = .pendingReplay
  · cases slot : store.slot with
    | none =>
      rw [replayReady_of_none pending slot]
      exact held
    | some configuration =>
      rw [replayReady_of_some pending slot, post]
      split
      · exact held
      · exact invariant.requests held
  · rw [replayReady_of_ne pending]
    exact held

theorem dispatch (invariant : Invariant device own holds)
    (held : holds store.engine store.slot) :
    holds store.dispatch.2.engine store.dispatch.2.slot :=
  @dispatchFirst_induction _ _ store (fun after => holds after.engine after.slot)
    (fun _ held => invariant.requests held) held store.queued

theorem run (invariant : Invariant device own holds) (held : holds store.engine store.slot)
    (owned : own command) :
    holds (store.run device command).2.engine (store.run device command).2.slot := by
  cases keeps : store.kept? device command with
  | some configuration =>
    rcases run_of_kept? keeps with ⟨draws, same⟩
    have kept := invariant.keep owned keeps held
    rw [same, StoreStep.answer, engine_keep, slot_keep]
    exact kept
  | none =>
    cases command with
    | get =>
      rcases get_of_kept?_eq_none keeps with ⟨configuration, _, _, same⟩
      rw [Store.run, same]
      exact held
    | set candidate => cases candidate <;> cases keeps
    | adopt configuration => exact invariant.adopt owned held
    | replayReady => exact invariant.replayReady held
    | dispatch => exact invariant.dispatch held
    | _ => exact held

theorem after (invariant : Invariant device own holds) (held : holds store.engine store.slot)
    {commands : List Command} (owned : ∀ command ∈ commands, own command) :
    holds (store.after device commands).engine (store.after device commands).slot := by
  induction commands generalizing store with
  | nil => exact held
  | cons command rest induction =>
    exact induction (invariant.run held (owned command List.mem_cons_self))
      fun later member => owned later (List.mem_cons_of_mem command member)

theorem create (invariant : Invariant device own holds) {onto : engine}
    (held : holds (Engine.register onto) none) {takenOver : Option Configuration}
    (owned : ∀ candidate ∈ takenOver, own (.set (some candidate))) (draws : Draws)
    (backups : Nat) :
    holds (Store.create device onto draws backups takenOver).engine
      (Store.create device onto draws backups takenOver).slot := by
  cases takenOver with
  | none => exact held
  | some candidate =>
    let start : Store engine := { engine := Engine.register onto, draws, backups }
    have begun : holds start.engine start.slot := held
    exact invariant.run begun (owned candidate rfl)

end Invariant

theorem invariant_isValid (device : Device) :
    Invariant device (Command.IsOwn Configuration.IsValid) fun (_ : engine) slot =>
      ∀ configuration ∈ slot, configuration.IsValid where
  request := id
  keep := by
    intro store command configuration own keeps valid
    have kept := isValid_of_kept? valid own keeps
    rintro _ ⟨⟩
    exact kept
  adopt := fun own => own.elim

end Store

end Hotspot
