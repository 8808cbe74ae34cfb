import Hotspot.Proofs.Store.Accounting
import Mathlib.Data.List.Induction

/-! What an engine writes that takes the configuration with every request. A
write that was owed carries what the store holds when it is carried out, not
what it held when the write fell due. The last write is therefore never out of
date, unless the engine itself has handed over something else since. -/

namespace Hotspot

namespace Store

variable {device : Device} {store : Store Recording} {command : Command}

/-! ## What is to be written -/

/-- What a command has the engine write: what a setting leaves in the store, or a
reading that changes it; and, for each owed write that is carried out, what the
store holds at that moment. -/
def writes (device : Device) (store : Store Recording) (command : Command) :
    List (Option Configuration) :=
  let after := store.run device command
  match command with
  | .set _ => [after.2.slot]
  | .get => if after.2.slot = store.slot then [] else [after.2.slot]
  | _ => List.replicate (store.replays device command) store.slot

def allWrites (device : Device) (store : Store Recording) :
    List Command → List (Option Configuration)
  | [] => []
  | command :: rest =>
    store.writes device command ++ allWrites device (store.run device command).2 rest

theorem slot_ne_of_kept?_get {configuration : Configuration}
    (keeps : store.kept? device .get = some configuration) : store.slot ≠ some configuration := by
  intro held
  have usable := changes_of_kept? keeps
  simp [kept?, held, usable] at keeps

theorem writes_of_kept? {configuration : Configuration}
    (keeps : store.kept? device command = some configuration) :
    store.writes device command = [some configuration] := by
  have after := slot_run_of_kept? keeps
  cases command with
  | get =>
    have changed := slot_ne_of_kept?_get keeps
    simp only [writes, after, if_neg changed.symm]
  | set candidate => simp only [writes, after]
  | _ => cases keeps

theorem writes_of_kept?_eq_none (quiet : store.kept? device command = none) :
    store.writes device command = List.replicate (store.replays device command) store.slot := by
  cases command with
  | get =>
    have after := slot_run_of_kept?_eq_none quiet trivial
    simp only [writes, after, if_true]
    rfl
  | set candidate => cases candidate <;> cases quiet
  | _ => rfl

/-! ## What is written -/

/-- The engine takes the configuration with every request and turns none down, so
the store owes it nothing but what waits in the queue. -/
structure Prompt (store : Store Recording) : Prop where
  takes : store.engine.takes = true
  accepting : store.engine.refusing = false
  single : store.engine.requests = store.engine.written.length
  clean : store.dirty = true → 0 < store.queued

structure Hands (values : List (Option Configuration)) (store after : Store Recording) : Prop where
  prompt : after.Prompt
  written : after.engine.written = store.engine.written ++ values

theorem Hands.trans {first later : List (Option Configuration)} {middle after : Store Recording}
    (start : Hands first store middle) (rest : Hands later middle after) :
    Hands (first ++ later) store after where
  prompt := rest.prompt
  written := by rw [rest.written, start.written, List.append_assoc]

theorem hands_nothing {after : Store Recording} (prompt : store.Prompt)
    (engine : after.engine = store.engine) (clean : after.dirty = true → 0 < after.queued) :
    Hands [] store after where
  prompt := {
    takes := by rw [engine]; exact prompt.takes
    accepting := by rw [engine]; exact prompt.accepting
    single := by rw [engine]; exact prompt.single
    clean := clean }
  written := by rw [engine, List.append_nil]

theorem request_of_takes {recording : Recording} (takes : recording.takes = true)
    (accepting : recording.refusing = false) (slot : Option Configuration) :
    Engine.request recording slot =
      { engine := { recording with
          requests := recording.requests + 1
          written := recording.written ++ [slot] }
        taken := true } := by
  simp [Engine.request, Recording.request, takes, accepting]

theorem hands_request (takes : store.engine.takes = true)
    (accepting : store.engine.refusing = false)
    (single : store.engine.requests = store.engine.written.length) :
    ∃ after, store.request = (.ok (), after) ∧ Hands [store.slot] store after ∧
      after.slot = store.slot ∧ after.queued = store.queued ∧ after.dirty = false := by
  rw [request_eq, request_of_takes takes accepting]
  simp only [Bool.not_true, Bool.and_false]
  refine ⟨_, rfl, ?_, rfl, rfl, rfl⟩
  exact {
    prompt := {
      takes := takes
      accepting := accepting
      single := by rw [List.length_append]; exact congrArg (· + 1) single
      clean := fun dirty => absurd dirty Bool.false_ne_true }
    written := rfl }

theorem hands_keep (prompt : store.Prompt) (configuration : Configuration) :
    Hands [some configuration] store (store.keep configuration).2 := by
  let holding : Store Recording := { store with slot := some configuration, dirty := true }
  have takes : holding.engine.takes = true := prompt.takes
  rcases hands_request takes prompt.accepting prompt.single with
    ⟨after, requested, hands, _, _, clean⟩
  have kept : (store.keep configuration).2 = after.notify := by
    simp only [keep, show request { store with slot := some configuration, dirty := true } = _ from
      requested]
  rw [kept]
  exact {
    prompt := ⟨hands.prompt.takes, hands.prompt.accepting, hands.prompt.single, hands.prompt.clean⟩
    written := hands.written }

theorem hands_dispatchFirst {count : Nat} (prompt : store.Prompt) (waiting : store.queued = count) :
    Hands (List.replicate count store.slot) store (store.dispatchFirst count).2 := by
  induction count generalizing store with
  | zero => exact hands_nothing prompt rfl prompt.clean
  | succ count induction =>
    let waiting : Store Recording := { store with queued := count }
    have takes : waiting.engine.takes = true := prompt.takes
    rcases hands_request takes prompt.accepting prompt.single with
      ⟨middle, requested, first, slot, queued, _⟩
    have later := induction first.prompt queued
    have dispatched : (store.dispatchFirst (count + 1)).2 = (middle.dispatchFirst count).2 := by
      rw [dispatchFirst, show request { store with queued := count } = _ from requested]
      dsimp only
      split <;> rename_i rest <;> rw [rest]
    rw [dispatched, List.replicate_succ]
    rw [slot] at later
    have start : Hands [store.slot] store middle := ⟨first.prompt, first.written⟩
    exact start.trans later

theorem hands_replayReady (prompt : store.Prompt) :
    Hands (List.replicate (store.replays device .replayReady) store.slot) store
      (store.replayReady device).2 := by
  by_cases pending : store.migration = .pendingReplay
  · cases held : store.slot with
    | none =>
      have amount : store.replays device .replayReady = 0 := by simp [replays, held]
      rw [replayReady_of_none pending held, amount]
      exact hands_nothing prompt rfl prompt.clean
    | some configuration =>
      rw [replayReady_of_some pending held, post]
      cases waits : device.queues with
      | true =>
        have amount : store.replays device .replayReady = 0 := by simp [replays, waits]
        rw [amount]
        exact hands_nothing prompt rfl fun _ => Nat.succ_pos _
      | false =>
        have amount : store.replays device .replayReady = 1 := by
          simp [replays, pending, held, waits]
        let owing : Store Recording := { store with migration := .replayComplete, dirty := true }
        have takes : owing.engine.takes = true := prompt.takes
        rcases hands_request takes prompt.accepting prompt.single with
          ⟨after, requested, hands, _⟩
        rw [amount, ← held]
        simp only [Bool.false_eq_true, if_false]
        rw [show request { store with migration := .replayComplete, dirty := true } = _ from
          requested]
        exact ⟨hands.prompt, hands.written⟩
  · have amount : store.replays device .replayReady = 0 := by simp [replays, pending]
    rw [replayReady_of_ne pending, amount]
    exact hands_nothing prompt rfl prompt.clean

theorem hands_run (device : Device) (prompt : store.Prompt) (command : Command) :
    Hands (store.writes device command) store (store.run device command).2 := by
  cases keeps : store.kept? device command with
  | some configuration =>
    rcases run_of_kept? keeps with ⟨draws, same⟩
    have drawn : Prompt { store with draws } :=
      ⟨prompt.takes, prompt.accepting, prompt.single, prompt.clean⟩
    have hands := hands_keep drawn configuration
    rw [writes_of_kept? keeps, same]
    exact ⟨hands.prompt, hands.written⟩
  | none =>
    rw [writes_of_kept?_eq_none keeps]
    cases command with
    | replayReady => exact hands_replayReady prompt
    | dispatch => exact hands_dispatchFirst prompt rfl
    | get =>
      rcases get_of_kept?_eq_none keeps with ⟨configuration, _, _, same⟩
      rw [run, same]
      exact hands_nothing prompt rfl prompt.clean
    | set candidate => cases candidate <;> cases keeps
    | serialize => exact hands_nothing prompt rfl fun dirty => absurd dirty Bool.false_ne_true
    | _ => exact hands_nothing prompt rfl prompt.clean

theorem hands_after (device : Device) (prompt : store.Prompt) (commands : List Command) :
    Hands (store.allWrites device commands) store (store.after device commands) := by
  induction commands generalizing store with
  | nil => exact hands_nothing prompt rfl prompt.clean
  | cons command rest induction =>
    have first := hands_run device prompt command
    exact first.trans (induction first.prompt)

theorem hands_create (device : Device) (draws : Draws) (takenOver : Option Configuration) :
    let start : Store Recording := create device { takes := true } draws 0 takenOver
    start.Prompt ∧ start.engine.written = if takenOver.isSome then [start.slot] else [] := by
  let empty : Store Recording := { engine := Engine.register { takes := true }, draws }
  have prompt : empty.Prompt := ⟨rfl, rfl, rfl, nofun⟩
  cases takenOver with
  | none => exact ⟨prompt, rfl⟩
  | some configuration =>
    have hands := hands_run device prompt (.set (some configuration))
    refine ⟨⟨hands.prompt.takes, hands.prompt.accepting, hands.prompt.single, hands.prompt.clean⟩,
      ?_⟩
    exact hands.written

/-! ## The last write -/

theorem eq_slot_of_mem_writes {value : Option Configuration}
    (member : value ∈ store.writes device command) :
    value = (store.run device command).2.slot := by
  cases keeps : store.kept? device command with
  | some configuration =>
    rw [writes_of_kept? keeps, List.mem_singleton] at member
    rw [member, slot_run_of_kept? keeps]
  | none =>
    rw [writes_of_kept?_eq_none keeps] at member
    have own : command.IsOwn fun _ => True := by
      cases command with
      | adopt configuration => cases member
      | set candidate => cases candidate <;> trivial
      | _ => trivial
    rw [slot_run_of_kept?_eq_none keeps own]
    exact List.eq_of_mem_replicate member

theorem kept?_eq_none_of_writes (nothing : store.writes device command = []) :
    store.kept? device command = none := by
  cases keeps : store.kept? device command with
  | none => rfl
  | some configuration =>
    rw [writes_of_kept? keeps] at nothing
    cases nothing

theorem after_concat (device : Device) (store : Store Recording) (commands : List Command)
    (command : Command) :
    store.after device (commands ++ [command]) =
      ((store.after device commands).run device command).2 := by
  simp [after]

def Fresh (store : Store Recording) : Prop :=
  store.engine.written ≠ [] → store.engine.written.getLast? = some store.slot

theorem fresh_of_hands {after : Store Recording} {values : List (Option Configuration)}
    (hands : Hands values store after) (something : values ≠ [])
    (current : ∀ value ∈ values, value = after.slot) : after.Fresh := by
  intro _
  rw [hands.written, List.getLast?_append, List.getLast?_eq_some_getLast something,
    Option.some_or]
  exact congrArg some (current _ (List.getLast_mem something))

theorem fresh_of_same {after : Store Recording} (fresh : store.Fresh)
    (written : after.engine.written = store.engine.written) (slot : after.slot = store.slot) :
    after.Fresh := by
  intro something
  rw [written] at something ⊢
  rw [slot]
  exact fresh something

/-- The engine has replaced what the store held, in the course of a history, and
nothing has been written since. -/
def Replaced (device : Device) (store : Store Recording) (commands : List Command) : Prop :=
  ∃ before adopted later, commands = before ++ .adopt adopted :: later ∧
    adopted ≠ (store.after device before).slot ∧
    (store.after device before).engine.written = (store.after device commands).engine.written

/-- The last command of a history settles whether the last write is out of date:
either it writes, or it leaves what is held, or it is the engine that replaces
it. -/
theorem fresh_after (prompt : store.Prompt) (fresh : store.Fresh) (commands : List Command)
    (kept : ¬store.Replaced device commands) : (store.after device commands).Fresh := by
  induction commands using List.reverseRecOn with
  | nil => exact fresh
  | append_singleton before command induction =>
    rw [after_concat]
    let middle := store.after device before
    have hands : Hands (middle.writes device command) middle (middle.run device command).2 :=
      hands_run device (hands_after device prompt before).prompt command
    by_cases nothing : middle.writes device command = []
    · have written : (middle.run device command).2.engine.written = middle.engine.written := by
        rw [hands.written, nothing, List.append_nil]
      have whole : (store.after device (before ++ [command])).engine.written =
          middle.engine.written := by rw [after_concat]; exact written
      have earlier : middle.Fresh := by
        apply induction
        rintro ⟨first, adopted, later, rfl, different, same⟩
        exact kept ⟨first, adopted, later ++ [command], by simp, different, same.trans whole.symm⟩
      apply fresh_of_same earlier written
      cases command with
      | adopt adopted =>
        by_contra different
        exact kept ⟨before, adopted, [], rfl, different, whole.symm⟩
      | set candidate => cases nothing
      | _ => exact slot_run_of_kept?_eq_none (kept?_eq_none_of_writes nothing) trivial
    · exact fresh_of_hands hands nothing fun _ member => eq_slot_of_mem_writes member

/-- An engine that takes the configuration with every request has written, in this
order, what the store was left with by the takeover, by every setting and by every
reading that changed it, and what it held when an owed write was carried out. The
last of these is what the store holds, unless the engine has replaced that since,
and the store has nothing new for its engine but while an owed write waits. -/
theorem written_of_history (device : Device) (draws : Draws) (takenOver : Option Configuration)
    (commands : List Command) :
    let start : Store Recording := create device { takes := true } draws 0 takenOver
    let final := start.after device commands
    final.engine.written =
        (if takenOver.isSome then [start.slot] else []) ++ start.allWrites device commands ∧
      final.engine.requests = final.engine.written.length ∧
      (final.engine.written ≠ [] → ¬start.Replaced device commands →
        final.engine.written.getLast? = some final.slot) ∧
      (final.dirty = true → 0 < final.queued) := by
  intro start final
  rcases hands_create device draws takenOver with ⟨prompt, written⟩
  have hands : Hands (start.allWrites device commands) start final :=
    hands_after device prompt commands
  have fresh : start.Fresh := by
    intro something
    have taken : start.engine.written = if takenOver.isSome then [start.slot] else [] := written
    rw [taken] at something ⊢
    split
    · rfl
    · rename_i nothing
      rw [if_neg nothing] at something
      exact absurd rfl something
  refine ⟨?_, hands.prompt.single, ?_, hands.prompt.clean⟩
  · rw [hands.written, written]
  · exact fun something kept => fresh_after prompt fresh commands kept something

end Store

end Hotspot
