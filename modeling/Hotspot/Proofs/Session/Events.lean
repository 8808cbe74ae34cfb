import Hotspot.Proofs.Store.Document
import Hotspot.Proofs.Store.Steps
import Hotspot.Session

/-! What the events of one session preserve, in which a store stays on its
engine. Beyond the commands of the store these are loads and requests for the
document to be written. -/

namespace Hotspot

def Event.IsOwn (own : Command → Prop) : Event → Prop
  | .command operation => own operation
  | .load | .requestPersist _ => True
  | _ => False

theorem Event.IsOwn.imp {own other : Command → Prop} {event : Event}
    (weaker : ∀ command, own command → other command) (owned : event.IsOwn own) :
    event.IsOwn other := by
  cases event with
  | command command => exact weaker command owned
  | load => trivial
  | requestPersist changed => trivial
  | _ => exact owned.elim

namespace Setup

variable {setup : Setup} {store : Store Document} {event : Event}

theorem after_append (setup : Setup) (memory : Memory) (first later : List Event) :
    setup.after memory (first ++ later) = setup.after (setup.after memory first) later := by
  simp [after]

def answers (setup : Setup) (memory : Memory) : List Event → List (Except EventError Answer)
  | [] => []
  | event :: rest =>
    (setup.run memory event).1 :: setup.answers (setup.run memory event).2 rest

/-- A property of the document and the slot that commands preserve, and that
loads preserve as well. -/
structure Invariant (setup : Setup) (own : Command → Prop)
    (holds : Document → Option Configuration → Prop) : Prop
    extends Store.Invariant setup.device own holds where
  load : ∀ {document : Document} {slot : Option Configuration}, holds document slot →
    holds { document with loaded := true } slot
  read : ∀ {document : Document} {slot : Option Configuration} {configuration : Configuration},
    holds document slot → document.stored? = some configuration →
    holds document (some configuration)

namespace Invariant

variable {own : Command → Prop} {holds : Document → Option Configuration → Prop}

theorem loads (invariant : Invariant setup own holds) (held : holds store.engine store.slot) :
    holds (store.load setup.device).2.engine (store.load setup.device).2.slot := by
  let ready : Store Document := { store with engine := { store.engine with loaded := true } }
  have loaded : holds ready.engine ready.slot := invariant.load held
  unfold Store.load
  dsimp only
  split
  · exact loaded
  · split
    · rename_i found
      exact invariant.read loaded found
    · exact invariant.replayReady loaded

theorem run (invariant : Invariant setup own holds) (held : holds store.engine store.slot)
    (owned : event.IsOwn own) :
    ∃ after, (setup.run (.running store) event).2 = .running after ∧
      holds after.engine after.slot := by
  cases event with
  | command command => exact ⟨_, rfl, invariant.toInvariant.run held owned⟩
  | load => exact ⟨_, rfl, invariant.loads held⟩
  | requestPersist changed =>
    refine ⟨_, rfl, ?_⟩
    cases changed with
    | true => exact invariant.toInvariant.requests held
    | false => exact held
  | _ => exact owned.elim

theorem after (invariant : Invariant setup own holds) (held : holds store.engine store.slot)
    {events : List Event} (owned : ∀ event ∈ events, event.IsOwn own) :
    ∃ last, setup.after (.running store) events = .running last ∧
      holds last.engine last.slot := by
  induction events generalizing store with
  | nil => exact ⟨store, rfl, held⟩
  | cons event rest induction =>
    rcases invariant.run held (owned event List.mem_cons_self) with ⟨next, same, held⟩
    rcases induction held fun later member => owned later (List.mem_cons_of_mem event member) with
      ⟨last, final, held⟩
    refine ⟨last, ?_, held⟩
    rw [← final, ← same]
    rfl

end Invariant

end Setup

end Hotspot
