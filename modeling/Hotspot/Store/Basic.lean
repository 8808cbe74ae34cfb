import Hotspot.Bssid
import Hotspot.Capabilities.Support
import Hotspot.Defaults
import Hotspot.Disk.Path

namespace Hotspot

/-! The store that owns the one configuration of a device. It hands its
configuration to a durable engine whenever it has changed, tells the backup
service about it, and generates a configuration where there is none. After the
takeover of a legacy configuration it owes the engine a further write, which it
requests once the engine is ready. -/

inductive Refusal where
  | refused
  | path (error : PathError)
deriving DecidableEq

def Refusal.message? : Refusal → Option String
  | .refused => some "persist refused"
  | .path error => error.message?

structure Reply (engine : Type) where
  engine : engine
  /-- The engine took the configuration from the store. -/
  taken : Bool := false
  outcome : Except Refusal Unit := .ok ()

class Engine (engine : Type) where
  /-- A store puts itself forward as the source of what is to be written. -/
  register : engine → engine
  /-- A store asks for its configuration to be written. -/
  request : engine → Option Configuration → Reply engine

inductive Migration where
  | none
  | pendingReplay
  | replayComplete
deriving DecidableEq, Repr

def Migration.name : Migration → String
  | .none => "none"
  | .pendingReplay => "pending_replay"
  | .replayComplete => "replay_complete"

/-- What stays the same as long as a store exists. -/
structure Device where
  capabilities : Capabilities := {}
  source : Option MacSource := none
  queues : Bool := false

structure Store (engine : Type) where
  engine : engine
  draws : Draws
  slot : Option Configuration := none
  /-- What the store holds has changed since the engine last took it. -/
  dirty : Bool := false
  migration : Migration := .none
  queued : Nat := 0
  backups : Nat := 0

/-- A step of a store: its answer or the refusal that cut it short, and the
store afterwards in either case. -/
abbrev StoreStep (engine answer : Type) := Except Refusal answer × Store engine

namespace Store

variable {engine : Type} [Engine engine]

def serialize (store : Store engine) : Option Configuration × Store engine :=
  (store.slot, { store with dirty := false })

/-- Ask the engine to write. An engine that takes what the store hands out makes
it clean, even if nothing comes of the request. -/
def request (store : Store engine) : StoreStep engine Unit :=
  let (slot, handedOut) := store.serialize
  let reply := Engine.request store.engine slot
  let store := if reply.taken then handedOut else store
  (reply.outcome, { store with engine := reply.engine })

def notify (store : Store engine) : Store engine :=
  { store with backups := store.backups + 1 }

/-- Hold a configuration, have it written and announce it. A refusal leaves it
in the store but unannounced. -/
def keep (configuration : Configuration) (store : Store engine) :
    StoreStep engine Configuration :=
  match request { store with slot := some configuration, dirty := true } with
  | (.ok (), store) => (.ok configuration, store.notify)
  | (.error refusal, store) => (.error refusal, store)

/-- Answer with a configuration that the store holds. Where the device uses
other bands, it is changed and kept first. -/
def keepUsable (device : Device) (configuration : Configuration) (store : Store engine) :
    StoreStep engine Configuration :=
  let policy := device.capabilities.policy
  if policy.changes configuration.band then store.keep (configuration.withPolicy policy)
  else (.ok configuration, store)

def keepFresh (device : Device) (store : Store engine) : StoreStep engine Configuration :=
  let (fresh, draws) := Defaults.tethering device.capabilities store.draws
  keep fresh { store with draws }

def get (device : Device) (store : Store engine) : StoreStep engine Configuration :=
  match store.slot with
  | some configuration => store.keepUsable device configuration
  | none =>
    match store.keepFresh device with
    | (.ok fresh, store) => store.keepUsable device fresh
    | (.error refusal, store) => (.error refusal, store)

def canonical (capabilities : Capabilities) (configuration : Configuration) : Configuration :=
  (configuration.withinCapabilities capabilities).withPolicy capabilities.policy

def set (device : Device) (candidate : Option Configuration) (store : Store engine) :
    StoreStep engine Configuration :=
  match candidate with
  | some configuration => store.keep (canonical device.capabilities configuration)
  | none => store.keepFresh device

def adopt (configuration : Option Configuration) (store : Store engine) : Store engine :=
  { store with slot := configuration }

def post (device : Device) (store : Store engine) : StoreStep engine Unit :=
  if device.queues then (.ok (), { store with queued := store.queued + 1 }) else store.request

/-- The engine is ready for the write that a takeover owes. It is owed once,
and only if the store holds something. -/
def replayReady (device : Device) (store : Store engine) : StoreStep engine Unit :=
  match store.migration with
  | .pendingReplay =>
    let store := { store with migration := .replayComplete }
    match store.slot with
    | none => (.ok (), store)
    | some _ => post device { store with dirty := true }
  | _ => (.ok (), store)

/-- Run `count` waiting writes. A write that is refused has left the queue, and
those behind it stay. -/
def dispatchFirst (store : Store engine) : (count : Nat) → StoreStep engine Nat
  | 0 => (.ok 0, store)
  | count + 1 =>
    match request { store with queued := count } with
    | (.ok (), store) =>
      match store.dispatchFirst count with
      | (.ok ran, store) => (.ok (ran + 1), store)
      | (.error refusal, store) => (.error refusal, store)
    | (.error refusal, store) => (.error refusal, store)

def dispatch (store : Store engine) : StoreStep engine Nat :=
  store.dispatchFirst store.queued

def localOnly (device : Device) (band : Band) (custom : Option Configuration)
    (store : Store engine) : Configuration × Store engine :=
  let (configuration, draws) :=
    Defaults.localOnly device.capabilities band custom store.draws
  (configuration, { store with draws })

def randomizeBssid (device : Device) (configuration : Configuration) :
    Consultation Configuration :=
  Bssid.randomize configuration device.capabilities.macRandomization.isOn device.source {}

def create (device : Device) (onto : engine) (draws : Draws) (backups : Nat)
    (takenOver : Option Configuration) : Store engine :=
  let store : Store engine := { engine := Engine.register onto, draws, backups }
  match takenOver with
  | none => store
  | some configuration =>
    { (store.set device (some configuration)).2 with migration := .pendingReplay }

end Store

end Hotspot
