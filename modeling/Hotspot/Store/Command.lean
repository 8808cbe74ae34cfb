import Hotspot.Store.Basic

namespace Hotspot

/-! The operations of a store as data, so that a history is a list. -/

inductive Command where
  | get
  | set (candidate : Option Configuration)
  | serialize
  | adopt (configuration : Option Configuration)
  | replayReady
  | dispatch
  | localOnly (band : Band) (custom : Option Configuration)
  | randomizeBssid (configuration : Configuration)
  | withinCapabilities (configuration : Configuration)
  | capabilities

inductive Answer where
  | nothing
  | configuration (configuration : Configuration)
  | slot (slot : Option Configuration)
  | count (number : Nat)
  /-- A configuration made from another, and whether it is the same. -/
  | adjusted (configuration : Configuration) (unchanged : Bool)
  | capabilities (capabilities : Capabilities)

inductive CommandError where
  | refusal (refusal : Refusal)
  | bssid (error : BssidError)
  | noStore

def CommandError.message? : CommandError → Option String
  | .refusal cause => cause.message?
  | .bssid error => error.message?
  | .noStore => some "No data source registered with the configuration store"

def Answer.ofAdjusted (given adjusted : Configuration) : Answer :=
  .adjusted adjusted (adjusted = given)

namespace Store

variable {engine : Type} [Engine engine]

def StoreStep.answer {result : Type} (toAnswer : result → Answer)
    (step : StoreStep engine result) : Except CommandError Answer × Store engine :=
  ((step.1.map toAnswer).mapError .refusal, step.2)

def run (device : Device) (store : Store engine) :
    Command → Except CommandError Answer × Store engine
  | .get => StoreStep.answer .configuration (store.get device)
  | .set candidate => StoreStep.answer .configuration (store.set device candidate)
  | .serialize =>
    let (slot, store) := store.serialize
    (.ok (.slot slot), store)
  | .adopt configuration => (.ok .nothing, store.adopt configuration)
  | .replayReady => StoreStep.answer (fun _ => .nothing) (store.replayReady device)
  | .dispatch => StoreStep.answer .count store.dispatch
  | .localOnly band custom =>
    let (configuration, store) := store.localOnly device band custom
    (.ok (.configuration configuration), store)
  | .randomizeBssid configuration =>
    let consultation := Store.randomizeBssid device configuration
    ((consultation.result.map (Answer.ofAdjusted configuration)).mapError .bssid, store)
  | .withinCapabilities configuration =>
    (.ok (.ofAdjusted configuration (configuration.withinCapabilities device.capabilities)), store)
  | .capabilities => (.ok (.capabilities device.capabilities), store)

def after (device : Device) (store : Store engine) (commands : List Command) : Store engine :=
  commands.foldl (fun store command => (store.run device command).2) store

end Store

end Hotspot
