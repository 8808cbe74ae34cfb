import Hotspot.Legacy.Migration
import Hotspot.Store.Command
import Hotspot.Store.Document

namespace Hotspot

/-! Runs of a store on a JSON document, over restarts of the device. A restart
makes a new engine and a new store, while files and drawn numbers go on. -/

/-- What is in memory: an engine alone, or a store on an engine. -/
inductive Memory where
  | booted (document : Document) (draws : Draws) (backups : Nat)
  | running (store : Store Document)

namespace Memory

def document : Memory → Document
  | .booted document _ _ => document
  | .running store => store.engine

def draws : Memory → Draws
  | .booted _ draws _ => draws
  | .running store => store.draws

def backups : Memory → Nat
  | .booted _ _ backups => backups
  | .running store => store.backups

def withDisk (disk : Disk) : Memory → Memory
  | .booted document draws backups => .booted { document with disk } draws backups
  | .running store => .running { store with engine := { store.engine with disk } }

end Memory

/-- What a run consists of besides its memory. -/
structure Setup where
  device : Device := {}
  path : Path
  legacy : Option Path := none

inductive Event where
  | command (command : Command)
  | boot
  | openStore
  | restart
  | load
  | requestPersist (changed : Bool)
  /-- Somebody else writes the document, or makes its path a directory. -/
  | writeFile (entry : Option Entry)
  | deleteFile

inductive EventError where
  | command (error : CommandError)
  | path (error : PathError)

def EventError.message? : EventError → Option String
  | .command error => error.message?
  | .path error => error.message?

namespace Setup

def boot (setup : Setup) (disk : Disk) (draws : Draws) : DiskStep Memory :=
  let (booted, disk) := Document.boot disk setup.path
  (booted.map fun document => .booted document draws 0, disk)

def takeOver (setup : Setup) (document : Document) :
    Except PathError (Option Configuration × Document) :=
  match setup.legacy with
  | none => .ok (none, document)
  | some path =>
    (Legacy.migrateFrom document.disk path true).map fun (takenOver, disk) =>
      (takenOver, { document with disk })

def openStore (setup : Setup) (memory : Memory) : Except PathError (Store Document) :=
  (setup.takeOver memory.document).map fun (takenOver, document) =>
    Store.create setup.device document memory.draws memory.backups takenOver

def reopen (setup : Setup) (memory : Memory) : Except EventError Answer × Memory :=
  match setup.openStore memory with
  | .ok store => (.ok .nothing, .running store)
  | .error error => (.error (.path error), memory)

def reboot (setup : Setup) (memory : Memory) : Except EventError Answer × Memory :=
  match setup.boot memory.document.disk memory.draws with
  | (.ok memory, _) => (.ok .nothing, memory)
  | (.error error, disk) => (.error (.path error), memory.withDisk disk)

def onStore (memory : Memory) {result : Type}
    (step : Store Document → Except CommandError result × Store Document) :
    Except EventError result × Memory :=
  match memory with
  | .running store =>
    let (outcome, store) := step store
    (outcome.mapError .command, .running store)
  | .booted .. => (.error (.command .noStore), memory)

def writeFile (setup : Setup) (disk : Disk) (entry : Option Entry) : DiskStep Unit :=
  match entry with
  | none => (.ok (), disk)
  | some .directory => disk.makeDirectory setup.path
  | some (.file bytes) => disk.write setup.path bytes

def run (setup : Setup) (memory : Memory) : Event → Except EventError Answer × Memory
  | .command command => onStore memory fun store => store.run setup.device command
  | .boot => setup.reboot memory
  | .openStore => setup.reopen memory
  | .restart =>
    match setup.reboot memory with
    | (.ok _, memory) => setup.reopen memory
    | (.error error, memory) => (.error error, memory)
  | .load =>
    onStore memory fun store =>
      Store.StoreStep.answer (fun _ => .nothing) (store.load setup.device)
  | .requestPersist changed =>
    match memory with
    | .running store =>
      let (outcome, store) := Store.StoreStep.answer (fun _ => .nothing)
        (store.requestPersist changed)
      (outcome.mapError .command, .running store)
    | .booted .. => (.ok .nothing, memory)
  | .writeFile entry =>
    let (written, disk) := setup.writeFile memory.document.disk entry
    ((written.map fun () => .nothing).mapError .path, memory.withDisk disk)
  | .deleteFile =>
    (.ok .nothing, memory.withDisk (memory.document.disk.removeTree setup.path))

def after (setup : Setup) (memory : Memory) (events : List Event) : Memory :=
  events.foldl (fun memory event => (setup.run memory event).2) memory

end Setup

end Hotspot
