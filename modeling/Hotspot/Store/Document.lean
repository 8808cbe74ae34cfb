import Hotspot.Configuration.Mapping
import Hotspot.Disk.Basic
import Hotspot.Json.Parser
import Hotspot.Json.Printer
import Hotspot.Store.Basic

namespace Hotspot

/-! An engine that writes to a JSON document. The document is an object whose
field `softap` holds the configuration in mapping form. Requests before the
first load are dropped, since they would overwrite what has not been read; a
document that cannot be read counts as empty; and a write that fails is not heard
of, whatever it has left of the document. Only a path that no file can ever have makes a
request fail. -/

structure Document where
  disk : Disk
  path : Path
  hasStore : Bool := false
  loaded : Bool := false
  writes : Nat := 0
  /-- What befalls the writes to come. Those behind the last entry succeed. -/
  faults : List (Option WriteFault) := []

namespace Document

def content (slot : Option Configuration) : Value :=
  .object [("softap", (slot.map (Configuration.toValue true)).getD .null)]

def encode (slot : Option Configuration) : List UInt8 :=
  Text.encodeUtf8 (Json.print .indented (content slot))

def ofContent? : Value → Option Configuration
  | .object fields => do
    (Configuration.ofValue (← Fields.find? fields "softap")).toOption
  | _ => none

/-- The configuration of the bytes of a document. A text with a surrogate without its partner
has no value, and so no configuration. -/
def decode? (bytes : List UInt8) : Option Configuration := do
  ofContent? (← Json.ofUtf8? bytes)

def decodeFile? : Option Entry → Option Configuration
  | some (.file bytes) => decode? bytes
  | _ => none

def stored? (document : Document) : Option Configuration :=
  decodeFile? (document.disk.named? document.path)

def write (document : Document) (slot : Option Configuration) : DiskStep Unit :=
  document.disk.write document.path (encode slot) (document.faults.headD none)

/-- Write the document, if it has been loaded. -/
def request (document : Document) (slot : Option Configuration) : Reply Document :=
  if document.loaded then
    let (written, disk) := document.write slot
    let document := { document with disk, faults := document.faults.tail }
    match written with
    | .ok () => { engine := { document with writes := document.writes + 1 }, taken := true }
    | .error .nullCharacter =>
      { engine := document, taken := true, outcome := .error (.path .nullCharacter) }
    | .error _ => { engine := document, taken := true }
  else
    { engine := document }

instance : Engine Document where
  register document := { document with hasStore := true }
  request := request

def boot (disk : Disk) (path : Path) : DiskStep Document :=
  let (made, disk) := disk.makeDirectory path.parent
  (made.map fun () => { disk, path }, disk)

end Document

namespace Store

/-- Load the document. Its configuration becomes that of the store; without
one, the engine is ready for the write that a takeover owes. -/
def load (device : Device) (store : Store Document) : StoreStep Document Unit :=
  let store := { store with engine := { store.engine with loaded := true } }
  match store.engine.disk.holds store.engine.path with
  | .error error => (.error (.path error), store)
  | .ok _ =>
    match store.engine.stored? with
    | some configuration => (.ok (), store.adopt (some configuration))
    | none => store.replayReady device

def requestPersist (changed : Bool) (store : Store Document) : StoreStep Document Unit :=
  if changed then store.request else (.ok (), store)

end Store

end Hotspot
