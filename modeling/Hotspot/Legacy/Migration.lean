import Hotspot.Disk.Basic
import Hotspot.Legacy.Format

namespace Hotspot.Legacy

/-! Taking over the configuration of a former device. A file that holds a
usable configuration is removed once it has been read; any other file stays as
it is. -/

def recordOf (entry : Option Entry) : Except Error Record :=
  match entry with
  | some (.file bytes) => (readRecord bytes).map (·.1)
  | _ => .error .unreadable

def configurationOf? (entry : Option Entry) : Option Configuration :=
  match recordOf entry with
  | .ok record => record.configuration.toOption
  | .error _ => none

/-- Take over the configuration of a file. Where the file cannot be removed it
stays, and the configuration is taken over all the same. -/
def migrate (disk : Disk) (path : Path) (removable : Bool) : Option Configuration × Disk :=
  match configurationOf? (disk.named? path) with
  | some configuration => (some configuration, if removable then disk.removeFile path else disk)
  | none => (none, disk)

def migrateFrom (disk : Disk) (path : Path) (removable : Bool) :
    Except PathError (Option Configuration × Disk) :=
  match disk.holds path with
  | .error error => .error error
  | .ok false => .ok (none, disk)
  | .ok true => .ok (migrate disk path removable)

end Hotspot.Legacy
