import Hotspot.Capabilities.Resources
import Hotspot.Service.Basic
import Hotspot.Session
import Hotspot.Text.Hex

namespace Hotspot

/-! The start of the service. What is not given comes from the environment or
has a default, and a device that randomizes addresses without a source of them
derives them from a secret of its own, which is kept beside the document. -/

structure Launch where
  path : Option String := none
  legacy : Option String := none
  capabilities : Option Capabilities := none
  source : Option MacSource := none
  environment : List (String × String) := []
  token : List UInt8 := []

inductive LaunchError where
  | resources (error : Capabilities.ResourceError)
  | namelessPath (path : Path)
  | path (error : PathError)
  | secret (error : MacSource.SecretError)
  | refusal (refusal : Refusal)

def LaunchError.message? : LaunchError → Option String
  | .resources error => error.message?
  | .namelessPath spelled => some ("PosixPath('" ++ spelled.text ++ "') has an empty name")
  | .path error => error.message?
  | .secret error => some error.message
  | .refusal cause => cause.message?

namespace Launch

def defaultPath : String := "data/softap.json"

def secretName : String := "softap_mac_secret"

def secretLength : Nat := 32

def documentPath (launch : Launch) : Path :=
  .ofText <| (launch.path.or (launch.environment.lookup "SOFTAP_CONFIG_PATH")).getD defaultPath

/-- Where a former device left its configuration. A variable without text says
nothing. -/
def legacyPath (launch : Launch) : Option Path :=
  let named := (launch.environment.lookup "SOFTAP_LEGACY_PATH").filter (· ≠ "")
  (launch.legacy.or named).map Path.ofText

def deviceCapabilities (launch : Launch) (disk : Disk) :
    Except LaunchError Capabilities :=
  match launch.capabilities with
  | some capabilities => .ok capabilities
  | none =>
    match launch.environment.lookup "SOFTAP_CAPABILITIES_PATH" with
    | none => .ok {}
    | some text =>
      match disk.holds (.ofText text) with
      | .error error => .error (.path error)
      | .ok _ => (Capabilities.ofEntry (disk.named? (.ofText text))).mapError .resources

/-- The secret in a file: bytes in hexadecimal digits, of which there is one at
least. -/
def storedSecret? (entry : Option Entry) : Option (List UInt8) :=
  match entry with
  | some (.file bytes) => do
    let text ← Text.decodeUtf8? bytes
    (← Text.bytesOfHex? (Text.trim text)) |> fun secret =>
      if secret.isEmpty then none else some secret
  | _ => none

def freshSecret (token : List UInt8) : List UInt8 :=
  (token ++ List.replicate secretLength 0).take secretLength

def makeSecret (disk : Disk) (path : Path) (token : List UInt8) : DiskStep (List UInt8) :=
  match disk.makeDirectory path.parent with
  | (.error error, disk) => (.error error, disk)
  | (.ok (), disk) =>
    let secret := freshSecret token
    match disk.write path (Text.encodeUtf8 (Text.hexOfBytes secret)) with
    | (.ok (), disk) => (.ok secret, disk)
    | (.error error, disk) => (.error error, disk)

/-- The secret of the device. One that cannot be used is replaced. -/
def secret (disk : Disk) (path : Path) (token : List UInt8) : DiskStep (List UInt8) :=
  match disk.holds path with
  | .error error => (.error error, disk)
  | .ok _ =>
    match storedSecret? (disk.named? path) with
    | some secret => (.ok secret, disk)
    | none => makeSecret disk path token

/-- The source of addresses, which a device needs only if it randomizes them. -/
def addressSource (launch : Launch) (capabilities : Capabilities) (disk : Disk) :
    Except LaunchError (Option MacSource) × Disk :=
  if launch.source.isNone && capabilities.macRandomization.isOn then
    match launch.documentPath.withName? secretName with
    | none => (.error (.namelessPath launch.documentPath), disk)
    | some path =>
      match Launch.secret disk path launch.token with
      | (.error error, disk) => (.error (.path error), disk)
      | (.ok secret, disk) => (((MacSource.ofSecret secret).map some).mapError .secret, disk)
  else
    (.ok launch.source, disk)

def startOn (launch : Launch) (device : Device) (disk : Disk) (draws : Draws) :
    Except LaunchError Service × Disk :=
  let setup : Setup := { device, path := launch.documentPath, legacy := launch.legacyPath }
  match setup.boot disk draws with
  | (.error error, disk) => (.error (.path error), disk)
  | (.ok memory, disk) =>
    match setup.openStore memory with
    | .error error => (.error (.path error), disk)
    | .ok store =>
      let (loaded, store) := store.load device
      ((loaded.map fun () => { device, store }).mapError .refusal, store.engine.disk)

/-- Start the service. The files are those that it leaves, also where it does
not start. -/
def start (launch : Launch) (disk : Disk) (draws : Draws) :
    Except LaunchError Service × Disk :=
  match launch.deviceCapabilities disk with
  | .error error => (.error error, disk)
  | .ok capabilities =>
    match launch.addressSource capabilities disk with
    | (.error error, disk) => (.error error, disk)
    | (.ok source, disk) => launch.startOn { capabilities, source } disk draws

end Launch

end Hotspot
