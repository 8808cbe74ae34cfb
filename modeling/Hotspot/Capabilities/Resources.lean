import Hotspot.Capabilities.Basic
import Hotspot.Disk.Basic
import Hotspot.Flag
import Hotspot.Json.Parser

namespace Hotspot.Capabilities

/-! Capabilities from the resource file of a device. The file is a JSON object
whose fields may be missing, and a device without a file has the usual
capabilities. A text of the file need not be a string: what has a surrogate without
its partner in it is refused where it matters, and passed over elsewhere. -/

inductive ResourceError where
  | unreadable
  | notObject
  | flag (error : Flag.Error)
  | blankTemplate
  | channelListKind
  | truthValueChannel
  | invalidChannel (item : Json.Node)
  | infiniteChannel
  | capabilities (error : Error)
  | unencodable (points : List Nat)

def encodingComplaint (points : List Nat) : String :=
  let (start, length) := Text.strayAt points
  let place :=
    if length = 1 then
      "character '" ++ String.ofList (Text.escapedCode (points.getD start 0)) ++
        "' in position " ++ toString start
    else
      "characters in position " ++ toString start ++ "-" ++ toString (start + length - 1)
  "'utf-8' codec can't encode " ++ place ++ ": surrogates not allowed"

def ResourceError.message? : ResourceError → Option String
  | .unreadable => some "Failed to load capability resources"
  | .notObject => some "Capability resources must be a JSON object"
  | .flag error => some error.message
  | .blankTemplate => some "SSID templates must be non-empty strings"
  | .channelListKind => some "Channel list must be a string or a list"
  | .truthValueChannel => some "Channel values must be integers"
  | .invalidChannel item => some ("Invalid channel value: " ++ item.shown)
  | .infiniteChannel => none
  | .capabilities error => error.message?
  | .unencodable points => some (encodingComplaint points)

def channelOfItem (item : Value) : Except ResourceError Channel :=
  match item with
  | .bool _ => .error .truthValueChannel
  | _ =>
    match item.toInteger with
    | .ok number => (channel number).mapError .capabilities
    | .error .infinite => .error .infiniteChannel
    | .error _ => .error (.invalidChannel (.value item))

def channelOfNode (item : Json.Node) : Except ResourceError Channel :=
  match item.value? with
  | some value => channelOfItem value
  | none => .error (.invalidChannel item)

/-- The items of a text, which are set apart by commas. Blank ones are passed
over. -/
def textItems (text : List Char) : List Value :=
  (((text.splitOn ',').map Text.trim).filter (!·.isEmpty)).map fun item =>
    .text (String.ofList item)

def pointItems (points : List Nat) : List Json.Node :=
  (((points.splitOn ','.toNat).map Text.trimPoints).filter (!·.isEmpty)).map .text

def channelList? : Value → Except ResourceError (Option (List Channel))
  | .null => .ok none
  | .text text => ((textItems text.toList).mapM channelOfItem).map some
  | .list items => (items.mapM channelOfItem).map some
  | _ => .error .channelListKind

def channelsOfNode? (node : Json.Node) : Except ResourceError (Option (List Channel)) :=
  match node.value?, node with
  | some value, _ => channelList? value
  | none, .text points => ((pointItems points).mapM channelOfNode).map some
  | none, .list items => (items.mapM channelOfNode).map some
  | none, _ => .error .channelListKind

def templateText (usual : Template) : Value → Except ResourceError String
  | .null => .ok usual.text
  | .text text =>
    let trimmed := Text.trim text.toList
    if trimmed.isEmpty then .error .blankTemplate else .ok (String.ofList trimmed)
  | _ => .error .blankTemplate

def templatePoints (usual : Template) (node : Json.Node) : Except ResourceError (List Nat) :=
  match node.value?, node with
  | some value, _ => (templateText usual value).map Text.codePoints
  | none, .text points => .ok (Text.trimPoints points)
  | none, _ => .error .blankTemplate

/-- The template of a text, which is measured in its UTF-8 form. -/
def templateOfPoints (role : TemplateRole) (points : List Nat) : Except ResourceError Template :=
  match Text.ofCodePoints? points with
  | some text => (template role text).mapError .capabilities
  | none => .error (.unencodable points)

def switchOfNode (node : Json.Node) : Except ResourceError Feature :=
  match node.value? with
  | some value => ((Flag.ofValue false value).map Feature.ofSwitch).mapError .flag
  | none => .error (.flag .notFlag)

def ofHeld (held : String → Json.Node) : Except ResourceError Capabilities := do
  let widens5Ghz ← switchOfNode (held "convert_apband_5ghz_to_any")
  let sae ← switchOfNode (held "softap_sae_supported")
  let macRandomization ← switchOfNode (held "ap_mac_randomization_supported")
  let clientControl ← switchOfNode (held "softap_client_force_disconnect_supported")
  let tetherText ← templatePoints .usualTether (held "tether_ssid_default")
  let localOnlyText ← templatePoints .usualLocalOnly (held "localhotspot_ssid_default")
  let channels ← channelsOfNode? (held "softap_2g_channel_list")
  let tetherTemplate ← templateOfPoints .tether tetherText
  let localOnlyTemplate ← templateOfPoints .localOnly localOnlyText
  return {
    widens5Ghz, sae, macRandomization, clientControl, tetherTemplate, localOnlyTemplate
    channels := channels.getD Channel.usual }

def ofNode (node : Json.Node) : Except ResourceError Capabilities :=
  match node.held? with
  | some held => ofHeld held
  | none => .error .notObject

def ofValue (value : Value) : Except ResourceError Capabilities :=
  ofNode (.value value)

/-- The capabilities that a resource file describes; without a file they are
the usual ones. -/
def ofEntry : Option Entry → Except ResourceError Capabilities
  | none => .ok {}
  | some .directory => .error .unreadable
  | some (.file bytes) =>
    match Json.nodeOfUtf8? bytes with
    | none => .error .unreadable
    | some node => ofNode node

end Hotspot.Capabilities
