import Hotspot.Configuration.Validation
import Hotspot.Value.Basic

namespace Hotspot

/-! What a device can do: how its radios work together, which features it has,
how it names its networks, and which channels it may use. -/

/-- The name that generated SSIDs begin with. It is not blank, and it leaves
room for a low line and four digits. -/
structure Template where
  text : String
  not_blank : Text.isBlankText text.toList = false
  size_le : text.utf8ByteSize ≤ 27
deriving DecidableEq

namespace Template

def usualTether : Template :=
  ⟨"AndroidAP", by decide +kernel, by decide +kernel⟩

def usualLocalOnly : Template :=
  ⟨"AndroidShare", by decide +kernel, by decide +kernel⟩

end Template

structure Channel where
  number : Nat
  one_le : 1 ≤ number
  le_fourteen : number ≤ 14
deriving DecidableEq

namespace Channel

def ofInteger? (number : Int) : Option Channel :=
  if range : 1 ≤ number.toNat ∧ number.toNat ≤ 14 then
    some { number := number.toNat, one_le := range.1, le_fourteen := range.2 }
  else
    none

def usual : List Channel :=
  [⟨1, by decide, by decide⟩, ⟨6, by decide, by decide⟩, ⟨11, by decide, by decide⟩]

end Channel

/-- A feature of a device, as the value that states it. -/
structure Feature where
  stated : Value := .bool false

namespace Feature

def isOn (feature : Feature) : Bool :=
  feature.stated.isTrue

def ofSwitch (switch : Bool) : Feature :=
  ⟨.bool switch⟩

end Feature

structure Capabilities where
  widens5Ghz : Feature := {}
  sae : Feature := {}
  macRandomization : Feature := {}
  clientControl : Feature := {}
  tetherTemplate : Template := .usualTether
  localOnlyTemplate : Template := .usualLocalOnly
  channels : List Channel := Channel.usual

namespace Capabilities

inductive TemplateRole where
  | tether
  | localOnly
deriving DecidableEq

def TemplateRole.label : TemplateRole → String
  | .tether => "Tethering SSID template"
  | .localOnly => "Local-only SSID template"

inductive Error where
  | blankTemplate (role : TemplateRole)
  | longTemplate (role : TemplateRole)
  | channelOutOfRange (number : Int)
  | notInteger (error : IntegerError)
  | notCollection

def Error.message? : Error → Option String
  | .blankTemplate role => some (role.label ++ " must be a non-empty string")
  | .longTemplate role => some (role.label ++ " must not exceed 27 bytes")
  | .channelOutOfRange number =>
    some ("2.4 GHz channel " ++ toString number ++ " is out of range")
  | .notInteger (.malformed value) =>
    some ("invalid literal for int() with base 10: " ++
      String.ofList (value.display.take 200))
  | .notInteger .nan => some "cannot convert float NaN to integer"
  | .notInteger .infinite => none
  | .notInteger .otherKind => none
  | .notCollection => none

def template (role : TemplateRole) (text : String) : Except Error Template :=
  if blank : Text.isBlankText text.toList = false then
    if size : text.utf8ByteSize ≤ 27 then .ok ⟨text, blank, size⟩
    else .error (.longTemplate role)
  else
    .error (.blankTemplate role)

def templateOfValue (role : TemplateRole) : Value → Except Error Template
  | .text text => template role text
  | _ => .error (.blankTemplate role)

def channel (number : Int) : Except Error Channel :=
  match Channel.ofInteger? number with
  | some channel => .ok channel
  | none => .error (.channelOutOfRange number)

/-- The members of a collection: the items of a list, the characters of a text,
the names of an object's fields or the numbers of bytes. -/
def members : Value → Except Error (List Value)
  | .list items => .ok items
  | .text text => .ok (text.toList.map fun character => .text (String.ofList [character]))
  | .object fields => .ok (fields.map fun field => .text field.1)
  | .bytes bytes => .ok (bytes.map fun byte => .integer byte.toNat)
  | _ => .error .notCollection

/-- The channels that a collection of integers states. All members are
converted before any is compared with the range. -/
def channelsOfValue (value : Value) : Except Error (List Channel) := do
  let numbers ← (← members value).mapM fun item => item.toInteger.mapError .notInteger
  numbers.mapM channel

/-- What is stated about a device, before it is checked. -/
structure Statement where
  widens5Ghz : Feature := {}
  sae : Feature := {}
  macRandomization : Feature := {}
  clientControl : Feature := {}
  tetherTemplate : Value := .text Template.usualTether.text
  localOnlyTemplate : Value := .text Template.usualLocalOnly.text
  channels : Value := .list (Channel.usual.map fun channel => .integer channel.number)

def Statement.check (statement : Statement) : Except Error Capabilities := do
  let tetherTemplate ← templateOfValue .tether statement.tetherTemplate
  let localOnlyTemplate ← templateOfValue .localOnly statement.localOnlyTemplate
  let channels ← channelsOfValue statement.channels
  return {
    widens5Ghz := statement.widens5Ghz
    sae := statement.sae
    macRandomization := statement.macRandomization
    clientControl := statement.clientControl
    tetherTemplate, localOnlyTemplate, channels }

def policy (capabilities : Capabilities) : RadioPolicy :=
  .ofWidening capabilities.widens5Ghz.isOn

def toValue (capabilities : Capabilities) : Value :=
  .object
    [("converts_5ghz_to_any", capabilities.widens5Ghz.stated),
     ("sae_supported", capabilities.sae.stated),
     ("mac_randomization_supported", capabilities.macRandomization.stated),
     ("client_force_disconnect_supported", capabilities.clientControl.stated),
     ("tether_ssid_template", .text capabilities.tetherTemplate.text),
     ("local_only_ssid_template", .text capabilities.localOnlyTemplate.text),
     ("allowed_2ghz_channels",
      .list (capabilities.channels.map fun channel => .integer channel.number))]

end Capabilities

end Hotspot
