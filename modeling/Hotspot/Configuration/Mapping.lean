import Hotspot.Configuration.Basic
import Hotspot.Band.Reading
import Hotspot.Flag

namespace Hotspot

/-! The mapping form of a configuration: an object with a field for every
setting. Writing has one form; reading accepts every spelling of the settings
that the readers of their parts accept, ignores fields with other names, and
reports the first field that is wrong. -/

namespace Configuration

inductive ReadError where
  | notObject
  | ssidNotText
  | passphraseNotText
  | bssid (error : MacAddress.Error)
  | securityType (error : SecurityType.Error)
  | band (error : Band.Error)
  | notInteger (field : CountField)
  | flag (error : Flag.Error)
  | settings (error : Settings.Error)

def ReadError.message : ReadError → String
  | .notObject => "Access point configuration must be a mapping"
  | .ssidNotText => "SSID must be a string"
  | .passphraseNotText => "Passphrase must be a string"
  | .bssid error => error.message
  | .securityType error => error.message
  | .band error => error.message
  | .notInteger field => field.label ++ " must be an integer"
  | .flag error => error.message
  | .settings error => error.message

def optionalText : Option String → Value
  | some text => .text text
  | none => .null

def publicFields (configuration : Configuration) : Fields :=
  [("ssid", optionalText configuration.ssid),
   ("bssid", optionalText (configuration.bssid.map MacAddress.text)),
   ("security_type", .text configuration.securityType.name),
   ("band", .integer configuration.band.mask),
   ("bands", .list (configuration.band.names.map .text)),
   ("channel", .integer configuration.channel),
   ("hidden_ssid", .bool configuration.hiddenSsid),
   ("max_number_of_clients", .integer configuration.maxClients),
   ("client_control_by_user_enabled", .bool configuration.clientControl)]

def fields (includePassphrase : Bool) (configuration : Configuration) : Fields :=
  configuration.publicFields ++
    if includePassphrase then [("passphrase", optionalText configuration.passphrase)] else []

def toValue (includePassphrase : Bool) (configuration : Configuration) : Value :=
  .object (configuration.fields includePassphrase)

def readText (error : ReadError) : Value → Except ReadError (Option String)
  | .null => .ok none
  | .text text => .ok (some text)
  | _ => .error error

/-- Read an address; null and the empty text stand for none. -/
def readBssid : Value → Except ReadError (Option MacAddress)
  | .null | .text "" => .ok none
  | value => ((MacAddress.ofValue value).map some).mapError .bssid

/-- Read a count: an integer in any spelling, but neither a truth value nor a
number with a fraction. -/
def readCount (field : CountField) (value : Value) : Except ReadError Int :=
  let accepted :=
    match value with
    | .bool _ => false
    | .float number => number.isIntegral
    | _ => true
  if accepted then
    match value.toInteger with
    | .ok number =>
      if number < 0 then .error (.settings (.negative field)) else .ok number
    | .error _ => .error (.notInteger field)
  else
    .error (.notInteger field)

def readFlag (value : Value) : Except ReadError Bool :=
  (Flag.ofValue false value).mapError .flag

/-- Read the fields of a configuration, in the order in which errors count. -/
def ofFields (fields : Fields) : Except ReadError Configuration := do
  let ssid ← readText .ssidNotText ((fields.find? "ssid").getD .null)
  let passphrase ← readText .passphraseNotText ((fields.find? "passphrase").getD .null)
  let bssid ← readBssid ((fields.find? "bssid").getD .null)
  let securityType ←
    (SecurityType.ofValue ((fields.find? "security_type").getD (.integer 0))).mapError .securityType
  let band ← (Band.ofValue ((fields.find? "band").getD (.integer 1))).mapError .band
  let channel ← readCount .channel ((fields.find? "channel").getD (.integer 0))
  let hiddenSsid ← readFlag ((fields.find? "hidden_ssid").getD .null)
  let maxClients ←
    readCount .maxClients ((fields.find? "max_number_of_clients").getD (.integer 0))
  let clientControl ← readFlag ((fields.find? "client_control_by_user_enabled").getD .null)
  Except.mapError ReadError.settings <| Settings.check
    { ssid, bssid, securityType, passphrase, band, channel, hiddenSsid, maxClients, clientControl }

def ofValue : Value → Except ReadError Configuration
  | .object fields => ofFields fields
  | _ => .error .notObject

end Configuration

end Hotspot
