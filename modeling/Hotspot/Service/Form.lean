import Hotspot.Configuration.Mapping

namespace Hotspot

/-! Forms that clients of the service fill in, with the defaults of what they leave out. -/

inductive BandSpelling where
  | mask (mask : Int)
  | text (text : String)
  | texts (texts : List String)
deriving DecidableEq

def BandSpelling.toValue : BandSpelling → Value
  | .mask number => .integer number
  | .text spelled => .text spelled
  | .texts spelled => .list (spelled.map .text)

structure ConfigurationForm where
  ssid : String
  passphrase : Option String := none
  securityType : String := "WPA2_PSK"
  band : BandSpelling := .text "2ghz"
  channel : Nat := 0
  hiddenSsid : Bool := false
  bssid : Option String := none
  maxClients : Nat := 0
  clientControl : Bool := false
deriving DecidableEq

namespace ConfigurationForm

def toFields (form : ConfigurationForm) : Fields :=
  [("ssid", .text form.ssid),
   ("passphrase", Configuration.optionalText form.passphrase),
   ("security_type", .text form.securityType),
   ("band", form.band.toValue),
   ("channel", .integer form.channel),
   ("hidden_ssid", .bool form.hiddenSsid),
   ("bssid", Configuration.optionalText form.bssid),
   ("max_number_of_clients", .integer form.maxClients),
   ("client_control_by_user_enabled", .bool form.clientControl)]

def configuration (form : ConfigurationForm) : Except Configuration.ReadError Configuration :=
  Configuration.ofFields form.toFields

end ConfigurationForm

structure LocalOnlyForm where
  band : BandSpelling := .text "2ghz"
  bssid : Option String := none
deriving DecidableEq

/-- The custom configuration of the form, which has an address only; a form
without an address has none. -/
def LocalOnlyForm.custom (form : LocalOnlyForm) :
    Except Configuration.ReadError (Option Configuration) :=
  match form.bssid with
  | none | some "" => .ok none
  | some bssid => (Configuration.ofFields [("bssid", .text bssid)]).map some

end Hotspot
