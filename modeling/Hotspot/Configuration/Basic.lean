import Hotspot.Band.Policy
import Hotspot.MacAddress
import Hotspot.SecurityType

namespace Hotspot

/-! The configuration of an access point. A fixed channel belongs to one band,
so a configuration with a channel selects a single band; the type says so, and
`Settings.check` is the one way from unchecked settings to a configuration. -/

/-- The configuration of an access point. Channel zero leaves the choice to the
device, and so does a client limit of zero. -/
structure Configuration where
  ssid : Option String := none
  bssid : Option MacAddress := none
  securityType : SecurityType := .openAccess
  passphrase : Option String := none
  band : Band := .ghz2
  channel : Nat := 0
  hiddenSsid : Bool := false
  maxClients : Nat := 0
  clientControl : Bool := false
  single_of_channel : channel ≠ 0 → band.isSingle = true := by simp
deriving DecidableEq

structure Settings where
  ssid : Option String := none
  bssid : Option MacAddress := none
  securityType : SecurityType := .openAccess
  passphrase : Option String := none
  band : Band := .ghz2
  channel : Int := 0
  hiddenSsid : Bool := false
  maxClients : Int := 0
  clientControl : Bool := false
deriving DecidableEq

inductive CountField where
  | channel
  | maxClients
deriving DecidableEq

def CountField.label : CountField → String
  | .channel => "Channel"
  | .maxClients => "Maximum number of clients"

inductive Settings.Error where
  | negative (field : CountField)
  | channelOfSeveralBands
deriving DecidableEq

def Settings.Error.message : Settings.Error → String
  | .negative field => field.label ++ " must not be negative"
  | .channelOfSeveralBands => "An explicit channel requires a single band"

def Settings.check (settings : Settings) : Except Settings.Error Configuration :=
  if settings.channel < 0 then
    .error (.negative .channel)
  else if single : settings.channel.toNat ≠ 0 → settings.band.isSingle = true then
    if settings.maxClients < 0 then
      .error (.negative .maxClients)
    else
      .ok {
        ssid := settings.ssid
        bssid := settings.bssid
        securityType := settings.securityType
        passphrase := settings.passphrase
        band := settings.band
        channel := settings.channel.toNat
        hiddenSsid := settings.hiddenSsid
        maxClients := settings.maxClients.toNat
        clientControl := settings.clientControl
        single_of_channel := single }
  else
    .error .channelOfSeveralBands

namespace Configuration

def settings (configuration : Configuration) : Settings where
  ssid := configuration.ssid
  bssid := configuration.bssid
  securityType := configuration.securityType
  passphrase := configuration.passphrase
  band := configuration.band
  channel := configuration.channel
  hiddenSsid := configuration.hiddenSsid
  maxClients := configuration.maxClients
  clientControl := configuration.clientControl

theorem check_settings (configuration : Configuration) :
    configuration.settings.check = .ok configuration := by
  have channel : ¬configuration.settings.channel < 0 := by simp [settings]
  have clients : ¬configuration.settings.maxClients < 0 := by simp [settings]
  have single : configuration.settings.channel.toNat ≠ 0 →
      configuration.settings.band.isSingle = true := configuration.single_of_channel
  rw [Settings.check, if_neg channel, dif_pos single, if_neg clients]
  rfl

/-- The configuration with the bands that the device uses for its selection. A
selection that has to change takes the channel with it, which belonged to the
former band. -/
def withPolicy (policy : RadioPolicy) (configuration : Configuration) : Configuration :=
  if policy.changes configuration.band then
    { configuration with
      band := policy.convert configuration.band
      channel := 0
      single_of_channel := by simp }
  else
    configuration

theorem band_withPolicy (policy : RadioPolicy) (configuration : Configuration) :
    (configuration.withPolicy policy).band = policy.convert configuration.band := by
  by_cases same : policy.convert configuration.band = configuration.band <;>
    simp [withPolicy, RadioPolicy.changes, same]

def withBssid (bssid : Option MacAddress) (configuration : Configuration) : Configuration :=
  { configuration with bssid }

end Configuration

end Hotspot
