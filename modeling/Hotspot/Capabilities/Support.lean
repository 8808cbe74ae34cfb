import Hotspot.Capabilities.Basic

namespace Hotspot.Configuration

/-! What a device makes of a configuration that asks for features it does not
have. Every such setting falls back to its default and the others stay. -/

/-- The 2.4 GHz channel of a configuration is not one that the device may use. A
configuration that selects other bands as well, or leaves the channel to the
device, has no such channel. -/
def hasForbiddenChannel (capabilities : Capabilities) (configuration : Configuration) : Bool :=
  configuration.band = .ghz2 && configuration.channel ≠ 0 &&
    !(capabilities.channels.map Channel.number).contains configuration.channel

def supportedSecurity (capabilities : Capabilities) (configuration : Configuration) :
    SecurityType :=
  if !capabilities.sae.isOn && configuration.securityType.isSae then .wpa2Psk
  else configuration.securityType

def supportedChannel (capabilities : Capabilities) (configuration : Configuration) : Nat :=
  if configuration.hasForbiddenChannel capabilities then 0 else configuration.channel

theorem supportedChannel_ne_zero {capabilities : Capabilities} {configuration : Configuration}
    (fixed : configuration.supportedChannel capabilities ≠ 0) : configuration.channel ≠ 0 := by
  unfold supportedChannel at fixed
  split at fixed
  · exact absurd rfl fixed
  · exact fixed

def withinCapabilities (capabilities : Capabilities) (configuration : Configuration) :
    Configuration :=
  { configuration with
    securityType := configuration.supportedSecurity capabilities
    maxClients := if capabilities.clientControl.isOn then configuration.maxClients else 0
    clientControl := capabilities.clientControl.isOn && configuration.clientControl
    channel := configuration.supportedChannel capabilities
    single_of_channel := fun fixed =>
      configuration.single_of_channel (supportedChannel_ne_zero fixed) }

end Hotspot.Configuration
