import Hotspot.Configuration.Basic

namespace Hotspot.Legacy

/-! Configurations of former devices. A record holds the fields of such a
configuration as the file states them, with the numbers that stood for bands
and for ways to authenticate. -/

structure Record where
  version : Int
  ssid : String
  band : Int := 0
  channel : Int := 0
  hidden : Bool := false
  authType : Int := 0
  passphrase : Option String := none
deriving DecidableEq

inductive Error where
  | unreadable
  | truncated
  | badVersion (version : Int)
  | malformedText
  | unknownBand (band : Int)
  | unsupportedAuth (authType : Int)
  | invalidChannel (channel : Int)
deriving DecidableEq

def Error.message : Error → String
  | .unreadable => "Unable to read legacy configuration"
  | .truncated => "Unexpected end of legacy configuration file"
  | .badVersion version => "Bad legacy configuration version " ++ toString version
  | .malformedText => "Legacy configuration contains malformed text"
  | .unknownBand band => "Unknown legacy band " ++ toString band
  | .unsupportedAuth authType => "Unsupported legacy auth type " ++ toString authType
  | .invalidChannel channel => "Invalid legacy channel " ++ toString channel

def band? (number : Int) : Option Band :=
  if number = 0 then some .ghz2
  else if number = 1 then some .ghz5
  else if number = -1 then some .any
  else none

def securityType? (number : Int) : Option SecurityType :=
  if number = 0 then some .openAccess
  else if number = 1 ∨ number = 4 then some .wpa2Psk
  else none

def channelOn (band : Band) (channel : Nat) : Nat :=
  if band.isSingle then channel else 0

/-- The configuration that a record describes. Open access drops the
passphrase. -/
def Record.configuration (record : Record) : Except Error Configuration :=
  match band? record.band with
  | none => .error (.unknownBand record.band)
  | some band =>
    match securityType? record.authType with
    | none => .error (.unsupportedAuth record.authType)
    | some securityType =>
      if record.channel < 0 then
        .error (.invalidChannel record.channel)
      else
        .ok {
          ssid := some record.ssid
          securityType
          passphrase := if securityType.requiresPassphrase then record.passphrase else none
          band
          channel := channelOn band record.channel.toNat
          hiddenSsid := record.hidden
          single_of_channel := by
            intro fixed
            by_cases single : band.isSingle = true
            · exact single
            · simp [channelOn, single] at fixed }

end Hotspot.Legacy
