import Hotspot.Capabilities.Basic
import Hotspot.Draws

namespace Hotspot.Defaults

/-! Fresh configurations for access points that nobody has configured: an SSID
with a random number, the strongest security that the device supports, and a
random passphrase. The number is drawn before the passphrase. -/

def alphabet : List Char :=
  "abcdefghijklmnopqrstuvwxyzABCDEFGHIJKLMNOPQRSTUVWXYZ0123456789".toList

def passphraseLength : Nat := 15

def letter (drawn : Nat) : Char :=
  alphabet.getD (drawn % alphabet.length) 'a'

def passphrase (count : Nat) (draws : Draws) : String × Draws :=
  let (numbers, draws) := draws.many count
  (String.ofList (numbers.map letter), draws)

def ssidNumber (drawn : Nat) : Nat :=
  1000 + drawn % 9000

def ssid (name : String) (draws : Draws) : String × Draws :=
  let (drawn, draws) := draws.next
  (name ++ "_" ++ String.ofList (Text.decimal (ssidNumber drawn)), draws)

inductive Error where
  | longName
deriving DecidableEq

def Error.message : Error → String
  | .longName => "SSID prefix must not exceed 27 bytes"

def checkName (name : String) : Except Error Unit :=
  if name.utf8ByteSize ≤ 27 then .ok () else .error .longName

/-- The strongest security that every client of the device can use. -/
def securityType (capabilities : Capabilities) : SecurityType :=
  if capabilities.sae.isOn then .wpa3SaeTransition else .wpa2Psk

def fresh (capabilities : Capabilities) (name : String) (band : Band) (draws : Draws) :
    Configuration × Draws :=
  let (ssid, draws) := ssid name draws
  let (passphrase, draws) := passphrase passphraseLength draws
  ({ ssid := some ssid
     securityType := securityType capabilities
     passphrase := some passphrase
     band := band
     single_of_channel := by simp }, draws)

/-- A fresh configuration under a name that leaves room for the digits. The
numbers that are left are there in either case. -/
def draw (capabilities : Capabilities) (name : String) (band : Band) (draws : Draws) :
    Except Error Configuration × Draws :=
  match checkName name with
  | .ok () =>
    let (configuration, draws) := fresh capabilities name band draws
    (.ok configuration, draws)
  | .error error => (.error error, draws)

def generate (capabilities : Capabilities) (name : String) (band : Band) (draws : Draws) :
    Except Error (Configuration × Draws) :=
  let (outcome, draws) := draw capabilities name band draws
  outcome.map fun configuration => (configuration, draws)

def tethering (capabilities : Capabilities) (draws : Draws) : Configuration × Draws :=
  fresh capabilities capabilities.tetherTemplate.text .ghz2 draws

def localOnly (capabilities : Capabilities) (band : Band) (custom : Option Configuration)
    (draws : Draws) : Configuration × Draws :=
  let (configuration, draws) :=
    fresh capabilities capabilities.localOnlyTemplate.text band draws
  match custom.bind Configuration.bssid with
  | some bssid => (configuration.withBssid (some bssid), draws)
  | none => (configuration, draws)

example : (ssid "AP" (.cycle [4])).1 = "AP_1004" := by decide +kernel

end Hotspot.Defaults
