import Hotspot.Configuration.Basic

namespace Hotspot

/-! What a configuration needs before an access point can run with it: an SSID
and, unless access is open, a passphrase, each of a length that is measured in
UTF-8 bytes. -/

namespace Ssid

def leastBytes : Nat := 1

def mostBytes : Nat := 32

end Ssid

namespace Passphrase

def leastBytes : Nat := 8

def mostBytes : Nat := 63

end Passphrase

inductive Flaw where
  | noConfiguration
  | noSsid
  | ssidLength
  | passphraseOnOpenAccess
  | noPassphrase (securityType : SecurityType)
  | passphraseLength
deriving DecidableEq

def Flaw.message : Flaw → String
  | .noConfiguration => "configuration is missing"
  | .noSsid => "SSID is missing"
  | .ssidLength =>
    "SSID must be between " ++ toString Ssid.leastBytes ++ " and " ++
      toString Ssid.mostBytes ++ " bytes"
  | .passphraseOnOpenAccess => "open networks must not set a passphrase"
  | .noPassphrase securityType => securityType.name ++ " requires a passphrase"
  | .passphraseLength =>
    "passphrase must be between " ++ toString Passphrase.leastBytes ++ " and " ++
      toString Passphrase.mostBytes ++ " bytes"

namespace Configuration

def ssidFlaw? : Option String → Option Flaw
  | none => some .noSsid
  | some ssid =>
    if Ssid.leastBytes ≤ ssid.utf8ByteSize ∧ ssid.utf8ByteSize ≤ Ssid.mostBytes then none
    else some .ssidLength

def passphraseFlaw? (securityType : SecurityType) : Option String → Option Flaw
  | none => if securityType.requiresPassphrase then some (.noPassphrase securityType) else none
  | some passphrase =>
    if !securityType.requiresPassphrase then
      some .passphraseOnOpenAccess
    else if Passphrase.leastBytes ≤ passphrase.utf8ByteSize ∧
        passphrase.utf8ByteSize ≤ Passphrase.mostBytes then
      none
    else
      some .passphraseLength

/-- The first flaw of a configuration; that of its SSID comes first. -/
def flaw? (configuration : Configuration) : Option Flaw :=
  (ssidFlaw? configuration.ssid).or
    (passphraseFlaw? configuration.securityType configuration.passphrase)

def flawOf? : Option Configuration → Option Flaw
  | none => some .noConfiguration
  | some configuration => configuration.flaw?

def IsValid (configuration : Configuration) : Prop :=
  configuration.flaw? = none

example : flaw? { ssid := some "AP" } = none := by decide

example :
    flaw? { ssid := some "AP", securityType := .wpa3Sae } = some (.noPassphrase .wpa3Sae) := by
  decide

end Configuration

end Hotspot
