import Hotspot.Configuration.Basic
import Hotspot.Digest.Hmac
import Hotspot.Text.Utf8

namespace Hotspot

/-! The address that an access point uses. An address in the configuration
wins; without one, a device that randomizes addresses derives a persistent one,
and any other device uses the address it was made with. -/

structure MacQuery where
  identity : String := "softap"
  salt : String := "softap_persistent_bssid"
deriving DecidableEq

inductive MacSourceError where
  | unavailable
  | address (error : MacAddress.Error)
deriving DecidableEq

def MacSourceError.message? : MacSourceError → Option String
  | .unavailable => none
  | .address error => some error.message

/-- A source of persistent addresses: it answers the same question the same
way, and it may fail. -/
abbrev MacSource := MacQuery → Except MacSourceError MacAddress

namespace MacSource

inductive SecretError where
  | empty
deriving DecidableEq

def SecretError.message : SecretError → String
  | .empty => "MAC derivation secret must not be empty"

def localUnicast (octet : UInt8) : UInt8 :=
  (octet &&& 0xFC) ||| 0x02

def makeLocal : List UInt8 → List UInt8
  | [] => []
  | first :: rest => localUnicast first :: rest

theorem length_makeLocal (octets : List UInt8) :
    (makeLocal octets).length = octets.length := by
  cases octets <;> rfl

def message (query : MacQuery) : List UInt8 :=
  Text.encodeUtf8 (query.identity ++ "|" ++ query.salt).toList

/-- The address that a secret gives to a query: the first six bytes of the
keyed digest, as a local address. -/
def derive (secret : List UInt8) (query : MacQuery) : MacAddress where
  octets := makeLocal ((Digest.hmac secret (message query)).take 6)
  length_octets := by simp [length_makeLocal, Digest.length_hmac]

def ofSecret (secret : List UInt8) : Except SecretError MacSource :=
  if secret.isEmpty then .error .empty else .ok fun query => .ok (derive secret query)

end MacSource

inductive BssidError where
  | noSource
  | source (error : MacSourceError)
deriving DecidableEq

def BssidError.message? : BssidError → Option String
  | .noSource => some "MAC randomization requires a persistent MAC provider"
  | .source error => error.message?

/-- An answer, with the questions that a source was asked for it. -/
structure Consultation (answer : Type) where
  asked : List MacQuery
  result : Except BssidError answer

namespace Bssid

/-- The address for a configuration; none stands for the one that the device
was made with. -/
def resolve (configuration : Configuration) (randomizes : Bool) (source : Option MacSource)
    (query : MacQuery) : Consultation (Option MacAddress) :=
  match configuration.bssid with
  | some bssid => { asked := [], result := .ok (some bssid) }
  | none =>
    if randomizes then
      match source with
      | none => { asked := [], result := .error .noSource }
      | some source =>
        { asked := [query], result := ((source query).map some).mapError .source }
    else
      { asked := [], result := .ok none }

def randomize (configuration : Configuration) (randomizes : Bool) (source : Option MacSource)
    (query : MacQuery) : Consultation Configuration :=
  let resolved := resolve configuration randomizes source query
  { asked := resolved.asked
    result := resolved.result.map fun bssid => configuration.withBssid bssid }

end Bssid

end Hotspot
