import Hotspot.Text.Blank
import Hotspot.Text.Uppercase
import Hotspot.Value.Display

namespace Hotspot

/-! How clients authenticate to the access point. -/

inductive SecurityType where
  | openAccess
  | wpa2Psk
  | wpa3SaeTransition
  | wpa3Sae
deriving DecidableEq, Repr

namespace SecurityType

def all : List SecurityType :=
  [.openAccess, .wpa2Psk, .wpa3SaeTransition, .wpa3Sae]

def code : SecurityType → Nat
  | .openAccess => 0
  | .wpa2Psk => 1
  | .wpa3SaeTransition => 2
  | .wpa3Sae => 3

def name : SecurityType → String
  | .openAccess => "OPEN"
  | .wpa2Psk => "WPA2_PSK"
  | .wpa3SaeTransition => "WPA3_SAE_TRANSITION"
  | .wpa3Sae => "WPA3_SAE"

def requiresPassphrase (security : SecurityType) : Bool :=
  security ≠ .openAccess

def isSae (security : SecurityType) : Bool :=
  security = .wpa3Sae || security = .wpa3SaeTransition

inductive Error where
  | truthValue
  | unknown (value : Value)
  | invalidCode (code : Int)

def Error.message : Error → String
  | .truthValue => "Security type must be a name or integer"
  | .unknown value => "Unknown security type: " ++ value.shown
  | .invalidCode code => toString code ++ " is not a valid SecurityType"

def ofCode? (code : Int) : Option SecurityType :=
  all.find? fun security => (security.code : Int) = code

/-- The security type with a code, as the constructor of a configuration takes
it. -/
def ofCode (code : Int) : Except Error SecurityType :=
  match ofCode? code with
  | some security => .ok security
  | none => .error (.invalidCode code)

/-- A text as it is compared with names: without blanks at its ends, in upper
case and with a low line for every hyphen. -/
def foldText (text : String) : List Char :=
  (Text.upper (Text.trim text.toList)).map fun character =>
    if character = '-' then '_' else character

def ofText? (text : String) : Option SecurityType :=
  let folded := foldText text
  all.find? fun security => security.name.toList = folded

def ofValue (value : Value) : Except Error SecurityType :=
  match value with
  | .bool _ => .error .truthValue
  | .integer code =>
    match ofCode? code with
    | some security => .ok security
    | none => .error (.unknown value)
  | .text text =>
    match ofText? text with
    | some security => .ok security
    | none => .error (.unknown value)
  | _ => .error (.unknown value)

theorem ofText?_name (security : SecurityType) : ofText? security.name = some security := by
  cases security <;> decide +kernel

example : ofText? " wpa3-sae" = some .wpa3Sae := by decide +kernel

end SecurityType

end Hotspot
