import Hotspot.Text.Blank
import Hotspot.Text.Hex
import Hotspot.Text.Lowercase
import Hotspot.Text.Pattern
import Hotspot.Value.Basic

namespace Hotspot

/-! IEEE 802 MAC addresses of six octets. -/

structure MacAddress where
  octets : List UInt8
  length_octets : octets.length = 6
deriving DecidableEq, Repr

namespace MacAddress

inductive Error where
  | wrongLength
  | otherKind
  | malformed (text : String)
  | notHexadecimal
deriving DecidableEq

def Error.message : Error → String
  | .wrongLength => "MAC address must contain exactly six bytes"
  | .otherKind => "MAC address must be a string"
  | .malformed text => "Invalid MAC address: " ++ String.ofList (Text.quoted text.toList)
  | .notHexadecimal => "non-hexadecimal number found in fromhex() arg"

def ofOctets? (octets : List UInt8) : Option MacAddress :=
  if length_octets : octets.length = 6 then some { octets, length_octets } else none

def firstOctet (address : MacAddress) : UInt8 :=
  address.octets.headD 0

def isLocallyAdministered (address : MacAddress) : Bool :=
  address.firstOctet &&& 0x02 ≠ 0

def isMulticast (address : MacAddress) : Bool :=
  address.firstOctet &&& 0x01 ≠ 0

def joined (separator : List Char) (address : MacAddress) : List Char :=
  separator.intercalate (address.octets.map Text.hexOfByte)

def text (address : MacAddress) : String :=
  String.ofList (address.joined [':'])

/-- Two hexadecimal digits, without capitals. -/
def octetPattern : Text.Pattern :=
  .times 2 (.oneOf [(0x30, 0x39), (0x61, 0x66)])

def separatorPattern : Text.Pattern :=
  .group 1 (.optional (.oneOf [(0x3A, 0x3A), (0x2D, 0x2D)]))

def laterPattern : Text.Pattern :=
  .group 2 (.andThen (.sameAs 1) octetPattern)

/-- The expression `^[0-9a-f]{2}([:-]?)[0-9a-f]{2}(\1[0-9a-f]{2}){4}$`. -/
def pattern : Text.Pattern :=
  .andThen .start <|
  .andThen octetPattern <|
  .andThen separatorPattern <|
  .andThen octetPattern <|
  .andThen (.times 4 laterPattern) .finish

def ofBytes (bytes : List UInt8) : Except Error MacAddress :=
  match ofOctets? bytes with
  | some address => .ok address
  | none => .error .wrongLength

def digitsOf (folded : List Char) : List Char :=
  (folded.filter (· ≠ ':')).filter (· ≠ '-')

/-- The address that a text spells, in letters of either case and with blanks
at its ends. -/
def ofText (text : String) : Except Error MacAddress :=
  let folded := Text.lower (Text.trim text.toList)
  if pattern.isMatchedBy folded then
    match Text.bytesOfHex? (digitsOf folded) with
    | some bytes => ofBytes bytes
    | none => .error .notHexadecimal
  else
    .error (.malformed text)

def ofValue : Value → Except Error MacAddress
  | .bytes bytes => ofBytes bytes
  | .text text => ofText text
  | _ => .error .otherKind

example : (ofText " AA-bb-CC-dd-EE-ff").toOption.map text = some "aa:bb:cc:dd:ee:ff" := by
  decide +kernel

example : (ofText "aa:bb:cc-dd-ee-ff").toOption = none := by decide +kernel

end MacAddress

end Hotspot
