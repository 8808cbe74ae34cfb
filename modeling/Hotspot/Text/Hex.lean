import Hotspot.Text.Blank
import Hotspot.Text.Quoted

namespace Hotspot.Text

/-! Hexadecimal text of byte strings. Writing uses two lower-case digits for a
byte; reading takes digits of either case, and ASCII white space before and
after each pair but never inside one. -/

def hexValue? (character : Char) : Option Nat :=
  let point := character.toNat
  if 0x30 ≤ point ∧ point ≤ 0x39 then
    some (point - 0x30)
  else if 0x61 ≤ point ∧ point ≤ 0x66 then
    some (point - 0x57)
  else if 0x41 ≤ point ∧ point ≤ 0x46 then
    some (point - 0x37)
  else
    none

def hexOfByte (byte : UInt8) : List Char :=
  hexDigits 2 byte.toNat

def hexOfBytes (bytes : List UInt8) : List Char :=
  bytes.flatMap hexOfByte

def byteOfHex? (high low : Char) : Option UInt8 :=
  match hexValue? high, hexValue? low with
  | some high, some low => some (UInt8.ofNat (16 * high + low))
  | _, _ => none

/-- What reading has seen: the bytes so far, the last first, and the first
digit of a pair whose second is still owed. -/
structure HexReading where
  bytes : List UInt8 := []
  owed : Option Char := none

def HexReading.step (reading : HexReading) (character : Char) : Option HexReading :=
  match reading.owed with
  | some high =>
    (byteOfHex? high character).map fun byte => { bytes := byte :: reading.bytes }
  | none =>
    if isAsciiSpace character then some reading
    else some { reading with owed := some character }

def bytesOfHex? (text : List Char) : Option (List UInt8) :=
  match text.foldlM HexReading.step {} with
  | some { bytes, owed := none } => some bytes.reverse
  | _ => none

example : bytesOfHex? ['0', 'A', ' ', '0', 'b'] = some [0x0A, 0x0B] := by decide

example : bytesOfHex? ['0', ' ', 'a'] = none ∧ bytesOfHex? ['a'] = none := by decide

example : hexOfBytes [0x00, 0xFF] = ['0', '0', 'f', 'f'] := by decide

end Hotspot.Text
