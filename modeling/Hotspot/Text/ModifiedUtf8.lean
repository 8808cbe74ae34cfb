import Hotspot.Text.Surrogates
import Hotspot.Text.Utf8

namespace Hotspot.Text

/-! Modified UTF-8: the character NUL is the pair `C0 80`, and a character
beyond U+FFFF is two sequences of three bytes, one for each surrogate. Reading
is more liberal than writing: a raw NUL byte and a sequence of four bytes are
accepted too. -/

def encodeUnit (unit : Nat) : List UInt8 :=
  if unit = 0 then [0xC0, 0x80] else encodePoint unit

def encodeModified (text : List Char) : List UInt8 :=
  text.flatMap fun character => (codeUnits character).flatMap encodeUnit

/-- Every pair `C0 80` replaced by a NUL byte, from left to right, behind the
bytes `seen`, the last of which comes first. -/
def foldNulAfter (seen : List UInt8) : List UInt8 → List UInt8
  | 0xC0 :: 0x80 :: rest => foldNulAfter (0x00 :: seen) rest
  | byte :: rest => foldNulAfter (byte :: seen) rest
  | [] => seen.reverse

def foldNul (bytes : List UInt8) : List UInt8 :=
  foldNulAfter [] bytes

/-- The characters of a row of code points in which surrogates stand in pairs,
behind those `seen`, the last of which comes first. -/
def joinAfter (seen : List Char) : List Nat → Option (List Char)
  | [] => some seen.reverse
  | point :: rest =>
    if isHighSurrogate point then
      match rest with
      | [] => none
      | low :: rest =>
        if isLowSurrogate low then
          joinAfter (Char.ofNat (pairPoint point low) :: seen) rest
        else
          none
    else
      match character? point with
      | none => none
      | some character => joinAfter (character :: seen) rest

def joinSurrogates? (points : List Nat) : Option (List Char) :=
  joinAfter [] points

def decodeModified? (bytes : List UInt8) : Option (List Char) := do
  joinSurrogates? (← points? (foldNul bytes))

example : encodeModified ['\x00', '😀'] =
    [0xC0, 0x80, 0xED, 0xA0, 0xBD, 0xED, 0xB8, 0x80] := by decide

example : decodeModified? (encodeModified ['a', '\x00', '😀']) = some ['a', '\x00', '😀'] := by
  decide

/-- A surrogate without its partner is refused. -/
example :
    decodeModified? [0xED, 0xA0, 0xBD] = none ∧
      decodeModified? [0xED, 0xB8, 0x80, 0xED, 0xA0, 0xBD] = none := by decide

end Hotspot.Text
