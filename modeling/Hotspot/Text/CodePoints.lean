import Hotspot.Text.Blank
import Hotspot.Text.Quoted
import Hotspot.Text.Utf8

namespace Hotspot.Text

/-! Texts by their code points. A surrogate without a partner is a code point and no
character, so a row with one in it is no string and has no UTF-8 form. -/

def codePoints (text : String) : List Nat :=
  text.toList.map Char.toNat

def ofCodePoints? (points : List Nat) : Option String :=
  (points.mapM character?).map String.ofList

def isCharacter (point : Nat) : Bool :=
  (character? point).isSome

def isBlankPoint (point : Nat) : Bool :=
  (character? point).any isBlank

def trimPoints (points : List Nat) : List Nat :=
  trimWhere isBlankPoint points

def quotedPoint (quote : Char) (point : Nat) : List Char :=
  match character? point with
  | some character => quotedCharacter quote character
  | none => escapedCode point

def quotedPoints (points : List Nat) : List Char :=
  let quote := chooseQuote (points.contains 0x27) (points.contains 0x22)
  quote :: (points.flatMap (quotedPoint quote) ++ [quote])

/-- Where the first surrogates stand that have no UTF-8 form, and how many they are. -/
def strayAt (points : List Nat) : Nat × Nat :=
  ((points.takeWhile isCharacter).length,
    ((points.dropWhile isCharacter).takeWhile (!isCharacter ·)).length)

example : strayAt [0x41, 0xD800, 0xDC00, 0x42] = (1, 2) := by decide

example : quotedPoints [0x41, 0xD800] = "'A\\ud800'".toList := by decide

end Hotspot.Text
