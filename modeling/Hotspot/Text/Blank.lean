import Hotspot.Text.Ranges

namespace Hotspot.Text

/-! White space and trimming. Three classes of blank characters occur: the
ASCII ones that separate groups of hexadecimal digits, those with the Unicode
property `White_Space`, which surround a numeral, and the widest class, which
adds the four information separators and surrounds every other text. -/

def isAsciiSpace (character : Char) : Bool :=
  Ranges.contains [(0x09, 0x0D), (0x20, 0x20)] character

/-- The characters with the Unicode property `White_Space`. -/
def spaceRanges : Ranges :=
  [(0x09, 0x0D), (0x20, 0x20), (0x85, 0x85), (0xA0, 0xA0), (0x1680, 0x1680),
   (0x2000, 0x200A), (0x2028, 0x2029), (0x202F, 0x202F), (0x205F, 0x205F),
   (0x3000, 0x3000)]

def isSpace (character : Char) : Bool :=
  spaceRanges.contains character

/-- White space, or one of the information separators U+001C to U+001F. -/
def isBlank (character : Char) : Bool :=
  isSpace character || Ranges.contains [(0x1C, 0x1F)] character

example : isBlank '\u00a0' = true := by decide

/-- Neither the zero width space nor the byte order mark is blank. -/
example : isBlank '\u200b' = false ∧ isBlank '\ufeff' = false := by decide

def trimWhere {α : Type} (drops : α → Bool) (text : List α) : List α :=
  ((text.dropWhile drops).reverse.dropWhile drops).reverse

def trim (text : List Char) : List Char :=
  trimWhere isBlank text

example : trim ['\t', 'a', ' ', 'b', '\u3000'] = ['a', ' ', 'b'] := by decide

def isBlankText (text : List Char) : Bool :=
  text.all isBlank

end Hotspot.Text
