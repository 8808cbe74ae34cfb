namespace Hotspot.Text

/-! UTF-16 code units. A character beyond U+FFFF is a pair of surrogates, a
high one before a low one. -/

def isHighSurrogate (unit : Nat) : Bool :=
  decide (0xD800 ≤ unit) && decide (unit ≤ 0xDBFF)

def isLowSurrogate (unit : Nat) : Bool :=
  decide (0xDC00 ≤ unit) && decide (unit ≤ 0xDFFF)

def pairPoint (high low : Nat) : Nat :=
  0x10000 + (high - 0xD800) * 0x400 + (low - 0xDC00)

def codeUnits (character : Char) : List Nat :=
  let point := character.toNat
  if point < 0x10000 then
    [point]
  else
    [0xD800 + (point - 0x10000) / 0x400, 0xDC00 + (point - 0x10000) % 0x400]

/-- The code points of code units. A surrogate without its partner stands for itself. -/
def pointsOfUnits : List Nat → List Nat
  | high :: low :: rest =>
    if isHighSurrogate high && isLowSurrogate low then
      pairPoint high low :: pointsOfUnits rest
    else
      high :: pointsOfUnits (low :: rest)
  | units => units

example : codeUnits '😀' = [0xD83D, 0xDE00] ∧ pairPoint 0xD83D 0xDE00 = '😀'.toNat := by
  decide

end Hotspot.Text
