import Hotspot.Binary64.Basic
import Hotspot.Text.Numeral

namespace Hotspot

/-! Binary64 numbers from decimal notation. The text is taken apart into its
digits and its power of ten, and the exact value is rounded once. -/

structure DecimalParts where
  whole : List Nat
  fraction? : Option (List Nat)
  exponent? : Option Int
deriving DecidableEq, Repr

namespace DecimalParts

def splitDigits (text : List Char) : List Nat × List Char :=
  let isDigit := fun character => (Text.asciiDigitValue? character).isSome
  ((text.takeWhile isDigit).filterMap Text.asciiDigitValue?, text.dropWhile isDigit)

def exponentOfText? (text : List Char) : Option Int :=
  let (negative, rest) := Text.splitSign text
  match splitDigits rest with
  | ([], _) => none
  | (digits, []) => some (Text.withSign negative (Text.ofDigits digits))
  | _ => none

def withExponent? (whole : List Nat) (fraction? : Option (List Nat)) :
    List Char → Option DecimalParts
  | [] => some { whole, fraction?, exponent? := none }
  | mark :: rest =>
    if mark = 'e' || mark = 'E' then
      (exponentOfText? rest).map fun exponent => { whole, fraction?, exponent? := some exponent }
    else
      none

/-- Take a text apart: digits, a point with digits, an exponent. The digits on
either side of the point may be missing. -/
def ofText? (text : List Char) : Option DecimalParts :=
  match splitDigits text with
  | (whole, '.' :: rest) =>
    let (fraction, rest) := splitDigits rest
    withExponent? whole (some fraction) rest
  | (whole, rest) => withExponent? whole none rest

def digits (parts : DecimalParts) : List Nat :=
  parts.whole ++ parts.fraction?.getD []

def scale (parts : DecimalParts) : Int :=
  parts.exponent?.getD 0 - ((parts.fraction?.getD []).length : Int)

end DecimalParts

namespace Binary64

/-- The number nearest to `coefficient * 10 ^ scale`. Outside the powers of ten
that binary64 spans the answer is known without the power. -/
def ofDecimal (negative : Bool) (coefficient : Nat) (scale : Int) : Binary64 :=
  if coefficient = 0 then
    zeroWith negative
  else
    let size : Int := scale + ((Text.decimal coefficient).length : Int)
    if 310 < size then .infinite negative
    else if size < -330 then zeroWith negative
    else ofRatio negative (coefficient * Nat.pow 10 scale.toNat) (Nat.pow 10 (-scale).toNat)

def ofParts (negative : Bool) (parts : DecimalParts) : Binary64 :=
  ofDecimal negative (Text.ofDigits parts.digits) parts.scale

end Binary64

end Hotspot
