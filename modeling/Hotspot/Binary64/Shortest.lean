import Hotspot.Binary64.Basic
import Hotspot.Text.Numeral

namespace Hotspot

/-! The shortest decimal notation of a binary64 number: the fewest digits that
read back as the number, and of those the nearest to it. Numbers from 0.0001 up
to but not including 10^16 are written positionally with at least one digit on
either side of the point; others with one digit before the point and an
exponent of at least two digits. -/

namespace Binary64

/-- A number with all the numbers that round to it, in units of a quarter of
its last place. -/
structure RoundingInterval where
  lower : Nat
  value : Nat
  upper : Nat
  closed : Bool
  unit : Int

/-- The numbers that round to a positive finite number. Below a power of two
the neighbour is only half as far away as above it. -/
def roundingInterval (significand : Nat) (exponent : Int) : RoundingInterval where
  lower :=
    if significand = Nat.pow 2 52 ∧ leastExponent < exponent then 4 * significand - 1
    else 4 * significand - 2
  value := 4 * significand
  upper := 4 * significand + 2
  closed := significand % 2 = 0
  unit := exponent - 2

/-- A step of a decimal grid measured in units of two to the power `unit`, as a
ratio: the grid has its points at the multiples of ten to the power `place`. -/
def gridStep (place unit : Int) : Nat × Nat :=
  (Nat.pow 10 place.toNat * Nat.pow 2 (-unit).toNat,
    Nat.pow 10 (-place).toNat * Nat.pow 2 unit.toNat)

def RoundingInterval.holds (interval : RoundingInterval) (step : Nat × Nat) (point : Nat) : Bool :=
  let position := point * step.1
  let lower := interval.lower * step.2
  let upper := interval.upper * step.2
  if interval.closed then
    decide (lower ≤ position) && decide (position ≤ upper)
  else
    decide (lower < position) && decide (position < upper)

/-- The grid point of the interval that is nearest to the number, an even one
on a tie. Only the two neighbours of the number need to be tested. -/
def RoundingInterval.nearest? (interval : RoundingInterval) (step : Nat × Nat) : Option Nat :=
  let below := interval.value * step.2 / step.1
  match interval.holds step below, interval.holds step (below + 1) with
  | false, false => none
  | true, false => some below
  | false, true => some (below + 1)
  | true, true => some (roundHalfEven (interval.value * step.2) step.1)

def magnitude (significand : Nat) (exponent : Int) : Int :=
  let scaled :=
    significand * Nat.pow 10 400 * Nat.pow 2 exponent.toNat / Nat.pow 2 (-exponent).toNat
  ((Text.decimal scaled).length : Int) - 400

structure ShortestDigits where
  digits : List Char
  point : Int

def dropTrailingZeros (digits : List Char) : List Char :=
  (digits.reverse.dropWhile (· = '0')).reverse

/-- The digits of a positive finite number, tried with `count` digits first and
then with one more each time, `more` times at most. -/
def searchDigits (interval : RoundingInterval) (magnitude : Int) (count : Nat) :
    (more : Nat) → Option ShortestDigits
  | 0 => none
  | more + 1 =>
    let place := magnitude - count
    match interval.nearest? (gridStep place interval.unit) with
    | some point =>
      let digits := Text.decimal point
      some { digits := dropTrailingZeros digits, point := place + digits.length }
    | none => searchDigits interval magnitude (count + 1) more

/-- The shortest digits of a positive finite number. Seventeen always suffice. -/
def shortestDigits (significand : Nat) (exponent : Int) : ShortestDigits :=
  (searchDigits (roundingInterval significand exponent) (magnitude significand exponent) 1 17).getD
    { digits := ['0'], point := 1 }

def positional (shortest : ShortestDigits) : List Char :=
  let { digits, point } := shortest
  if point ≤ 0 then
    '0' :: '.' :: (List.replicate (-point).toNat '0' ++ digits)
  else if point < digits.length then
    digits.take point.toNat ++ '.' :: digits.drop point.toNat
  else
    digits ++ List.replicate (point.toNat - digits.length) '0' ++ ['.', '0']

def exponentText (exponent : Int) : List Char :=
  let digits := Text.decimal exponent.natAbs
  let padded := if digits.length < 2 then '0' :: digits else digits
  (if exponent < 0 then '-' else '+') :: padded

def scientific (shortest : ShortestDigits) : List Char :=
  let tail := shortest.digits.drop 1
  shortest.digits.take 1 ++ (if tail.isEmpty then [] else '.' :: tail) ++
    'e' :: exponentText (shortest.point - 1)

def magnitudeText (significand : Nat) (exponent : Int) : List Char :=
  if significand = 0 then
    ['0', '.', '0']
  else
    let shortest := shortestDigits significand exponent
    if -4 < shortest.point ∧ shortest.point ≤ 16 then positional shortest
    else scientific shortest

structure SpecialWords where
  nan : String
  infinite : String

def shortest (words : SpecialWords) : Binary64 → List Char
  | .nan => words.nan.toList
  | .infinite negative => (if negative then ['-'] else []) ++ words.infinite.toList
  | .finite negative significand exponent =>
    (if negative then ['-'] else []) ++ magnitudeText significand exponent

end Binary64

end Hotspot
