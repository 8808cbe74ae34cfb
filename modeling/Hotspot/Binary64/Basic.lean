namespace Hotspot

/-! Binary64 numbers as exact values. A finite number is a sign, a significand
and a power of two, so conversions to integers are exact, and conversion from a
ratio rounds once, to the nearest number and on a tie to the even significand. -/

inductive Binary64 where
  | nan
  | infinite (negative : Bool)
  /-- The number `significand * 2 ^ exponent`, negated where `negative`. -/
  | finite (negative : Bool) (significand : Nat) (exponent : Int)
deriving DecidableEq, Repr

namespace Binary64

def leastExponent : Int := -1074

def greatestExponent : Int := 971

def zeroWith (negative : Bool) : Binary64 :=
  .finite negative 0 leastExponent

def roundHalfEven (numerator denominator : Nat) : Nat :=
  let quotient := numerator / denominator
  let twice := 2 * (numerator % denominator)
  if twice < denominator then quotient
  else if denominator < twice then quotient + 1
  else if quotient % 2 = 0 then quotient
  else quotient + 1

def scaleDown (numerator denominator : Nat) (exponent : Int) : Nat × Nat :=
  (numerator * Nat.pow 2 (-exponent).toNat, denominator * Nat.pow 2 exponent.toNat)

/-- The exponent at which a positive ratio has a significand of 53 bits, or the
least exponent if that is larger. -/
def exponentOf (numerator denominator : Nat) : Int :=
  let estimate : Int := (Nat.log2 numerator : Int) - (Nat.log2 denominator : Int) - 53
  let exponent := max estimate leastExponent
  let (scaled, divisor) := scaleDown numerator denominator exponent
  if Nat.pow 2 53 ≤ scaled / divisor then exponent + 1 else exponent

def ofRatio (negative : Bool) (numerator denominator : Nat) : Binary64 :=
  if numerator = 0 then
    zeroWith negative
  else
    let exponent := exponentOf numerator denominator
    let (scaled, divisor) := scaleDown numerator denominator exponent
    let rounded := roundHalfEven scaled divisor
    let (significand, exponent) :=
      if rounded = Nat.pow 2 53 then (Nat.pow 2 52, exponent + 1) else (rounded, exponent)
    if greatestExponent < exponent then .infinite negative
    else .finite negative significand exponent

def wholePart (significand : Nat) (exponent : Int) : Nat :=
  significand * Nat.pow 2 exponent.toNat / Nat.pow 2 (-exponent).toNat

def isWhole (significand : Nat) (exponent : Int) : Bool :=
  significand % Nat.pow 2 (-exponent).toNat = 0

def isZero : Binary64 → Bool
  | .finite _ significand _ => significand = 0
  | _ => false

def isIntegral : Binary64 → Bool
  | .finite _ significand exponent => isWhole significand exponent
  | _ => false

end Binary64

end Hotspot
