import Hotspot.Text.Blank
import Hotspot.Text.Digits

namespace Hotspot.Text

/-! Numerals: integers in decimal notation. A numeral is read from a sign, if
any, directly before decimal digits, which may be grouped by single low lines;
white space around it is passed over. -/

def digitGroup? (value? : Char → Option Nat) (group : List Char) : Option (List Nat) :=
  if group.isEmpty then none else group.mapM value?

def groupedDigits? (value? : Char → Option Nat) (text : List Char) : Option (List Nat) := do
  let groups ← (text.splitOn '_').mapM (digitGroup? value?)
  some groups.flatten

def splitSign : List Char → Bool × List Char
  | '-' :: rest => (true, rest)
  | '+' :: rest => (false, rest)
  | text => (false, text)

def withSign (negative : Bool) (magnitude : Nat) : Int :=
  if negative then -magnitude else magnitude

def signedDigits? (value? : Char → Option Nat) (text : List Char) : Option Int := do
  let (negative, digits) := splitSign text
  some (withSign negative (ofDigits (← groupedDigits? value? digits)))

def integer? (text : List Char) : Option Int :=
  signedDigits? digitValue? (trimWhere isSpace text)

/-- The integer that a byte string denotes; it has ASCII digits only. -/
def integerOfBytes? (bytes : List UInt8) : Option Int :=
  signedDigits? asciiDigitValue?
    (trimWhere isAsciiSpace (bytes.map fun byte => Char.ofNat byte.toNat))

def decimal (number : Nat) : List Char :=
  Nat.toDigits 10 number

def signedDecimal (number : Int) : List Char :=
  if number < 0 then '-' :: decimal number.natAbs else decimal number.natAbs

example : integer? [' ', '+', '0', '1', '_', '1', '\n'] = some 11 := by decide

example : signedDecimal (-40) = ['-', '4', '0'] := by decide

/-- Neither a doubled low line nor a blank behind the sign is accepted. -/
example :
    integer? ['1', '_', '_', '1'] = none ∧ integer? ['+', ' ', '6'] = none := by decide

end Hotspot.Text
