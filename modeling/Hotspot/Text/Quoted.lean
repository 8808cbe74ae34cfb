import Hotspot.Text.Printable

namespace Hotspot.Text

/-! Quoted display of texts and byte strings. Single quotes are used unless
the content holds a single quote and no double quote; the quote in use and the
backslash are escaped, line feed, carriage return and tab have short escapes,
and what cannot be shown is written as the hexadecimal digits of its code. -/

def hexDigit (digit : Nat) : Char :=
  if digit < 10 then Char.ofNat (0x30 + digit) else Char.ofNat (0x57 + digit)

def hexDigits (width number : Nat) : List Char :=
  match width with
  | 0 => []
  | width + 1 => hexDigits width (number / 16) ++ [hexDigit (number % 16)]

example : hexDigits 4 0xE9 = ['0', '0', 'e', '9'] := by decide

/-- The escape of a code that cannot be shown: two, four or eight digits, as
few as hold it. -/
def escapedCode (code : Nat) : List Char :=
  if code < 0x100 then
    '\\' :: 'x' :: hexDigits 2 code
  else if code < 0x10000 then
    '\\' :: 'u' :: hexDigits 4 code
  else
    '\\' :: 'U' :: hexDigits 8 code

def chooseQuote (hasSingle hasDouble : Bool) : Char :=
  if hasSingle && !hasDouble then '"' else '\''

def quotedCharacter (quote character : Char) : List Char :=
  if character = quote || character = '\\' then
    ['\\', character]
  else if character = '\n' then
    ['\\', 'n']
  else if character = '\r' then
    ['\\', 'r']
  else if character = '\t' then
    ['\\', 't']
  else if isPrintable character then
    [character]
  else
    escapedCode character.toNat

def quoted (text : List Char) : List Char :=
  let quote := chooseQuote (text.contains '\'') (text.contains '"')
  quote :: (text.flatMap (quotedCharacter quote) ++ [quote])

example : quoted ['a', '\n'] = ['\'', 'a', '\\', 'n', '\''] := by decide

example : quoted ['i', 't', '\'', 's'] = ['"', 'i', 't', '\'', 's', '"'] := by decide

def quotedByte (quote : Char) (byte : UInt8) : List Char :=
  if byte.toNat < 0x80 then
    quotedCharacter quote (Char.ofNat byte.toNat)
  else
    escapedCode byte.toNat

def quotedBytes (bytes : List UInt8) : List Char :=
  let quote := chooseQuote (bytes.contains 0x27) (bytes.contains 0x22)
  'b' :: quote :: (bytes.flatMap (quotedByte quote) ++ [quote])

example : quotedBytes [0x61, 0x00] = ['b', '\'', 'a', '\\', 'x', '0', '0', '\''] := by decide

end Hotspot.Text
