import Hotspot.Binary64.Decimal
import Hotspot.Text.Hex
import Hotspot.Text.Surrogates
import Hotspot.Value.Basic

namespace Hotspot.Json

/-! The tokens of a JSON text. A machine reads the text character by character:
between tokens it passes over white space, a run of letters, digits, signs and
points is one atom, and a text ends at its closing quote. Next to the literals
of the standard, the words for NaN and the infinities are atoms too. -/

inductive Token where
  | openObject
  | closeObject
  | openList
  | closeList
  | colon
  | comma
  | text (points : List Nat)
  | atom (value : Value)

/-- The value of a run of characters that is a number: no sign but a minus, no
needless leading zero, and digits on either side of a point. A number with a
point or an exponent is a floating point number. -/
def number? (run : List Char) : Option Value :=
  let (negative, digits) :=
    match run with
    | '-' :: rest => (true, rest)
    | _ => (false, run)
  match DecimalParts.ofText? digits with
  | none => none
  | some parts =>
    if parts.whole.isEmpty || (parts.whole.head? = some 0 && parts.whole ≠ [0])
        || parts.fraction? = some [] then
      none
    else if parts.fraction?.isSome || parts.exponent?.isSome then
      some (.float (Binary64.ofParts negative parts))
    else
      some (.integer (Text.withSign negative (Text.ofDigits parts.whole)))

def atom? (run : List Char) : Option Value :=
  match String.ofList run with
  | "null" => some .null
  | "true" => some (.bool true)
  | "false" => some (.bool false)
  | "NaN" => some (.float .nan)
  | "Infinity" => some (.float (.infinite false))
  | "-Infinity" => some (.float (.infinite true))
  | _ => number? run

def isAtomCharacter (character : Char) : Bool :=
  character.isAlphanum || character = '+' || character = '-' || character = '.'

def isSeparator (character : Char) : Bool :=
  character = ' ' || character = '\t' || character = '\n' || character = '\r'

def punctuation? : Char → Option Token
  | '\x7b' => some .openObject
  | '\x7d' => some .closeObject
  | '[' => some .openList
  | ']' => some .closeList
  | ':' => some .colon
  | ',' => some .comma
  | _ => none

def escaped? : Char → Option Char
  | '"' => some '"'
  | '\\' => some '\\'
  | '/' => some '/'
  | 'b' => some '\x08'
  | 'f' => some '\x0c'
  | 'n' => some '\n'
  | 'r' => some '\r'
  | 't' => some '\t'
  | _ => none

/-- Where the machine stands. Runs and code units are kept backwards. -/
inductive Mode where
  | between
  | atom (run : List Char)
  | text (units : List Nat)
  | escape (units : List Nat)
  /-- Inside a code unit in hexadecimal, with digits still owed. -/
  | code (units : List Nat) (owed value : Nat)

structure Lexer where
  tokens : List Token := []
  mode : Mode := .between

namespace Lexer

def stepBetween (tokens : List Token) (character : Char) : Option Lexer :=
  if isSeparator character then
    some { tokens }
  else if character = '"' then
    some { tokens, mode := .text [] }
  else if isAtomCharacter character then
    some { tokens, mode := .atom [character] }
  else
    (punctuation? character).map fun token => { tokens := token :: tokens }

def closeAtom (tokens : List Token) (run : List Char) : Option (List Token) :=
  (atom? run.reverse).map fun value => .atom value :: tokens

def step (lexer : Lexer) (character : Char) : Option Lexer :=
  match lexer.mode with
  | .between => stepBetween lexer.tokens character
  | .atom run =>
    if isAtomCharacter character then
      some { lexer with mode := .atom (character :: run) }
    else
      match closeAtom lexer.tokens run with
      | none => none
      | some tokens => stepBetween tokens character
  | .text units =>
    if character = '"' then
      some { tokens := .text (Text.pointsOfUnits units.reverse) :: lexer.tokens }
    else if character = '\\' then
      some { lexer with mode := .escape units }
    else if character.toNat < 0x20 then
      none
    else
      some { lexer with mode := .text (character.toNat :: units) }
  | .escape units =>
    if character = 'u' then
      some { lexer with mode := .code units 4 0 }
    else
      (escaped? character).map fun meant =>
        { lexer with mode := .text (meant.toNat :: units) }
  | .code units owed value =>
    match Text.hexValue? character with
    | none => none
    | some digit =>
      let value := 16 * value + digit
      if owed ≤ 1 then
        some { lexer with mode := .text (value :: units) }
      else
        some { lexer with mode := .code units (owed - 1) value }

def finish (lexer : Lexer) : Option (List Token) :=
  match lexer.mode with
  | .between => some lexer.tokens.reverse
  | .atom run => (closeAtom lexer.tokens run).map List.reverse
  | _ => none

end Lexer

def tokens? (text : List Char) : Option (List Token) := do
  (← text.foldlM Lexer.step {}).finish

end Hotspot.Json
