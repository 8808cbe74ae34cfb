import Hotspot.Binary64.Shortest
import Hotspot.Text.Hex
import Hotspot.Text.Surrogates
import Hotspot.Text.Utf8
import Hotspot.Value.Basic

namespace Hotspot.Json

/-! JSON texts of values, in ASCII. A character outside the printable ASCII
range is written as the escapes of its UTF-16 code units, or as a short escape
where it has one. A byte string has no JSON form of its own and is written as
the text of its hexadecimal digits. -/

structure Layout where
  /-- What stands before a part, and before the closing bracket, at a depth. -/
  lineBreak : Nat → List Char
  afterName : List Char

def Layout.compact : Layout where
  lineBreak := fun _ => []
  afterName := [':']

def Layout.indented : Layout where
  lineBreak := fun depth => '\n' :: List.replicate (2 * depth) ' '
  afterName := [':', ' ']

def printedWords : Binary64.SpecialWords where
  nan := "NaN"
  infinite := "Infinity"

def escapedUnit (unit : Nat) : List Char :=
  '\\' :: 'u' :: Text.hexDigits 4 unit

def escapedCharacter (character : Char) : List Char :=
  if character = '"' || character = '\\' then ['\\', character]
  else if character = '\n' then ['\\', 'n']
  else if character = '\r' then ['\\', 'r']
  else if character = '\t' then ['\\', 't']
  else if character = '\x0c' then ['\\', 'f']
  else if character = '\x08' then ['\\', 'b']
  else if 0x20 ≤ character.toNat ∧ character.toNat ≤ 0x7E then [character]
  else (Text.codeUnits character).flatMap escapedUnit

def quotedText (text : List Char) : List Char :=
  '"' :: (text.flatMap escapedCharacter ++ ['"'])

mutual

def render (layout : Layout) (depth : Nat) : Value → List Char
  | .null => "null".toList
  | .bool value => (if value then "true" else "false").toList
  | .integer value => Text.signedDecimal value
  | .float value => value.shortest printedWords
  | .text value => quotedText value.toList
  | .bytes value => quotedText (Text.hexOfBytes value)
  | .list [] => ['[', ']']
  | .list items => '[' :: (renderItems layout (depth + 1) items ++ layout.lineBreak depth ++ [']'])
  | .object [] => ['\x7b', '\x7d']
  | .object fields =>
    '\x7b' :: (renderFields layout (depth + 1) fields ++ layout.lineBreak depth ++ ['\x7d'])

def renderItems (layout : Layout) (depth : Nat) : List Value → List Char
  | [] => []
  | [item] => layout.lineBreak depth ++ render layout depth item
  | item :: rest =>
    layout.lineBreak depth ++ render layout depth item ++ ',' :: renderItems layout depth rest

def renderFields (layout : Layout) (depth : Nat) : List (String × Value) → List Char
  | [] => []
  | [(name, value)] =>
    layout.lineBreak depth ++ quotedText name.toList ++ layout.afterName ++
      render layout depth value
  | (name, value) :: rest =>
    layout.lineBreak depth ++ quotedText name.toList ++ layout.afterName ++
      render layout depth value ++ ',' :: renderFields layout depth rest

end

def print (layout : Layout) (value : Value) : List Char :=
  render layout 0 value

example :
    String.ofList (print .compact (.list [.bool true, .text "é"])) = "[true,\"\\u00e9\"]" := by
  decide +kernel

end Hotspot.Json
