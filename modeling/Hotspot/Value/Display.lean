import Hotspot.Binary64.Shortest
import Hotspot.Text.Quoted
import Hotspot.Value.Basic

namespace Hotspot

/-! The display of a value inside an error message: texts and byte strings are
quoted, lists and objects are bracketed with their parts separated by commas,
and floating point numbers have their shortest notation. -/

def displayedWords : Binary64.SpecialWords where
  nan := "nan"
  infinite := "inf"

namespace Value

mutual

def display : Value → List Char
  | .null => "None".toList
  | .bool value => (if value then "True" else "False").toList
  | .integer value => Text.signedDecimal value
  | .float value => value.shortest displayedWords
  | .text value => Text.quoted value.toList
  | .bytes value => Text.quotedBytes value
  | .list items => '[' :: (displayItems items ++ [']'])
  | .object fields => '\x7b' :: (displayFields fields ++ ['\x7d'])

def displayItems : List Value → List Char
  | [] => []
  | [item] => item.display
  | item :: rest => item.display ++ ',' :: ' ' :: displayItems rest

def displayFields : List (String × Value) → List Char
  | [] => []
  | [(name, value)] => Text.quoted name.toList ++ ':' :: ' ' :: value.display
  | (name, value) :: rest =>
    Text.quoted name.toList ++ ':' :: ' ' :: value.display ++ ',' :: ' ' :: displayFields rest

end

def shown (value : Value) : String :=
  String.ofList value.display

example : (Value.list [.null, .text "a"]).shown = "[None, 'a']" := by decide +kernel

example : (Value.object [("k", .bool true)]).shown = "\x7b'k': True\x7d" := by decide +kernel

end Value

end Hotspot
