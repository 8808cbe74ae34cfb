import Hotspot.Text.CodePoints
import Hotspot.Value.Display

namespace Hotspot.Json

/-! What a JSON text spells. The escapes in it can name a surrogate without a partner, so its
texts are rows of code points, and only where they are strings it spells a value. -/

inductive Node where
  | value (value : Value)
  | text (points : List Nat)
  | list (items : List Node)
  | object (members : List (List Nat × Node))

abbrev Members := List (List Nat × Node)

namespace Node

mutual

/-- The value that is spelled, if no surrogate in it is without its partner. -/
def value? : Node → Option Value
  | .value held => some held
  | .text points => (Text.ofCodePoints? points).map .text
  | .list items => (itemValues? items).map .list
  | .object members => (memberValues? members).map .object

def itemValues? : List Node → Option (List Value)
  | [] => some []
  | item :: rest => do return (← item.value?) :: (← itemValues? rest)

def memberValues? : List (List Nat × Node) → Option Fields
  | [] => some []
  | (name, node) :: rest => do
    return (← Text.ofCodePoints? name, ← node.value?) :: (← memberValues? rest)

end

mutual

def display : Node → List Char
  | .value held => held.display
  | .text points => Text.quotedPoints points
  | .list items => '[' :: (displayItems items ++ [']'])
  | .object members => '\x7b' :: (displayMembers members ++ ['\x7d'])

def displayItems : List Node → List Char
  | [] => []
  | [item] => item.display
  | item :: rest => item.display ++ ',' :: ' ' :: displayItems rest

def displayMembers : List (List Nat × Node) → List Char
  | [] => []
  | [(name, node)] => Text.quotedPoints name ++ ':' :: ' ' :: node.display
  | (name, node) :: rest =>
    Text.quotedPoints name ++ ':' :: ' ' :: node.display ++ ',' :: ' ' :: displayMembers rest

end

def shown (node : Node) : String :=
  String.ofList node.display

/-- What an object holds under each name, which is null where it holds nothing. -/
def held? : Node → Option (String → Node)
  | .value (.object fields) => some fun name => .value ((Fields.find? fields name).getD .null)
  | .object members =>
    some fun name => (members.lookup (Text.codePoints name)).getD (.value .null)
  | _ => none

end Node

example : (Node.value? (.list [.text [0xD800]])).isNone = true ∧
    Node.shown (.list [.text [0xD800]]) = "['\\ud800']" := by
  decide +kernel

end Hotspot.Json
