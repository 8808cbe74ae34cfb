import Hotspot.Band.Basic
import Hotspot.Text.Lowercase
import Hotspot.Text.Blank
import Hotspot.Value.Basic

namespace Hotspot.Band

/-! Selections of bands as users and documents spell them: a mask, names joined
by `|` or `+`, or a list of spellings, which may be nested. -/

inductive Error where
  | truthValue
  | unsupportedMask (mask : Int)
  | emptyText
  | unknownName (name : String)
  | emptyList
  | unsupportedKind
deriving DecidableEq

def Error.message : Error → String
  | .truthValue => "Band must be an integer mask or band name"
  | .unsupportedMask mask => "Unsupported band mask: " ++ toString mask
  | .emptyText => "Band must not be empty"
  | .unknownName name => "Unknown band: " ++ name
  | .emptyList => "Band list must not be empty"
  | .unsupportedKind => "Unsupported band value"

def ofName? (name : String) : Option Band :=
  match name with
  | "2ghz" | "2.4ghz" => some .ghz2
  | "5ghz" => some .ghz5
  | "6ghz" => some .ghz6
  | "any" => some .any
  | _ => Option.none

/-- The selection of a mask, which must have the bits of the three bands only
and one of them at least. -/
def ofMask (mask : Int) : Except Error Band :=
  if 0 < mask ∧ mask ≤ 7 then .ok ⟨mask.toNat⟩ else .error (.unsupportedMask mask)

def addNames (band : Band) : List (List Char) → Except Error Band
  | [] => .ok band
  | name :: rest =>
    match ofName? (String.ofList name) with
    | some named => addNames (band.union named) rest
    | Option.none => .error (.unknownName (String.ofList name))

/-- A text as it is compared with names: without blanks at its ends, in lower
case and without spaces. -/
def foldText (text : String) : List Char :=
  (Text.lower (Text.trim text.toList)).filter (· ≠ ' ')

def splitNames (text : List Char) : List (List Char) :=
  text.splitOnP fun character => character = '|' || character = '+'

def ofText (text : String) : Except Error Band :=
  let folded := foldText text
  if folded.isEmpty then .error .emptyText else addNames .none (splitNames folded)

mutual

def ofValue : Value → Except Error Band
  | .bool _ => .error .truthValue
  | .integer mask => ofMask mask
  | .text text => ofText text
  | .list [] => .error .emptyList
  | .list items => addItems .none items
  | .null | .float _ | .bytes _ | .object _ => .error .unsupportedKind

def addItems (band : Band) : List Value → Except Error Band
  | [] => .ok band
  | item :: rest =>
    match ofValue item with
    | .ok read => addItems (band.union read) rest
    | .error error => .error error

end

example : (ofText " 2.4 GHz + 5GHz").toOption = some ⟨3⟩ := by decide +kernel

/-- The first part that is no name is reported as it is compared. -/
example : (ofText "5ghz|X" matches .error (.unknownName "x")) = true := by decide +kernel

example :
    (ofValue (.list [.text "6ghz", .list [.integer 3]])).toOption = some .any := by decide +kernel

end Hotspot.Band
