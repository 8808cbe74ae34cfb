import Hotspot.Text.Blank
import Hotspot.Text.Lowercase
import Hotspot.Value.Basic

namespace Hotspot.Flag

/-! Switches as users and documents spell them. -/

inductive Error where
  | notFlag
deriving DecidableEq

def Error.message : Error → String
  | .notFlag => "Flags must be boolean values"

def ofWord? (word : String) : Option Bool :=
  match word with
  | "true" | "1" | "yes" | "on" | "enabled" => some true
  | "false" | "0" | "no" | "off" | "disabled" => some false
  | _ => none

/-- The switch that a value denotes. What is missing or blank takes the
default, and a number is on unless it is zero. -/
def ofValue (default : Bool) : Value → Except Error Bool
  | .null => .ok default
  | .bool value => .ok value
  | .integer value => .ok (value ≠ 0)
  | .text text =>
    let folded := Text.lower (Text.trim text.toList)
    if folded.isEmpty then .ok default
    else
      match ofWord? (String.ofList folded) with
      | some value => .ok value
      | none => .error .notFlag
  | _ => .error .notFlag

example : (ofValue false (.text " Enabled ")).toOption = some true := by decide +kernel

example : (ofValue true (.text " \t")).toOption = some true := by decide +kernel

end Hotspot.Flag
