import Hotspot.Proofs.Capabilities.Channels
import Hotspot.Proofs.Text.Numeral

/-! Channel lists as texts. The decimal notations of some integers, set apart by commas, are
read as the list of these integers is, with any blanks and any blank items between them. -/

namespace Hotspot

namespace Capabilities

open Hotspot.Configuration

variable {number : Int} {numbers : List Int} {channels : List Channel}

/-- What stands between two commas of a channel list: an integer in decimal notation, or
nothing, and the blanks around it. -/
structure Part where
  front : List Char
  number? : Option Int
  back : List Char
  blank_front : ∀ character ∈ front, Text.isBlank character = true
  blank_back : ∀ character ∈ back, Text.isBlank character = true

namespace Part

def body (part : Part) : List Char :=
  part.number?.elim [] Text.signedDecimal

def text (part : Part) : List Char :=
  part.front ++ part.body ++ part.back

def bare (number : Int) : Part where
  front := []
  number? := some number
  back := []
  blank_front := List.forall_mem_nil _
  blank_back := List.forall_mem_nil _

end Part

def joined (parts : List Part) : String :=
  String.ofList ([','].intercalate (parts.map Part.text))

example :
    (channelList? (.text " 6,\t,1 ,6")).toOption.map (·.map (·.map (·.number))) =
      some (some [6, 1, 6]) := by
  decide

end Capabilities

end Hotspot
