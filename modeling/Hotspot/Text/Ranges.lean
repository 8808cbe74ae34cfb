namespace Hotspot.Text

/-! Sets of characters given as a table of intervals of code points. Every
class of characters that the library consults is such a table, so that a class
is data and asking about it is one function. -/

/-- Intervals of code points, both ends included. -/
abbrev Ranges := List (Nat × Nat)

def Ranges.contains (ranges : Ranges) (character : Char) : Bool :=
  ranges.any fun range =>
    decide (range.1 ≤ character.toNat) && decide (character.toNat ≤ range.2)

theorem Ranges.contains_iff {ranges : Ranges} {character : Char} :
    ranges.contains character = true ↔
      ∃ range ∈ ranges, range.1 ≤ character.toNat ∧ character.toNat ≤ range.2 := by
  simp [Ranges.contains]

end Hotspot.Text
