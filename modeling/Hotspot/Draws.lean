namespace Hotspot

/-! Random numbers as a stream that is drawn from one number at a time. What
has been drawn is part of the state, so a computation that draws says how many
numbers it took. -/

/-- A stream of numbers and how many of them have been drawn. -/
structure Draws where
  stream : Nat → Nat
  used : Nat := 0

namespace Draws

def cycle (numbers : List Nat) : Draws where
  stream := fun index => numbers.getD (index % numbers.length) 0

def next (draws : Draws) : Nat × Draws :=
  (draws.stream draws.used, { draws with used := draws.used + 1 })

def many (draws : Draws) : (count : Nat) → List Nat × Draws
  | 0 => ([], draws)
  | count + 1 =>
    let (number, draws) := draws.next
    let (numbers, draws) := draws.many count
    (number :: numbers, draws)

theorem length_many (draws : Draws) (count : Nat) :
    (draws.many count).1.length = count := by
  induction count generalizing draws with
  | zero => rfl
  | succ count induction => simp [many, next, induction]

example : ((cycle [3, 5]).many 3).1 = [3, 5, 3] := by decide

end Draws

end Hotspot
