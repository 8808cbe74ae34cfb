import Hotspot.Binary64.Decimal
import Hotspot.Text.Numeral
import Mathlib.Data.List.TakeWhile

/-! The decimal notation of a number: its digits denote the number again, and
only zero begins with a zero. -/

namespace Hotspot.Text

def digits (number : Nat) : List Nat :=
  (decimal number).filterMap asciiDigitValue?

theorem asciiDigitValue?_digitChar {digit : Nat} (small : digit < 10) :
    asciiDigitValue? digit.digitChar = some digit := by
  revert small
  revert digit
  decide

theorem decimal_of_lt {number : Nat} (small : number < 10) :
    decimal number = [number.digitChar] :=
  Nat.toDigits_of_lt_base small

theorem decimal_of_le {number : Nat} (large : 10 ≤ number) :
    decimal number = decimal (number / 10) ++ [(number % 10).digitChar] :=
  Nat.toDigits_of_base_le (by omega) large

theorem digits_of_lt {number : Nat} (small : number < 10) : digits number = [number] := by
  simp [digits, decimal_of_lt small, asciiDigitValue?_digitChar small]

theorem digits_of_le {number : Nat} (large : 10 ≤ number) :
    digits number = digits (number / 10) ++ [number % 10] := by
  simp [digits, decimal_of_le large,
    asciiDigitValue?_digitChar (Nat.mod_lt number (by omega : 0 < 10))]

theorem digits_ne_nil (number : Nat) : digits number ≠ [] := by
  rcases Nat.lt_or_ge number 10 with small | large
  · simp [digits_of_lt small]
  · simp [digits_of_le large]

theorem ofDigits_digits (number : Nat) : ofDigits (digits number) = number := by
  induction number using Nat.strongRecOn with
  | ind number induction =>
    rcases Nat.lt_or_ge number 10 with small | large
    · simp [digits_of_lt small, ofDigits]
    · have lower := induction (number / 10) (by omega)
      unfold ofDigits at lower
      rw [digits_of_le large, ofDigits, List.foldl_append, lower]
      simp only [List.foldl_cons, List.foldl_nil]
      omega

theorem head?_digits_ne_zero {number : Nat} (nonzero : number ≠ 0) :
    (digits number).head? ≠ some 0 := by
  induction number using Nat.strongRecOn with
  | ind number induction =>
    rcases Nat.lt_or_ge number 10 with small | large
    · simpa [digits_of_lt small] using nonzero
    · have higher := induction (number / 10) (by omega) (by omega)
      rw [digits_of_le large, List.head?_append]
      cases first : (digits (number / 10)).head? with
      | none => exact absurd (List.head?_eq_none_iff.mp first) (digits_ne_nil _)
      | some digit => simpa [first] using higher

theorem isDigit_of_mem_decimal {number : Nat} {character : Char}
    (member : character ∈ decimal number) : character.isDigit = true :=
  Nat.isDigit_of_mem_toDigits (by omega) (by omega) member

theorem range_of_isDigit {character : Char} (digit : character.isDigit = true) :
    0x30 ≤ character.toNat ∧ character.toNat ≤ 0x39 := by
  simpa [Char.isDigit, UInt32.le_iff_toNat_le] using digit

theorem isSome_asciiDigitValue? {character : Char} (digit : character.isDigit = true) :
    (asciiDigitValue? character).isSome = true := by
  simp [asciiDigitValue?, range_of_isDigit digit]

theorem signedDecimal_ne_nil (number : Int) : signedDecimal number ≠ [] := by
  unfold signedDecimal
  split
  · exact List.cons_ne_nil _ _
  · exact Nat.toDigits_ne_nil

theorem eq_minus_or_isDigit_of_mem_signedDecimal {number : Int} {character : Char}
    (member : character ∈ signedDecimal number) : character = '-' ∨ character.isDigit = true := by
  unfold signedDecimal at member
  split at member
  · exact (List.mem_cons.mp member).imp_right isDigit_of_mem_decimal
  · exact .inr (isDigit_of_mem_decimal member)

end Hotspot.Text

namespace Hotspot.DecimalParts

theorem splitDigits_decimal (number : Nat) :
    splitDigits (Text.decimal number) = (Text.digits number, []) := by
  have all : ∀ character ∈ Text.decimal number,
      (Text.asciiDigitValue? character).isSome = true := fun character member =>
    Text.isSome_asciiDigitValue? (Text.isDigit_of_mem_decimal member)
  simp only [splitDigits]
  rw [List.takeWhile_eq_self_iff.mpr all, List.dropWhile_eq_nil_iff.mpr all]
  rfl

theorem ofText?_decimal (number : Nat) :
    ofText? (Text.decimal number) =
      some { whole := Text.digits number, fraction? := none, exponent? := none } := by
  rw [ofText?, splitDigits_decimal]
  rfl

end Hotspot.DecimalParts
