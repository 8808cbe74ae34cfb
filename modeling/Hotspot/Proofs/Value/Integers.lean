import Hotspot.Value.Basic
import Mathlib.Tactic.Ring

/-! Which integer a value denotes. A number that is an integer denotes that integer; one with
a fraction converts as well, to the integer that is left when the fraction is cut off. -/

namespace Hotspot

theorem Text.natAbs_withSign (negative : Bool) (magnitude : Nat) :
    (withSign negative magnitude).natAbs = magnitude := by
  cases negative <;> simp [withSign]

theorem Text.withSign_mul (negative : Bool) (magnitude factor : Nat) :
    withSign negative (magnitude * factor) = withSign negative magnitude * factor := by
  cases negative <;> simp [withSign]

namespace Binary64

variable {number : Binary64} {whole : Int}

def Equals : Binary64 → Int → Prop
  | .finite negative significand exponent, whole =>
    Text.withSign negative (significand * Nat.pow 2 exponent.toNat) =
      whole * (Nat.pow 2 (-exponent).toNat : Nat)
  | _, _ => False

/-- The integer is what is left of the number when its fraction is cut off: it has the sign
of the number, and its magnitude is the largest that is no larger than the number's. -/
def IsCutTo : Binary64 → Int → Prop
  | .finite negative significand exponent, whole =>
    whole = Text.withSign negative whole.natAbs ∧
      whole.natAbs * Nat.pow 2 (-exponent).toNat ≤ significand * Nat.pow 2 exponent.toNat ∧
      significand * Nat.pow 2 exponent.toNat < (whole.natAbs + 1) * Nat.pow 2 (-exponent).toNat
  | _, _ => False

theorem wholePart_eq_iff {significand magnitude : Nat} {exponent : Int} :
    wholePart significand exponent = magnitude ↔
      magnitude * Nat.pow 2 (-exponent).toNat ≤ significand * Nat.pow 2 exponent.toNat ∧
        significand * Nat.pow 2 exponent.toNat <
          (magnitude + 1) * Nat.pow 2 (-exponent).toNat := by
  have positive : 0 < Nat.pow 2 (-exponent).toNat := Nat.pow_pos Nat.two_pos
  rw [wholePart, Nat.div_eq_iff positive, Nat.succ_mul]
  omega

theorem withSign_wholePart_eq_iff {negative : Bool} {significand : Nat} {exponent : Int} :
    Text.withSign negative (wholePart significand exponent) = whole ↔
      (finite negative significand exponent).IsCutTo whole := by
  rw [IsCutTo, ← wholePart_eq_iff]
  constructor
  · rintro rfl
    rw [Text.natAbs_withSign]
    exact ⟨rfl, rfl⟩
  · rintro ⟨signed, magnitude⟩
    rw [magnitude, ← signed]

theorem isWhole_iff {significand : Nat} {exponent : Int} :
    isWhole significand exponent = true ↔
      Nat.pow 2 (-exponent).toNat ∣ significand * Nat.pow 2 exponent.toNat := by
  rw [isWhole, decide_eq_true_iff, ← Nat.dvd_iff_mod_eq_zero]
  rcases Int.le_total 0 exponent with natural | negative
  · rw [Int.toNat_eq_zero.mpr (Int.neg_nonpos_of_nonneg natural)]
    exact iff_of_true (Nat.one_dvd _) (Nat.one_dvd _)
  · rw [Int.toNat_eq_zero.mpr negative, show Nat.pow 2 0 = 1 from rfl, Nat.mul_one]

theorem equals_iff : number.Equals whole ↔ number.isIntegral = true ∧ number.IsCutTo whole := by
  cases number with
  | nan => simp [Equals, IsCutTo]
  | infinite negative => simp [Equals, IsCutTo]
  | finite negative significand exponent =>
    rw [← withSign_wholePart_eq_iff, isIntegral, isWhole_iff, Equals, wholePart]
    generalize significand * Nat.pow 2 exponent.toNat = scaled
    have positive : 0 < Nat.pow 2 (-exponent).toNat := Nat.pow_pos Nat.two_pos
    generalize Nat.pow 2 (-exponent).toNat = divisor at positive
    constructor
    · intro same
      -- In magnitudes the division leaves no rest; the sign is then the same on both sides.
      have magnitude : scaled = whole.natAbs * divisor := by
        have sizes := congrArg Int.natAbs same
        rwa [Text.natAbs_withSign, Int.natAbs_mul, Int.natAbs_natCast] at sizes
      refine ⟨magnitude ▸ Nat.dvd_mul_left divisor _, ?_⟩
      rw [magnitude, Text.withSign_mul] at same
      rw [magnitude, Nat.mul_div_cancel _ positive]
      exact Int.eq_of_mul_eq_mul_right (Int.natCast_ne_zero.mpr positive.ne') same
    · rintro ⟨divides, rfl⟩
      rw [← Text.withSign_mul, Nat.div_mul_cancel divides]

end Binary64

namespace Value

variable {value : Value} {number : Int}

/-- The integer that a value denotes: it is a number that is this integer, or a text or a
byte string that is a numeral for it. -/
inductive Denotes : Value → Int → Prop
  | integer (number : Int) : Denotes (.integer number) number
  | float {float : Binary64} {number : Int} :
      float.Equals number → Denotes (.float float) number
  | text {text : String} {number : Int} :
      Text.integer? text.toList = some number → Denotes (.text text) number
  | bytes {bytes : List UInt8} {number : Int} :
      Text.integerOfBytes? bytes = some number → Denotes (.bytes bytes) number

def IsFractionOf (value : Value) (number : Int) : Prop :=
  ∃ float, value = .float float ∧ float.isIntegral = false ∧ float.IsCutTo number

theorem toInteger_float_eq_ok_iff {float : Binary64} :
    (Value.float float).toInteger = .ok number ↔ float.IsCutTo number := by
  cases float with
  | nan => exact ⟨nofun, nofun⟩
  | infinite negative => exact ⟨nofun, nofun⟩
  | finite negative significand exponent =>
    rw [toInteger, Except.ok.injEq, Binary64.withSign_wholePart_eq_iff]

theorem toInteger_text_eq_ok_iff {text : String} :
    (Value.text text).toInteger = .ok number ↔ Text.integer? text.toList = some number := by
  rw [toInteger]
  cases Text.integer? text.toList <;> simp

theorem toInteger_bytes_eq_ok_iff {bytes : List UInt8} :
    (Value.bytes bytes).toInteger = .ok number ↔ Text.integerOfBytes? bytes = some number := by
  rw [toInteger]
  cases Text.integerOfBytes? bytes <;> simp

/-- Values other than truth values convert to the integer that they denote, or to the one
that is left of a number with a fraction. -/
theorem toInteger_eq_ok_iff (noSwitch : ∀ switch, value ≠ .bool switch) :
    value.toInteger = .ok number ↔ value.Denotes number ∨ value.IsFractionOf number := by
  constructor
  · intro converts
    cases value with
    | bool switch => exact absurd rfl (noSwitch switch)
    | integer integer =>
      cases converts
      exact .inl (.integer _)
    | float float =>
      have cut := toInteger_float_eq_ok_iff.mp converts
      cases integral : float.isIntegral
      · exact .inr ⟨float, rfl, integral, cut⟩
      · exact .inl (.float (Binary64.equals_iff.mpr ⟨integral, cut⟩))
    | text text => exact .inl (.text (toInteger_text_eq_ok_iff.mp converts))
    | bytes bytes => exact .inl (.bytes (toInteger_bytes_eq_ok_iff.mp converts))
    | _ => cases converts
  · rintro (denotes | ⟨float, rfl, _, cut⟩)
    · cases denotes with
      | integer => rfl
      | float equals => exact toInteger_float_eq_ok_iff.mpr (Binary64.equals_iff.mp equals).2
      | text numeral => exact toInteger_text_eq_ok_iff.mpr numeral
      | bytes numeral => exact toInteger_bytes_eq_ok_iff.mpr numeral
    · exact toInteger_float_eq_ok_iff.mpr cut

theorem toInteger_eq_infinite_iff :
    value.toInteger = .error .infinite ↔ ∃ negative, value = .float (.infinite negative) := by
  constructor
  · intro fails
    unfold toInteger at fails
    split at fails
    any_goals cases fails
    · exact ⟨_, rfl⟩
    all_goals split at fails <;> cases fails
  · rintro ⟨negative, rfl⟩
    rfl

end Value

end Hotspot
