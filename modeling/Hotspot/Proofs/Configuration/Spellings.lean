import Hotspot.Proofs.Configuration.Reading
import Hotspot.Proofs.Text.Numeral
import Hotspot.Proofs.Value.Integers

/-! Spellings of counts. An integer may be given as such, as a numeral in a text or a byte
string, or as a floating point number, and what is read does not depend on which it is. -/

namespace Hotspot

namespace Value

variable {value : Value} {number : Int}

/-- The value is a spelling of the integer. Texts may use the digits of every script, byte
strings those of ASCII only. -/
inductive Spells (number : Int) : Value → Prop
  | integer : Spells number (.integer number)
  | text {text : String} :
      Text.IsNumeral Text.decimalZeros Text.isSpace text.toList number → Spells number (.text text)
  | bytes {bytes : List UInt8} :
      Text.IsNumeral [0x30] Text.isAsciiSpace (bytes.map fun byte => Char.ofNat byte.toNat) number →
      Spells number (.bytes bytes)
  | float {float : Binary64} : float.Equals number → Spells number (.float float)

inductive IsNoCount : Value → Prop
  | switch (switch : Bool) : IsNoCount (.bool switch)
  | fraction {float : Binary64} : (∀ number, ¬float.Equals number) → IsNoCount (.float float)
  | nan : IsNoCount (.float .nan)
  | infinite (negative : Bool) : IsNoCount (.float (.infinite negative))

theorem spells_iff_denotes : value.Spells number ↔ value.Denotes number := by
  constructor
  · intro spells
    cases spells with
    | integer => exact .integer number
    | text numeral => exact .text (Text.integer?_eq_some_iff.mpr numeral)
    | bytes numeral => exact .bytes (Text.integerOfBytes?_eq_some_iff.mpr numeral)
    | float equals => exact .float equals
  · intro denotes
    cases denotes with
    | integer => exact .integer
    | text read => exact .text (Text.integer?_eq_some_iff.mp read)
    | bytes read => exact .bytes (Text.integerOfBytes?_eq_some_iff.mp read)
    | float equals => exact .float equals

theorem spells_signedDecimal (number : Int) :
    (Value.text (String.ofList (Text.signedDecimal number))).Spells number ∧
      (Value.bytes (Text.encodeUtf8 (Text.signedDecimal number))).Spells number := by
  constructor
  · apply Spells.text
    rw [String.toList_ofList]
    exact Text.isNumeral_signedDecimal (by decide) _ number
  · apply Spells.bytes
    rw [Text.map_encodeUtf8_of_ascii fun _ => Text.ascii_of_mem_signedDecimal]
    exact Text.isNumeral_signedDecimal (by decide) _ number

theorem Spells.toInteger (spells : value.Spells number) : value.toInteger = .ok number := by
  have noSwitch : ∀ switch, value ≠ .bool switch := by
    rintro switch rfl
    cases spells
  exact (toInteger_eq_ok_iff noSwitch).mpr (.inl (spells_iff_denotes.mp spells))

theorem Spells.not_isNoInteger (spells : value.Spells number) : ¬value.IsNoInteger := by
  have converts := spells.toInteger
  cases spells with
  | float equals => exact Bool.not_eq_false _ ▸ (Binary64.equals_iff.mp equals).1
  | _ =>
    rintro ⟨error, fails⟩
    rw [converts] at fails
    cases fails

theorem IsNoCount.isNoInteger (noCount : value.IsNoCount) : value.IsNoInteger := by
  cases noCount with
  | switch switch => trivial
  | nan => rfl
  | infinite negative => rfl
  | fraction noInteger =>
    rename_i float
    cases float with
    | nan => rfl
    | infinite negative => rfl
    | finite negative significand exponent =>
      cases integral : (Binary64.finite negative significand exponent).isIntegral with
      | false => exact integral
      | true =>
        have equals := Binary64.equals_iff.mpr
          ⟨integral, Binary64.withSign_wholePart_eq_iff.mp rfl⟩
        exact absurd equals (noInteger _)

end Value

namespace Configuration

variable {field : CountField} {value other : Value} {number : Int}

theorem readCount_of_spells (spells : value.Spells number) :
    readCount field value = readCount field (.integer number) := by
  rcases readCount_of_integer spells.not_isNoInteger with ⟨whole, converts, read⟩
  rw [spells.toInteger] at converts
  cases converts
  rw [read]
  rfl

theorem ofFields_put_of_readCount_eq_error {failure : ReadError}
    (fails : readCount field value = .error failure) (fields : Fields) :
    ∃ error, ofFields (fields.put field.name value) = .error error := by
  cases result : ofFields (fields.put field.name value) with
  | error error => exact ⟨error, rfl⟩
  | ok configuration =>
    have reads := ofFields_eq_ok_iff.mp result
    cases field with
    | channel =>
      have count := reads.channel
      rw [CountField.name, Fields.find?_put, Option.getD_some, fails] at count
      cases count
    | maxClients =>
      have count := reads.maxClients
      rw [CountField.name, Fields.find?_put, Option.getD_some, fails] at count
      cases count

theorem ofFields_put_congr (same : readCount field value = readCount field other)
    (fields : Fields) :
    ofFields (fields.put field.name value) = ofFields (fields.put field.name other) := by
  cases field with
  | channel =>
    simp (disch := decide) only [ofFields, CountField.name, Fields.find?_put,
      Fields.find?_put_of_ne, Option.getD_some, same]
  | maxClients =>
    simp (disch := decide) only [ofFields, CountField.name, Fields.find?_put,
      Fields.find?_put_of_ne, Option.getD_some, same]

/-- Every spelling of an integer as one of the counts leads to the same configuration or the
same error, whatever the other fields are. A natural number is read as itself. A negative integer
always leads to an error, and so do truth values and numbers that are no integers. The decimal
notation is a spelling, as a text and in ASCII bytes. -/
theorem spellings_agree (field : CountField) (fields : Fields) :
    (∀ number value, value.Spells number →
        ofValue (.object (fields.put field.name value)) =
          ofValue (.object (fields.put field.name (.integer number))) ∧
        (∀ count : Nat, number = count → readCount field value = .ok count) ∧
        (number < 0 →
          ∃ error, ofValue (.object (fields.put field.name value)) = .error error)) ∧
      (∀ value, value.IsNoCount →
        ∃ error, ofValue (.object (fields.put field.name value)) = .error error) ∧
      ∀ number, (Value.text (String.ofList (Text.signedDecimal number))).Spells number ∧
        (Value.bytes (Text.encodeUtf8 (Text.signedDecimal number))).Spells number := by
  refine ⟨fun number value spells => ⟨?_, fun count natural => ?_, fun negative => ?_⟩,
    fun value noCount => ?_, Value.spells_signedDecimal⟩
  · exact ofFields_put_congr (readCount_of_spells spells) fields
  · rw [readCount_of_spells spells, natural]
    exact readCount_integer field count
  · have fails : readCount field value = .error (.settings (.negative field)) :=
      (readCount_of_spells spells).trans (if_pos negative)
    exact ofFields_put_of_readCount_eq_error fails fields
  · have fails : readCount field value = .error (.notInteger field) :=
      readCount_of_isNoInteger noCount.isNoInteger
    exact ofFields_put_of_readCount_eq_error fails fields

end Configuration

end Hotspot
