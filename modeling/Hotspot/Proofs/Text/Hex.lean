import Hotspot.Proofs.Text.Folding
import Hotspot.Text.Hex
import Hotspot.Proofs.Text.Utf8

/-! Hexadecimal digits: what was written reads back, and stays as it is where
a text is trimmed or put into lower case before it is read. No text that begins
with a zero is one of hexadecimal digits. -/

namespace Hotspot.Text

theorem hexValue?_hexDigit {digit : Nat} (small : digit < 16) :
    hexValue? (hexDigit digit) = some digit := by
  revert small
  revert digit
  decide

theorem byteOfHex?_hexDigit (byte : UInt8) :
    byteOfHex? (hexDigit (byte.toNat / 16 % 16)) (hexDigit (byte.toNat % 16)) = some byte := by
  have bounded := byte.toNat_lt
  have halves : 16 * (byte.toNat / 16 % 16) + byte.toNat % 16 = byte.toNat := by
    omega
  simp only [byteOfHex?, hexValue?_hexDigit (Nat.mod_lt _ (by omega : 0 < 16)), halves,
    UInt8.ofNat_toNat]

theorem isFolded_hexDigit {digit : Nat} (small : digit < 16) : IsFolded (hexDigit digit) := by
  have every : ∀ digit < 16, isBlank (hexDigit digit) = false ∧
      (hexDigit digit).toNat < 0x80 ∧ (hexDigit digit).toLower = hexDigit digit := by
    decide
  exact every digit small

theorem exists_digit_of_mem_hexOfBytes {bytes : List UInt8} {character : Char}
    (member : character ∈ hexOfBytes bytes) : ∃ digit < 16, character = hexDigit digit := by
  rcases List.mem_flatMap.mp member with ⟨byte, _, printed⟩
  simp only [hexOfByte, hexDigits, List.nil_append, List.cons_append, List.mem_cons,
    List.not_mem_nil, or_false] at printed
  rcases printed with high | low
  · exact ⟨_, Nat.mod_lt _ (by omega), high⟩
  · exact ⟨_, Nat.mod_lt _ (by omega), low⟩

/-! ## Reading what was written -/

theorem foldlM_step_hexOfByte (byte : UInt8) (seen : List UInt8) :
    (hexOfByte byte).foldlM HexReading.step { bytes := seen } =
      some { bytes := byte :: seen } := by
  let high := hexDigit (byte.toNat / 16 % 16)
  let low := hexDigit (byte.toNat % 16)
  have every : ∀ digit < 16, isAsciiSpace (hexDigit digit) = false := by
    decide
  have owes : HexReading.step { bytes := seen } high =
      some { bytes := seen, owed := some high } := by
    rw [HexReading.step, every _ (Nat.mod_lt _ (by omega)), if_neg Bool.false_ne_true]
  have completes : HexReading.step { bytes := seen, owed := some high } low =
      some { bytes := byte :: seen } := by
    simp only [HexReading.step, high, low, byteOfHex?_hexDigit, Option.map_some]
  change [high, low].foldlM HexReading.step { bytes := seen } = _
  rw [List.foldlM_cons, owes, Option.bind_eq_bind, Option.bind_some, List.foldlM_cons, completes]
  rfl

theorem foldlM_step_hexOfBytes (bytes seen : List UInt8) :
    (hexOfBytes bytes).foldlM HexReading.step { bytes := seen } =
      some { bytes := bytes.reverse ++ seen } := by
  induction bytes generalizing seen with
  | nil => rfl
  | cons byte rest induction =>
    rw [hexOfBytes, List.flatMap_cons, List.foldlM_append, foldlM_step_hexOfByte,
      List.reverse_cons, List.append_assoc]
    exact induction (byte :: seen)

theorem bytesOfHex?_hexOfBytes (bytes : List UInt8) :
    bytesOfHex? (hexOfBytes bytes) = some bytes := by
  rw [bytesOfHex?, foldlM_step_hexOfBytes, List.append_nil]
  exact congrArg some bytes.reverse_reverse

theorem trim_hexOfBytes (bytes : List UInt8) : trim (hexOfBytes bytes) = hexOfBytes bytes := by
  apply trim_eq_self
  intro character member
  rcases exists_digit_of_mem_hexOfBytes member with ⟨digit, small, rfl⟩
  exact (isFolded_hexDigit small).1

/-! ## Texts that begin with a zero -/

theorem bytesOfHex?_zero_cons (rest : List Char) : bytesOfHex? ('\x00' :: rest) = none := by
  have owes : ('\x00' :: rest).foldlM HexReading.step {} =
      rest.foldlM HexReading.step { owed := some '\x00' } :=
    rfl
  rw [bytesOfHex?, owes]
  cases rest with
  | nil => rfl
  | cons second rest =>
    have refused : HexReading.step { owed := some '\x00' } second = none := rfl
    rw [List.foldlM_cons, refused]
    rfl

/-- A text of hexadecimal digits does not begin with the byte zero, with blanks around it or
without. -/
theorem head?_ne_zero_of_bytesOfHex? {bytes secret : List UInt8} {text : List Char}
    (spelled : decodeUtf8? bytes = some text) (read : bytesOfHex? (trim text) = some secret) :
    bytes.head? ≠ some 0 := by
  intro begins
  rcases List.head?_eq_some_iff.mp begins with ⟨later, rfl⟩
  rcases Option.bind_eq_some_iff.mp spelled with ⟨points, row, characters⟩
  have passes : points? (0 :: later) = pointsAfter [0] later :=
    @pointsAfter_encodePoint [] 0 (by decide) later
  rcases row_of_pointsAfter (passes.symm.trans row) with ⟨others, rfl, _⟩
  change (0 :: others).mapM character? = some text at characters
  rw [List.mapM_cons] at characters
  rcases Option.bind_eq_some_iff.mp characters with ⟨first, zeroth, characters⟩
  rcases Option.bind_eq_some_iff.mp characters with ⟨rest, _, characters⟩
  cases zeroth
  cases characters
  rcases exists_trimWhere_cons (show isBlank '\x00' = false by decide) rest with ⟨front, trimmed⟩
  have same : trim ('\x00' :: rest) = '\x00' :: front := trimmed
  have nothing := bytesOfHex?_zero_cons front
  rw [← same] at nothing
  exact absurd (read.symm.trans nothing) (Option.some_ne_none secret)

end Hotspot.Text
