import Hotspot.Legacy.Format
import Hotspot.Proofs.Text.ModifiedUtf8
import Mathlib.Data.List.Induction

/-! The fields of legacy records. A number has one form only, so reading one and
writing one are inverse to each other. A text has every form that its characters
have together, and any byte but zero turns a switch on; the writer uses one of
these. -/

namespace Hotspot.Legacy

/-! ## Bytes of a number -/

theorem natural_concat (front : List UInt8) (last : UInt8) :
    natural (front ++ [last]) = 256 * natural front + last.toNat := by
  simp [natural]

theorem natural_bytesOf {count number : Nat} (small : number < Nat.pow 256 count) :
    natural (bytesOf count number) = number := by
  induction count generalizing number with
  | zero =>
    have zero : number = 0 := Nat.lt_one_iff.mp small
    subst zero
    rfl
  | succ count induction =>
    have quotient : number / 256 < Nat.pow 256 count := Nat.div_lt_of_lt_mul (by
      rw [Nat.mul_comm]
      exact small)
    rw [bytesOf, natural_concat, induction quotient, Text.toNat_ofNat _ (by omega)]
    omega

@[simp] theorem length_bytesOf (count number : Nat) : (bytesOf count number).length = count := by
  induction count generalizing number with
  | zero => rfl
  | succ count induction => simp [bytesOf, induction]

theorem bytesOf_natural (bytes : List UInt8) : bytesOf bytes.length (natural bytes) = bytes := by
  induction bytes using List.reverseRecOn with
  | nil => rfl
  | append_singleton front last induction =>
    have small := last.toNat_lt
    have quotient : natural (front ++ [last]) / 256 = natural front := by
      rw [natural_concat]
      omega
    have remainder : natural (front ++ [last]) % 256 = last.toNat := by
      rw [natural_concat]
      omega
    rw [List.length_append, List.length_singleton, bytesOf, quotient, remainder, induction,
      UInt8.ofNat_toNat]

theorem natural_lt (bytes : List UInt8) : natural bytes < Nat.pow 256 bytes.length := by
  induction bytes using List.reverseRecOn with
  | nil => exact Nat.one_pos
  | append_singleton front last induction =>
    have small := last.toNat_lt
    have whole : Nat.pow 256 (front ++ [last]).length = Nat.pow 256 front.length * 256 := by
      rw [List.length_append]
      rfl
    rw [natural_concat, whole]
    omega

/-! ## Reading -/

theorem bind_eq_ok_iff {value result : Type} {step : Except Error (value × List UInt8)}
    {next : value × List UInt8 → Except Error result} {answer : result} :
    (step >>= next) = .ok answer ↔
      ∃ field left, step = .ok (field, left) ∧ next (field, left) = .ok answer := by
  cases step with
  | error failure => exact ⟨nofun, fun ⟨_, _, failed, _⟩ => nomatch failed⟩
  | ok read => exact ⟨fun same => ⟨read.1, read.2, rfl, same⟩, fun ⟨_, _, rfl, same⟩ => same⟩

theorem readBytes_eq_ok_iff {count : Nat} {bytes field rest : List UInt8} :
    readBytes count bytes = .ok (field, rest) ↔ field.length = count ∧ bytes = field ++ rest := by
  unfold readBytes
  constructor
  · intro read
    split at read
    · cases read
    · cases read
      exact ⟨List.length_take_of_le (by omega), (List.take_append_drop count bytes).symm⟩
  · rintro ⟨rfl, rfl⟩
    rw [if_neg (by simp), List.take_left, List.drop_left]

/-! ## Numbers -/

def IsWord (number : Int) : Prop :=
  -0x80000000 ≤ number ∧ number < 0x80000000

instance (number : Int) : Decidable (IsWord number) :=
  inferInstanceAs (Decidable (_ ∧ _))

def numberBytes (number : Int) : List UInt8 :=
  bytesOf 4 (number % 0x100000000).toNat

theorem signed_natural_numberBytes {number : Int} (word : IsWord number) :
    signed (natural (numberBytes number)) = number := by
  have small : (number % 0x100000000).toNat < Nat.pow 256 4 := by
    change _ < 4294967296
    omega
  rw [numberBytes, natural_bytesOf small, signed]
  rcases word with ⟨least, most⟩
  split <;> omega

theorem isWord_signed {field : List UInt8} (length : field.length = 4) :
    IsWord (signed (natural field)) ∧ numberBytes (signed (natural field)) = field := by
  have small : natural field < 4294967296 := by
    have bound := natural_lt field
    rw [length] at bound
    exact bound
  have unsigned : (signed (natural field) % 0x100000000).toNat = natural field := by
    unfold signed
    split <;> omega
  refine ⟨?_, ?_⟩
  · unfold IsWord signed
    split <;> omega
  · rw [numberBytes, unsigned, ← length, bytesOf_natural]

theorem readInteger_eq_ok_iff {bytes rest : List UInt8} {number : Int} :
    readInteger bytes = .ok (number, rest) ↔
      IsWord number ∧ bytes = numberBytes number ++ rest := by
  unfold readInteger
  rw [bind_eq_ok_iff]
  constructor
  · rintro ⟨field, left, read, same⟩
    cases same
    rcases readBytes_eq_ok_iff.mp read with ⟨length, rfl⟩
    rcases isWord_signed length with ⟨word, form⟩
    exact ⟨word, by rw [form]⟩
  · rintro ⟨word, rfl⟩
    refine ⟨numberBytes number, rest, readBytes_eq_ok_iff.mpr ⟨length_bytesOf _ _, rfl⟩, ?_⟩
    dsimp only
    rw [signed_natural_numberBytes word]
    rfl

theorem writeInteger_of_isWord {number : Int} (word : IsWord number) :
    writeInteger number = .ok (numberBytes number) :=
  if_pos word

/-! ## Switches -/

theorem readSwitch_eq_ok_iff {bytes rest : List UInt8} {switch : Bool} :
    readSwitch bytes = .ok (switch, rest) ↔
      ∃ byte, bytes = byte :: rest ∧ switch = decide (byte ≠ 0) := by
  unfold readSwitch
  rw [bind_eq_ok_iff]
  constructor
  · rintro ⟨field, left, read, same⟩
    cases same
    rcases readBytes_eq_ok_iff.mp read with ⟨length, rfl⟩
    rcases List.length_eq_one_iff.mp length with ⟨byte, rfl⟩
    exact ⟨byte, rfl, by simp⟩
  · rintro ⟨byte, rfl, rfl⟩
    refine ⟨[byte], rest, readBytes_eq_ok_iff.mpr ⟨rfl, rfl⟩, ?_⟩
    simp [pure, Except.pure]

theorem eq_switchByte_iff (byte : UInt8) :
    byte = (if decide (byte ≠ 0) then 1 else 0) ↔ byte = 0 ∨ byte = 1 := by
  by_cases off : byte = 0 <;> simp [off]

/-! ## Texts -/

def IsShort (text : String) : Prop :=
  (Text.encodeModified text.toList).length < 65536

instance (text : String) : Decidable (IsShort text) :=
  inferInstanceAs (Decidable (_ < _))

/-- The bytes are short enough and spell the text. -/
def SpellsText (bytes : List UInt8) (text : String) : Prop :=
  bytes.length < 65536 ∧ Text.decodeModified? bytes = some text.toList

def textBytes (bytes : List UInt8) : List UInt8 :=
  bytesOf 2 bytes.length ++ bytes

theorem spellsText_encodeModified {text : String} (short : IsShort text) :
    SpellsText (Text.encodeModified text.toList) text :=
  ⟨short, Text.decodeModified?_encodeModified _⟩

theorem readText_eq_ok_iff {bytes rest : List UInt8} {text : String} :
    readText bytes = .ok (text, rest) ↔
      ∃ spelled, SpellsText spelled text ∧ bytes = textBytes spelled ++ rest := by
  unfold readText
  rw [bind_eq_ok_iff]
  constructor
  · rintro ⟨length, left, lengthRead, later⟩
    rcases bind_eq_ok_iff.mp later with ⟨spelled, rest, fieldRead, read⟩
    clear later
    rcases readBytes_eq_ok_iff.mp lengthRead with ⟨two, rfl⟩
    rcases readBytes_eq_ok_iff.mp fieldRead with ⟨whole, rfl⟩
    have short : natural length < 65536 := by
      have bound := natural_lt length
      rw [two] at bound
      exact bound
    have form : bytesOf 2 spelled.length = length := by
      rw [whole, ← two, bytesOf_natural]
    dsimp only at read
    split at read
    · rename_i characters decoded
      cases read
      refine ⟨spelled, ⟨by omega, by rw [decoded, String.toList_ofList]⟩, ?_⟩
      rw [textBytes, form, List.append_assoc]
    · cases read
  · rintro ⟨spelled, ⟨short, decoded⟩, rfl⟩
    have length : natural (bytesOf 2 spelled.length) = spelled.length :=
      natural_bytesOf (show spelled.length < Nat.pow 256 2 from short)
    refine ⟨bytesOf 2 spelled.length, spelled ++ rest,
      readBytes_eq_ok_iff.mpr ⟨length_bytesOf _ _, List.append_assoc _ _ _⟩, ?_⟩
    refine bind_eq_ok_iff.mpr ⟨spelled, rest,
      readBytes_eq_ok_iff.mpr ⟨length.symm, rfl⟩, ?_⟩
    simp [decoded, pure, Except.pure]

theorem writeText_of_isShort {text : String} (short : IsShort text) :
    writeText text = .ok (textBytes (Text.encodeModified text.toList)) :=
  if_neg (Nat.not_lt.mpr (Nat.le_of_lt_succ short))

theorem writeText_of_not_isShort {text : String} (long : ¬IsShort text) :
    writeText text = .error .textTooLong :=
  if_pos (Nat.not_lt.mp long)

theorem textBytes_append_inj {first second rest left : List UInt8} (short : first.length < 65536)
    (other : second.length < 65536)
    (same : textBytes first ++ rest = textBytes second ++ left) : first = second ∧ rest = left := by
  simp only [textBytes, List.append_assoc] at same
  rcases List.append_inj same (by simp) with ⟨lengths, same⟩
  have equal : first.length = second.length := by
    rw [← natural_bytesOf (show first.length < Nat.pow 256 2 from short), lengths,
      natural_bytesOf (show second.length < Nat.pow 256 2 from other)]
  exact List.append_inj same equal

/-! ## Fields that only some records have -/

theorem readIf_eq_ok_iff {value : Type} {there : Bool} {absent result : value}
    {reader : Reader value} {bytes rest : List UInt8} :
    readIf there absent reader bytes = .ok (result, rest) ↔
      if there then reader bytes = .ok (result, rest) else result = absent ∧ bytes = rest := by
  cases there with
  | true => simp [readIf]
  | false => simp [readIf, eq_comm]

theorem readNumberIf_eq_ok_iff {there : Bool} {number : Int} {bytes rest : List UInt8} :
    readIf there 0 readInteger bytes = .ok (number, rest) ↔
      (if there then IsWord number else number = 0) ∧
        bytes = (if there then numberBytes number else []) ++ rest := by
  rw [readIf_eq_ok_iff]
  cases there with
  | true => simp [readInteger_eq_ok_iff]
  | false => simp

theorem readSwitchIf_eq_ok_iff {there : Bool} {switch : Bool} {bytes rest : List UInt8} :
    readIf there false readSwitch bytes = .ok (switch, rest) ↔
      ∃ byte : UInt8, switch = (if there then decide (byte ≠ 0) else false) ∧
        bytes = (if there then [byte] else []) ++ rest := by
  rw [readIf_eq_ok_iff]
  cases there with
  | true => simp [readSwitch_eq_ok_iff, and_comm]
  | false => simp

theorem readPassphrase_eq_ok_iff {authType : Int} {bytes rest : List UInt8}
    {passphrase : Option String} :
    readIf (authType ≠ 0) none (fun bytes => do
        let (text, rest) ← readText bytes
        return (some text, rest)) bytes = .ok (passphrase, rest) ↔
      ∃ spelled,
        (if authType ≠ 0 then ∃ text, passphrase = some text ∧ SpellsText spelled text
          else passphrase = none) ∧
        bytes = (if authType ≠ 0 then textBytes spelled else []) ++ rest := by
  rw [readIf_eq_ok_iff]
  by_cases present : authType ≠ 0
  · simp only [present, ne_eq, not_false_eq_true, decide_true, if_true]
    rw [bind_eq_ok_iff]
    constructor
    · rintro ⟨text, left, read, same⟩
      cases same
      rcases readText_eq_ok_iff.mp read with ⟨spelled, spells, rfl⟩
      exact ⟨spelled, ⟨text, rfl, spells⟩, rfl⟩
    · rintro ⟨spelled, ⟨text, rfl, spells⟩, rfl⟩
      exact ⟨text, rest, readText_eq_ok_iff.mpr ⟨spelled, spells, rfl⟩, rfl⟩
  · simp [present]

theorem writeNumberIf {there : Bool} {number : Int} (word : there = true → IsWord number) :
    writeIf there (writeInteger number) = .ok (if there then numberBytes number else []) := by
  cases there with
  | true => exact writeInteger_of_isWord (word rfl)
  | false => rfl

theorem writeSwitchIf (there switch : Bool) :
    writeIf there (writeSwitch switch) = .ok (if there then [if switch then 1 else 0] else []) := by
  cases there <;> rfl

end Hotspot.Legacy
