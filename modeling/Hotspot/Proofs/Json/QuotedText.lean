import Hotspot.Json.Printer
import Hotspot.Json.Token
import Hotspot.Proofs.Text.Hex
import Hotspot.Proofs.Text.Utf8

/-! Texts in JSON: what stands between quotes is read back character by
character. The printer writes a character as the escapes of its code units, so
the reader collects code units first and joins the pairs once the text is
complete. -/

namespace Hotspot.Json

/-! ## Code units -/

theorem pointsOfUnits_single (character : Char) (units : List Nat) :
    Text.pointsOfUnits (character.toNat :: units) =
      character.toNat :: Text.pointsOfUnits units := by
  have plain := Text.not_surrogate character
  cases units with
  | nil => rfl
  | cons next rest => simp [Text.pointsOfUnits, plain]

theorem pointsOfUnits_pair {character : Char} (beyond : ¬character.toNat < 0x10000)
    (units : List Nat) :
    Text.pointsOfUnits (Text.codeUnits character ++ units) =
      character.toNat :: Text.pointsOfUnits units := by
  rcases Text.exists_codeUnits beyond with ⟨high, low, pair, isHigh, isLow, joined⟩
  simp [pair, Text.pointsOfUnits, isHigh, isLow, joined]

theorem pointsOfUnits_codeUnits (text : List Char) :
    Text.pointsOfUnits (text.flatMap Text.codeUnits) = text.map Char.toNat := by
  induction text with
  | nil => rfl
  | cons character text induction =>
    rw [List.flatMap_cons, List.map_cons, ← induction]
    by_cases basic : character.toNat < 0x10000
    · rw [Text.codeUnits_of_lt basic, List.singleton_append, pointsOfUnits_single]
    · rw [pointsOfUnits_pair basic]

/-! ## Reading on -/

def Lexer.read (lexer : Lexer) (text : List Char) : Option (List Token) := do
  (← text.foldlM Lexer.step lexer).finish

theorem Lexer.read_cons (lexer : Lexer) (character : Char) (text : List Char) :
    lexer.read (character :: text) = (lexer.step character).bind fun next => next.read text := by
  simp only [Lexer.read, List.foldlM_cons, Option.bind_eq_bind, Option.bind_assoc]

theorem Lexer.read_of_step {lexer : Lexer} {character : Char} (next : Lexer)
    (steps : lexer.step character = some next) (text : List Char) :
    lexer.read (character :: text) = next.read text := by
  rw [Lexer.read_cons, steps, Option.bind_some]

theorem tokens?_eq_read (text : List Char) : tokens? text = ({} : Lexer).read text :=
  rfl

/-! ## Characters inside quotes -/

theorem read_escapedUnit (tokens : List Token) (units : List Nat) {unit : Nat}
    (small : unit < 0x10000) (rest : List Char) :
    ({ tokens, mode := .text units } : Lexer).read (escapedUnit unit ++ rest) =
      ({ tokens, mode := .text (unit :: units) } : Lexer).read rest := by
  have digits : escapedUnit unit =
      ['\\', 'u', Text.hexDigit (unit / 16 / 16 / 16 % 16), Text.hexDigit (unit / 16 / 16 % 16),
        Text.hexDigit (unit / 16 % 16), Text.hexDigit (unit % 16)] := by
    simp [escapedUnit, Text.hexDigits]
  have value (number : Nat) :
      Text.hexValue? (Text.hexDigit (number % 16)) = some (number % 16) :=
    Text.hexValue?_hexDigit (Nat.mod_lt number (by omega))
  have whole : 16 * (16 * (16 * (16 * 0 + unit / 16 / 16 / 16 % 16) + unit / 16 / 16 % 16) +
      unit / 16 % 16) + unit % 16 = unit := by
    omega
  rw [digits]
  simp only [List.cons_append, List.nil_append]
  rw [Lexer.read_of_step { tokens, mode := .escape units } (by rfl),
    Lexer.read_of_step { tokens, mode := .code units 4 0 } (by rfl),
    Lexer.read_of_step _ (by simp only [Lexer.step, value]; rfl),
    Lexer.read_of_step _ (by simp only [Lexer.step, value]; rfl),
    Lexer.read_of_step _ (by simp only [Lexer.step, value]; rfl),
    Lexer.read_of_step _ (by simp only [Lexer.step, value]; rfl), whole]

theorem read_shortEscape (tokens : List Token) (units : List Nat) {letter meant : Char}
    (escape : escaped? letter = some meant) (other : letter ≠ 'u') (rest : List Char) :
    ({ tokens, mode := .text units } : Lexer).read ('\\' :: letter :: rest) =
      ({ tokens, mode := .text (meant.toNat :: units) } : Lexer).read rest := by
  rw [Lexer.read_of_step { tokens, mode := .escape units } (by rfl),
    Lexer.read_of_step _ (by simp only [Lexer.step, if_neg other, escape]; rfl)]

theorem escapedCharacter_cases (character : Char) :
    (∃ letter, escaped? letter = some character ∧ letter ≠ 'u' ∧
        escapedCharacter character = ['\\', letter]) ∨
      (character ≠ '"' ∧ character ≠ '\\' ∧ 0x20 ≤ character.toNat ∧ character.toNat ≤ 0x7E ∧
        escapedCharacter character = [character]) ∨
      escapedCharacter character = (Text.codeUnits character).flatMap escapedUnit := by
  unfold escapedCharacter
  split
  · rename_i quoted
    simp only [Bool.or_eq_true, decide_eq_true_eq] at quoted
    rcases quoted with rfl | rfl
    · exact .inl ⟨'"', rfl, by decide, rfl⟩
    · exact .inl ⟨'\\', rfl, by decide, rfl⟩
  rename_i unquoted
  simp only [Bool.or_eq_true, decide_eq_true_eq, not_or] at unquoted
  split
  · rename_i same
    exact .inl ⟨'n', same ▸ rfl, by decide, rfl⟩
  split
  · rename_i same
    exact .inl ⟨'r', same ▸ rfl, by decide, rfl⟩
  split
  · rename_i same
    exact .inl ⟨'t', same ▸ rfl, by decide, rfl⟩
  split
  · rename_i same
    exact .inl ⟨'f', same ▸ rfl, by decide, rfl⟩
  split
  · rename_i same
    exact .inl ⟨'b', same ▸ rfl, by decide, rfl⟩
  split
  · rename_i printable
    exact .inr (.inl ⟨unquoted.1, unquoted.2, printable.1, printable.2, rfl⟩)
  · exact .inr (.inr rfl)

theorem read_codeUnits (tokens : List Token) (units : List Nat) (character : Char)
    (rest : List Char) :
    ({ tokens, mode := .text units } : Lexer).read
        ((Text.codeUnits character).flatMap escapedUnit ++ rest) =
      ({ tokens, mode := .text ((Text.codeUnits character).reverse ++ units) } : Lexer).read
        rest := by
  by_cases basic : character.toNat < 0x10000
  · have single : Text.codeUnits character = [character.toNat] := by
      simp [Text.codeUnits, basic]
    rw [single]
    simpa using read_escapedUnit tokens units basic rest
  · have scalar := Text.toNat_scalar character
    have pair : Text.codeUnits character =
        [0xD800 + (character.toNat - 0x10000) / 0x400,
          0xDC00 + (character.toNat - 0x10000) % 0x400] := by
      simp [Text.codeUnits, basic]
    rw [pair]
    simp only [List.flatMap_cons, List.flatMap_nil, List.append_assoc, List.append_nil]
    rw [read_escapedUnit tokens units (by omega), read_escapedUnit tokens _ (by omega)]
    rfl

theorem read_escapedCharacter (tokens : List Token) (units : List Nat) (character : Char)
    (rest : List Char) :
    ({ tokens, mode := .text units } : Lexer).read (escapedCharacter character ++ rest) =
      ({ tokens, mode := .text ((Text.codeUnits character).reverse ++ units) } : Lexer).read
        rest := by
  rcases escapedCharacter_cases character with
    ⟨letter, escape, other, printed⟩ | ⟨unquoted, unescaped, shown, small, printed⟩ | printed
  · have basic : character.toNat < 0x10000 := by
      unfold escaped? at escape
      split at escape <;> cases escape <;> decide
    rw [printed, show Text.codeUnits character = [character.toNat] by simp [Text.codeUnits, basic]]
    exact read_shortEscape tokens units escape other rest
  · have basic : character.toNat < 0x10000 := by omega
    rw [printed, List.singleton_append, Lexer.read_of_step _ (by
      simp only [Lexer.step, if_neg unquoted, if_neg unescaped, if_neg (Nat.not_lt.mpr shown)]
      rfl)]
    simp [Text.codeUnits, basic]
  · rw [printed]
    exact read_codeUnits tokens units character rest

theorem read_escapedCharacters (tokens : List Token) (units : List Nat) (text rest : List Char) :
    ({ tokens, mode := .text units } : Lexer).read (text.flatMap escapedCharacter ++ rest) =
      ({ tokens, mode := .text ((text.flatMap Text.codeUnits).reverse ++ units) } : Lexer).read
        rest := by
  induction text generalizing units with
  | nil => rfl
  | cons character text induction =>
    rw [List.flatMap_cons, List.append_assoc, read_escapedCharacter, induction]
    simp

theorem read_quotedText (tokens : List Token) (text rest : List Char) :
    ({ tokens } : Lexer).read (quotedText text ++ rest) =
      ({ tokens := .text (text.map Char.toNat) :: tokens } : Lexer).read rest := by
  simp only [quotedText, List.cons_append, List.append_assoc, List.nil_append]
  rw [Lexer.read_of_step { tokens, mode := .text [] } (by rfl),
    read_escapedCharacters, List.append_nil, Lexer.read_of_step _ (by rfl), List.reverse_reverse,
    pointsOfUnits_codeUnits]

end Hotspot.Json
