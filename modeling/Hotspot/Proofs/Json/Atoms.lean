import Hotspot.Proofs.Json.QuotedText
import Hotspot.Proofs.Text.Decimal

/-! Atoms in JSON. An atom has no closing character of its own, so its run ends
where something follows that cannot belong to it. Integers are written as the
atoms that stand for them. -/

namespace Hotspot.Json

/-! ## Atoms -/

theorem atom?_of_number {run : List Char} {number : Value} (read : number? run = some number)
    (plain : ∀ word ∈ ["null", "true", "false", "NaN", "Infinity", "-Infinity"],
      String.ofList run ≠ word) : atom? run = some number := by
  unfold atom?
  split
  · exact absurd ‹_› (plain "null" (by simp))
  · exact absurd ‹_› (plain "true" (by simp))
  · exact absurd ‹_› (plain "false" (by simp))
  · exact absurd ‹_› (plain "NaN" (by simp))
  · exact absurd ‹_› (plain "Infinity" (by simp))
  · exact absurd ‹_› (plain "-Infinity" (by simp))
  · exact read

theorem ofList_decimal_ne_word (magnitude : Nat) (negative : Bool) :
    ∀ word ∈ ["null", "true", "false", "NaN", "Infinity", "-Infinity"],
      String.ofList ((if negative then ['-'] else []) ++ Text.decimal magnitude) ≠ word := by
  intro word member same
  cases notation_eq : Text.decimal magnitude with
  | nil => exact Nat.toDigits_ne_nil notation_eq
  | cons first rest =>
    have digit : first.isDigit = true :=
      Text.isDigit_of_mem_decimal (notation_eq ▸ List.mem_cons_self)
    have letters := congrArg String.toList same
    rw [notation_eq, String.toList_ofList] at letters
    simp only [List.mem_cons, List.not_mem_nil, or_false] at member
    rcases member with rfl | rfl | rfl | rfl | rfl | rfl <;>
      cases negative <;> simp at letters <;> simp [letters.1] at digit

theorem number?_decimal (magnitude : Nat) (negative : Bool) :
    number? ((if negative then ['-'] else []) ++ Text.decimal magnitude) =
      some (.integer (Text.withSign negative magnitude)) := by
  have canonical : Text.digits magnitude ≠ [] ∧
      ((Text.digits magnitude).head? = some 0 → Text.digits magnitude = [0]) := by
    refine ⟨Text.digits_ne_nil magnitude, fun leading => ?_⟩
    by_cases zero : magnitude = 0
    · subst zero
      exact Text.digits_of_lt (by omega)
    · exact absurd leading (Text.head?_digits_ne_zero zero)
  cases negative with
  | true =>
    simp only [number?, if_true, List.singleton_append, DecimalParts.ofText?_decimal]
    simpa [Text.ofDigits_digits] using canonical
  | false =>
    cases notation_eq : Text.decimal magnitude with
    | nil => exact absurd notation_eq Nat.toDigits_ne_nil
    | cons first rest =>
      have unsigned : first ≠ '-' := by
        rintro rfl
        have digit := Text.isDigit_of_mem_decimal (notation_eq ▸ List.mem_cons_self)
        exact absurd digit (by decide)
      have parts := DecimalParts.ofText?_decimal magnitude
      rw [notation_eq] at parts
      simpa [number?, unsigned, parts, Text.ofDigits_digits] using canonical

theorem atom?_signedDecimal (number : Int) :
    atom? (Text.signedDecimal number) = some (.integer number) := by
  have signed : Text.signedDecimal number =
      (if decide (number < 0) then ['-'] else []) ++ Text.decimal number.natAbs := by
    by_cases negative : number < 0 <;> simp [Text.signedDecimal, negative]
  have value : Text.withSign (decide (number < 0)) number.natAbs = number := by
    by_cases negative : number < 0
    · simp only [Text.withSign, negative, decide_true, if_true]
      omega
    · simp only [Text.withSign, negative, decide_false]
      simp
      omega
  rw [signed]
  have read := number?_decimal number.natAbs (decide (number < 0))
  rw [value] at read
  exact atom?_of_number read (ofList_decimal_ne_word _ _)

/-! ## What stands between values -/

/-- Nothing at the front of the text belongs to an atom. -/
def EndsAtom (text : List Char) : Prop :=
  ∀ character ∈ text.head?, isAtomCharacter character = false

theorem endsAtom_nil : EndsAtom [] := by
  simp [EndsAtom]

theorem endsAtom_cons {character : Char} (outside : isAtomCharacter character = false)
    (rest : List Char) : EndsAtom (character :: rest) := by
  simpa [EndsAtom] using outside

theorem isAtomCharacter_of_isSeparator {character : Char}
    (separator : isSeparator character = true) : isAtomCharacter character = false := by
  simp only [isSeparator, Bool.or_eq_true, decide_eq_true_eq] at separator
  rcases separator with ((rfl | rfl) | rfl) | rfl <;> decide

theorem read_separators (tokens : List Token) {blanks : List Char}
    (separators : ∀ character ∈ blanks, isSeparator character = true) (rest : List Char) :
    ({ tokens } : Lexer).read (blanks ++ rest) = ({ tokens } : Lexer).read rest := by
  induction blanks with
  | nil => rfl
  | cons character blanks induction =>
    have separator := separators character List.mem_cons_self
    rw [List.cons_append, Lexer.read_of_step { tokens } (by
      simp [Lexer.step, Lexer.stepBetween, separator])]
    exact induction fun other member => separators other (List.mem_cons_of_mem character member)

theorem endsAtom_append {blanks rest : List Char}
    (separators : ∀ character ∈ blanks, isSeparator character = true) (ends : EndsAtom rest) :
    EndsAtom (blanks ++ rest) := by
  cases blanks with
  | nil => exact ends
  | cons character blanks =>
    exact endsAtom_cons
      (isAtomCharacter_of_isSeparator (separators character List.mem_cons_self)) _

theorem read_runOn (tokens : List Token) (run : List Char) {characters : List Char}
    (inside : ∀ character ∈ characters, isAtomCharacter character = true) (rest : List Char) :
    ({ tokens, mode := .atom run } : Lexer).read (characters ++ rest) =
      ({ tokens, mode := .atom (characters.reverse ++ run) } : Lexer).read rest := by
  induction characters generalizing run with
  | nil => rfl
  | cons character characters induction =>
    have belongs := inside character List.mem_cons_self
    rw [List.cons_append, Lexer.read_of_step { tokens, mode := .atom (character :: run) }
      (by simp [Lexer.step, belongs]),
      induction (character :: run) fun other member =>
        inside other (List.mem_cons_of_mem character member)]
    simp

theorem read_endOfRun (tokens : List Token) {run rest : List Char} {value : Value}
    (atom : atom? run.reverse = some value) (ends : EndsAtom rest) :
    ({ tokens, mode := .atom run } : Lexer).read rest =
      ({ tokens := .atom value :: tokens } : Lexer).read rest := by
  cases rest with
  | nil => simp [Lexer.read, Lexer.finish, Lexer.closeAtom, atom]
  | cons character rest =>
    have outside : isAtomCharacter character = false := ends character rfl
    rw [Lexer.read_cons, Lexer.read_cons]
    simp [Lexer.step, outside, Lexer.closeAtom, atom]

theorem read_atom (tokens : List Token) {run rest : List Char} {value : Value}
    (atom : atom? run = some value) (nonempty : run ≠ [])
    (inside : ∀ character ∈ run, isAtomCharacter character = true) (ends : EndsAtom rest) :
    ({ tokens } : Lexer).read (run ++ rest) =
      ({ tokens := .atom value :: tokens } : Lexer).read rest := by
  cases run with
  | nil => exact absurd rfl nonempty
  | cons first others =>
    have belongs := inside first List.mem_cons_self
    have unseparated : isSeparator first = false := by
      by_contra separator
      rw [Bool.not_eq_false] at separator
      rw [isAtomCharacter_of_isSeparator separator] at belongs
      exact absurd belongs (by decide)
    have unquoted : first ≠ '"' := by
      rintro rfl
      exact absurd belongs (by decide)
    rw [List.cons_append, Lexer.read_of_step { tokens, mode := .atom [first] } (by
        simp [Lexer.step, Lexer.stepBetween, unseparated, unquoted, belongs]),
      read_runOn tokens [first]
        (fun other member => inside other (List.mem_cons_of_mem first member)),
      read_endOfRun tokens (by simpa using atom) ends]

theorem isAtomCharacter_of_mem_signedDecimal {number : Int} {character : Char}
    (member : character ∈ Text.signedDecimal number) : isAtomCharacter character = true := by
  rcases Text.eq_minus_or_isDigit_of_mem_signedDecimal member with rfl | digit
  · decide
  · simp [isAtomCharacter, Char.isAlphanum, digit]

end Hotspot.Json
