import Hotspot.Proofs.Text.Utf8
import Hotspot.Text.ModifiedUtf8

/-! What modified UTF-8 spells. The reader goes over the bytes three times: it
replaces the pairs that stand for NUL, reads code points, and joins surrogates.
Taken together it reads exactly the rows in which each character stands in one
of two forms, that of UTF-8 or the modified one. The writer uses modified forms
only, and these are the rows without a NUL byte and without sequences of four
bytes. -/

namespace Hotspot.Text

/-! ## Sequences -/

/-- A sequence never holds the byte that begins the pair for NUL, holds a NUL byte
only for NUL, and a byte from F0 on only for what lies beyond U+FFFF. -/
theorem bytes_encodePoint {point : Nat} (bounded : point < 0x110000) :
    ∀ byte ∈ encodePoint point, byte.toNat ≠ 0xC0 ∧ (byte.toNat = 0 → point = 0) ∧
      (0xF0 ≤ byte.toNat → 0x10000 ≤ point) := by
  unfold encodePoint
  split
  · have first := toNat_ofNat point (by omega)
    rw [List.forall_mem_singleton, first]
    omega
  split
  · have first := toNat_ofNat (0xC0 + point / 0x40) (by omega)
    have second := toNat_ofNat (0x80 + point % 0x40) (by omega)
    rw [List.forall_mem_cons, List.forall_mem_singleton, first, second]
    omega
  split
  · have first := toNat_ofNat (0xE0 + point / 0x1000) (by omega)
    have second := toNat_ofNat (0x80 + point / 0x40 % 0x40) (by omega)
    have third := toNat_ofNat (0x80 + point % 0x40) (by omega)
    rw [List.forall_mem_cons, List.forall_mem_cons, List.forall_mem_singleton, first, second,
      third]
    omega
  · have first := toNat_ofNat (0xF0 + point / 0x40000) (by omega)
    have second := toNat_ofNat (0x80 + point / 0x1000 % 0x40) (by omega)
    have third := toNat_ofNat (0x80 + point / 0x40 % 0x40) (by omega)
    have fourth := toNat_ofNat (0x80 + point % 0x40) (by omega)
    rw [List.forall_mem_cons, List.forall_mem_cons, List.forall_mem_cons,
      List.forall_mem_singleton, first, second, third, fourth]
    omega

theorem encodeUnit_of_ne {unit : Nat} (some : unit ≠ 0) : encodeUnit unit = encodePoint unit :=
  if_neg some

/-! ## Pairs for NUL -/

theorem foldNulAfter_append (seen more bytes : List UInt8) :
    foldNulAfter (seen ++ more) bytes = more.reverse ++ foldNulAfter seen bytes := by
  fun_induction foldNulAfter seen bytes with
  | case1 seen rest induction => exact induction
  | case2 seen first rest other induction =>
    rw [← induction, foldNulAfter]
    · rfl
    · exact other
  | case3 seen => simp [foldNulAfter]

theorem foldNulAfter_eq (seen bytes : List UInt8) :
    foldNulAfter seen bytes = seen.reverse ++ foldNul bytes :=
  foldNulAfter_append [] seen bytes

theorem foldNul_pair (rest : List UInt8) : foldNul (0xC0 :: 0x80 :: rest) = 0 :: foldNul rest :=
  foldNulAfter_eq [0] rest

theorem foldNul_cons {first : UInt8} {rest : List UInt8}
    (other : ∀ after, first = 0xC0 → rest = 0x80 :: after → False) :
    foldNul (first :: rest) = first :: foldNul rest := by
  rw [foldNul, foldNulAfter]
  · exact foldNulAfter_eq [first] rest
  · exact other

theorem foldNul_cases (bytes : List UInt8) :
    (bytes = [] ∧ foldNul bytes = []) ∨
      (∃ rest, bytes = 0xC0 :: 0x80 :: rest ∧ foldNul bytes = 0 :: foldNul rest) ∨
      ∃ first rest, bytes = first :: rest ∧ foldNul bytes = first :: foldNul rest := by
  cases bytes with
  | nil => exact .inl ⟨rfl, rfl⟩
  | cons first rest =>
    by_cases pair : ∃ after, first = 0xC0 ∧ rest = 0x80 :: after
    · rcases pair with ⟨after, rfl, rfl⟩
      exact .inr (.inl ⟨after, rfl, foldNul_pair after⟩)
    · exact .inr (.inr ⟨first, rest, rfl,
        foldNul_cons fun after same tail => pair ⟨after, same, tail⟩⟩)

theorem foldNul_append {front : List UInt8} (noPair : ∀ byte ∈ front, byte.toNat ≠ 0xC0)
    (rest : List UInt8) : foldNul (front ++ rest) = front ++ foldNul rest := by
  induction front with
  | nil => rfl
  | cons first front induction =>
    rw [List.forall_mem_cons] at noPair
    rw [List.cons_append, foldNul_cons, induction noPair.2, List.cons_append]
    rintro _ rfl _
    exact noPair.1 rfl

theorem exists_append_of_foldNul {bytes front after : List UInt8}
    (noNul : ∀ byte ∈ front, byte.toNat ≠ 0) (folded : foldNul bytes = front ++ after) :
    ∃ rest, bytes = front ++ rest ∧ foldNul rest = after := by
  induction front generalizing bytes with
  | nil => exact ⟨bytes, rfl, folded⟩
  | cons first front induction =>
    rw [List.forall_mem_cons] at noNul
    rcases foldNul_cases bytes with ⟨_, same⟩ | ⟨rest, _, same⟩ | ⟨head, rest, rfl, same⟩
    · rw [same] at folded
      cases folded
    · rw [same] at folded
      injection folded with nul
      exact absurd (congrArg UInt8.toNat nul).symm noNul.1
    · rw [same] at folded
      injection folded with head folded
      subst head
      rcases induction noNul.2 folded with ⟨rest, rfl, left⟩
      exact ⟨rest, rfl, left⟩

/-- The bytes stand for a code point; for NUL they may be the pair. -/
def IsLooseSequence (point : Nat) (bytes : List UInt8) : Prop :=
  point < 0x110000 ∧ (bytes = encodePoint point ∨ bytes = encodeUnit point)

theorem isLooseSequence_iff_of_ne {point : Nat} {bytes : List UInt8} (some : point ≠ 0) :
    IsLooseSequence point bytes ↔ IsSequence point bytes := by
  rw [IsLooseSequence, IsSequence, encodeUnit_of_ne some, or_self]

theorem foldNul_looseSequence {point : Nat} {front : List UInt8}
    (loose : IsLooseSequence point front) (rest : List UInt8) :
    foldNul (front ++ rest) = encodePoint point ++ foldNul rest := by
  rcases loose with ⟨bounded, same⟩
  have plain : foldNul (encodePoint point ++ rest) = encodePoint point ++ foldNul rest :=
    foldNul_append (fun byte member => (bytes_encodePoint bounded byte member).1) rest
  rcases same with rfl | rfl
  · exact plain
  · by_cases nul : point = 0
    · subst nul
      exact foldNul_pair rest
    · rw [encodeUnit_of_ne nul, plain]

theorem exists_looseSequence_of_foldNul {bytes after : List UInt8} {point : Nat}
    (bounded : point < 0x110000) (folded : foldNul bytes = encodePoint point ++ after) :
    ∃ front rest, bytes = front ++ rest ∧ IsLooseSequence point front ∧ foldNul rest = after := by
  by_cases nul : point = 0
  · subst nul
    have folded : foldNul bytes = 0 :: after := folded
    rcases foldNul_cases bytes with ⟨_, same⟩ | ⟨rest, rfl, same⟩ | ⟨first, rest, rfl, same⟩
    · rw [same] at folded
      cases folded
    · rw [same] at folded
      exact ⟨[0xC0, 0x80], rest, rfl, ⟨bounded, .inr rfl⟩, List.tail_eq_of_cons_eq folded⟩
    · rw [same] at folded
      cases folded
      exact ⟨[0], rest, rfl, ⟨bounded, .inl rfl⟩, rfl⟩
  · have noNul : ∀ byte ∈ encodePoint point, byte.toNat ≠ 0 :=
      fun byte member zero => nul ((bytes_encodePoint bounded byte member).2.1 zero)
    rcases exists_append_of_foldNul noNul folded with ⟨rest, rfl, same⟩
    exact ⟨_, rest, rfl, ⟨bounded, .inl rfl⟩, same⟩

theorem points?_foldNul_eq_some_iff {bytes : List UInt8} {points : List Nat} :
    points? (foldNul bytes) = some points ↔ Row IsLooseSequence points bytes := by
  rw [points?_eq_some_iff]
  constructor
  · intro row
    generalize folded : foldNul bytes = whole at row
    induction row generalizing bytes with
    | nil =>
      rcases foldNul_cases bytes with ⟨rfl, _⟩ | ⟨rest, _, same⟩ | ⟨first, rest, _, same⟩
      · exact .nil
      · rw [same] at folded
        cases folded
      · rw [same] at folded
        cases folded
    | cons first _ induction =>
      rcases first with ⟨bounded, rfl⟩
      rcases exists_looseSequence_of_foldNul bounded folded with ⟨front, rest, rfl, loose, same⟩
      exact .cons loose (induction same)
  · intro row
    induction row with
    | nil => exact .nil
    | cons first _ induction =>
      rw [foldNul_looseSequence first]
      exact .cons ⟨first.1, rfl⟩ induction

/-! ## Pairs of surrogates -/

def IsGroup (character : Char) (points : List Nat) : Prop :=
  points = [character.toNat] ∨ points = codeUnits character

theorem joinAfter_group (seen : List Char) {character : Char} {points : List Nat}
    (group : IsGroup character points) (rest : List Nat) :
    joinAfter seen (points ++ rest) = joinAfter (character :: seen) rest := by
  have single :
      joinAfter seen ([character.toNat] ++ rest) = joinAfter (character :: seen) rest := by
    rw [List.singleton_append, joinAfter.eq_def]
    simp only [(not_surrogate character).1, Bool.false_eq_true, if_false, character?_toNat]
  rcases group with rfl | rfl
  · exact single
  · by_cases basic : character.toNat < 0x10000
    · rw [codeUnits_of_lt basic]
      exact single
    · rcases exists_codeUnits basic with ⟨high, low, units, isHigh, isLow, joined⟩
      rw [units, List.cons_append, List.singleton_append, joinAfter.eq_def]
      simp only [isHigh, isLow, if_true, joined, Char.ofNat_toNat]

theorem toNat_of_isValidChar {number : Nat} (valid : number.isValidChar) :
    (Char.ofNat number).toNat = number := by
  have same : Char.ofNat number = Char.ofNatAux number valid := dif_pos valid
  rw [same]
  rfl

theorem isGroup_pair {high low : Nat} (isHigh : isHighSurrogate high = true)
    (isLow : isLowSurrogate low = true) :
    IsGroup (Char.ofNat (pairPoint high low)) [high, low] := by
  rw [isHighSurrogate_iff] at isHigh
  rw [isLowSurrogate_iff] at isLow
  have valid : (pairPoint high low).isValidChar := by
    unfold pairPoint Nat.isValidChar
    omega
  have point := toNat_of_isValidChar valid
  have beyond : ¬pairPoint high low < 0x10000 := by
    unfold pairPoint
    omega
  have first : 0xD800 + (pairPoint high low - 0x10000) / 0x400 = high := by
    unfold pairPoint
    omega
  have second : 0xDC00 + (pairPoint high low - 0x10000) % 0x400 = low := by
    unfold pairPoint
    omega
  exact .inr (by simp only [codeUnits, point, if_neg beyond, first, second])

theorem row_of_joinAfter {seen all : List Char} {points : List Nat}
    (joined : joinAfter seen points = some all) :
    ∃ text, all = seen.reverse ++ text ∧ Row IsGroup text points := by
  fun_induction joinAfter seen points with
  | case1 seen =>
    cases joined
    exact ⟨[], (List.append_nil _).symm, .nil⟩
  | case3 seen high isHigh low rest isLow induction =>
    exact Row.exists_cons (isGroup_pair isHigh isLow) (induction joined)
  | case6 seen point rest _ character found induction =>
    have group : IsGroup character [point] := .inl (by rw [toNat_of_character? found])
    exact Row.exists_cons group (induction joined)
  | _ => cases joined

theorem joinAfter_of_row {text : List Char} {points : List Nat} (row : Row IsGroup text points)
    (seen : List Char) : joinAfter seen points = some (seen.reverse ++ text) := by
  induction row generalizing seen with
  | nil => simp [joinAfter]
  | cons group _ induction =>
    rw [joinAfter_group seen group, induction]
    simp

theorem joinSurrogates?_eq_some_iff {points : List Nat} {text : List Char} :
    joinSurrogates? points = some text ↔ Row IsGroup text points := by
  constructor
  · intro joined
    rcases row_of_joinAfter joined with ⟨all, rfl, row⟩
    exact row
  · exact fun row => joinAfter_of_row row []

/-! ## Forms of characters -/

/-- The bytes are the form of the character in UTF-8, or the modified one. -/
def IsForm (character : Char) (bytes : List UInt8) : Prop :=
  bytes = encodePoint character.toNat ∨ bytes = encodeModified [character]

theorem encodeModified_cons (character : Char) (text : List Char) :
    encodeModified (character :: text) = encodeModified [character] ++ encodeModified text := by
  simp [encodeModified]

theorem encodeModified_of_lt {character : Char} (basic : character.toNat < 0x10000) :
    encodeModified [character] = encodeUnit character.toNat := by
  simp [encodeModified, codeUnits_of_lt basic]

theorem encodeModified_of_units {character : Char} {high low : Nat}
    (units : codeUnits character = [high, low]) (isHigh : isHighSurrogate high = true)
    (isLow : isLowSurrogate low = true) :
    encodeModified [character] = encodePoint high ++ encodePoint low ∧
      high < 0x110000 ∧ low < 0x110000 ∧ high ≠ 0 ∧ low ≠ 0 := by
  rw [isHighSurrogate_iff] at isHigh
  rw [isLowSurrogate_iff] at isLow
  have first := encodeUnit_of_ne (show high ≠ 0 by omega)
  have second := encodeUnit_of_ne (show low ≠ 0 by omega)
  refine ⟨?_, by omega, by omega, by omega, by omega⟩
  simp [encodeModified, units, first, second]

theorem isForm_iff {character : Char} {bytes : List UInt8} :
    IsForm character bytes ↔
      ∃ points, IsGroup character points ∧ Row IsLooseSequence points bytes := by
  have bounded : character.toNat < 0x110000 := by
    have scalar := toNat_scalar character
    omega
  have single : Row IsLooseSequence [character.toNat] bytes ↔
      bytes = encodePoint character.toNat ∨ bytes = encodeUnit character.toNat := by
    rw [Row.singleton_iff, IsLooseSequence, and_iff_right bounded]
  by_cases basic : character.toNat < 0x10000
  · have modified := encodeModified_of_lt basic
    have units := codeUnits_of_lt basic
    simp only [IsForm, IsGroup, modified, units, or_self, exists_eq_left, single]
  · rcases exists_codeUnits basic with ⟨high, low, units, isHigh, isLow, _⟩
    rcases encodeModified_of_units units isHigh isLow with
      ⟨modified, highBound, lowBound, highNe, lowNe⟩
    have plain := encodeUnit_of_ne (show character.toNat ≠ 0 by omega)
    have pair : Row IsLooseSequence [high, low] bytes ↔
        bytes = encodePoint high ++ encodePoint low := by
      constructor
      · intro row
        cases row with
        | cons first rest =>
          rw [((isLooseSequence_iff_of_ne highNe).mp first).2,
            ((isLooseSequence_iff_of_ne lowNe).mp (Row.singleton_iff.mp rest)).2]
      · rintro rfl
        exact .cons ((isLooseSequence_iff_of_ne highNe).mpr ⟨highBound, rfl⟩)
          (Row.singleton_iff.mpr ((isLooseSequence_iff_of_ne lowNe).mpr ⟨lowBound, rfl⟩))
    simp only [IsForm, IsGroup, modified, units, or_and_right, exists_or, exists_eq_left, single,
      pair, plain, or_self]

/-- The reader reads exactly the rows of forms. -/
theorem decodeModified?_eq_some_iff {bytes : List UInt8} {text : List Char} :
    decodeModified? bytes = some text ↔ Row IsForm text bytes := by
  have passes : decodeModified? bytes = some text ↔
      ∃ points, Row IsLooseSequence points bytes ∧ Row IsGroup text points := by
    rw [decodeModified?, Option.bind_eq_bind, Option.bind_eq_some_iff]
    simp only [points?_foldNul_eq_some_iff, joinSurrogates?_eq_some_iff]
  rw [passes]
  clear passes
  constructor
  · rintro ⟨points, loose, groups⟩
    induction groups generalizing bytes with
    | nil =>
      cases loose
      exact .nil
    | cons group _ induction =>
      rcases loose.of_append with ⟨front, rest, rfl, first, later⟩
      exact .cons (isForm_iff.mpr ⟨_, group, first⟩) (induction later)
  · intro row
    induction row with
    | nil => exact ⟨[], .nil, .nil⟩
    | cons form _ induction =>
      rcases isForm_iff.mp form with ⟨group, isGroup, first⟩
      rcases induction with ⟨points, later, groups⟩
      exact ⟨group ++ points, first.append later, .cons isGroup groups⟩

theorem decodeModified?_encodeModified (text : List Char) :
    decodeModified? (encodeModified text) = some text := by
  rw [decodeModified?_eq_some_iff]
  induction text with
  | nil => exact .nil
  | cons character text induction =>
    rw [encodeModified_cons]
    exact .cons (.inr rfl) induction

/-! ## Canonical texts -/

/-- The bytes hold no NUL byte and no sequence of four bytes. -/
structure IsCanonical (bytes : List UInt8) : Prop where
  noNul : 0x00 ∉ bytes
  noFour : ∀ character : Char, 0x10000 ≤ character.toNat →
    ¬encodePoint character.toNat <:+: bytes

theorem IsCanonical.of_infix {bytes part : List UInt8} (canonical : IsCanonical bytes)
    (inside : part <:+: bytes) : IsCanonical part where
  noNul := fun member => canonical.noNul (inside.subset member)
  noFour := fun character beyond found =>
    canonical.noFour character beyond (found.trans inside)

theorem bytes_encodeModified (text : List Char) :
    ∀ byte ∈ encodeModified text, byte.toNat ≠ 0 ∧ byte.toNat < 0xF0 := by
  intro byte member
  rcases List.mem_flatMap.mp member with ⟨character, _, member⟩
  rcases List.mem_flatMap.mp member with ⟨unit, inside, member⟩
  have small : unit < 0x10000 := by
    by_cases basic : character.toNat < 0x10000
    · rw [codeUnits_of_lt basic, List.mem_singleton] at inside
      omega
    · rcases exists_codeUnits basic with ⟨high, low, units, isHigh, isLow, _⟩
      rw [isHighSurrogate_iff] at isHigh
      rw [isLowSurrogate_iff] at isLow
      simp only [units, List.mem_cons, List.not_mem_nil, or_false] at inside
      omega
  by_cases nul : unit = 0
  · subst nul
    simp only [encodeUnit, if_true, List.mem_cons, List.not_mem_nil, or_false] at member
    rcases member with rfl | rfl <;> decide
  · rw [encodeUnit_of_ne nul] at member
    have known := bytes_encodePoint (show unit < 0x110000 by omega) byte member
    omega

theorem isCanonical_encodeModified (text : List Char) : IsCanonical (encodeModified text) where
  noNul := fun member => (bytes_encodeModified text 0x00 member).1 rfl
  noFour := by
    intro character beyond found
    have scalar := toNat_scalar character
    have lead : UInt8.ofNat (0xF0 + character.toNat / 0x40000) ∈ encodePoint character.toNat := by
      rw [encodePoint, if_neg (by omega), if_neg (by omega), if_neg (by omega)]
      exact List.mem_cons_self
    have small := (bytes_encodeModified text _ (found.subset lead)).2
    rw [toNat_ofNat _ (by omega)] at small
    omega

theorem eq_encodeModified_iff {bytes : List UInt8} {text : List Char}
    (read : decodeModified? bytes = some text) :
    bytes = encodeModified text ↔ IsCanonical bytes := by
  constructor
  · rintro rfl
    exact isCanonical_encodeModified text
  · intro canonical
    have row := decodeModified?_eq_some_iff.mp read
    clear read
    induction row with
    | nil => rfl
    | cons form _ induction =>
      rename_i character text front rest _
      have later := induction (canonical.of_infix (List.suffix_append _ _).isInfix)
      have first := canonical.of_infix (List.prefix_append front rest).isInfix
      rw [encodeModified_cons, ← later]
      congr 1
      rcases form with rfl | rfl
      · by_cases nul : character.toNat = 0
        · refine absurd ?_ first.noNul
          rw [nul]
          exact List.mem_cons_self
        · by_cases basic : character.toNat < 0x10000
          · rw [encodeModified_of_lt basic, encodeUnit_of_ne nul]
          · exact absurd (List.infix_rfl) (first.noFour character (by omega))
      · rfl

end Hotspot.Text
