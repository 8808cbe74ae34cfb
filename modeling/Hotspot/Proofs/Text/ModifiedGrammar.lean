import Hotspot.Proofs.Text.ModifiedUtf8

/-! Which byte strings are modified UTF-8, told by the ranges of their bytes. The reader does
not look for characters. It replaces the pairs that stand for NUL, reads code points and joins
surrogates, and each time it goes over all there is. Still it reads rows of characters and
nothing else: the byte that begins a pair is in no other character, so a pair is a character
of its own wherever it stands, and replacing it neither hides a fault nor makes one. -/

namespace Hotspot.Text

/-! ## The grammar -/

def IsTail (byte : UInt8) : Prop :=
  0x80 ≤ byte.toNat ∧ byte.toNat ≤ 0xBF

/-- The bytes are the well-formed sequence of the code point. The bounds on the first two bytes
keep out what has a shorter sequence and what is beyond the last code point. -/
inductive Encodes : Nat → List UInt8 → Prop
  | one {point : Nat} {first : UInt8} :
      first.toNat ≤ 0x7F → point = first.toNat → Encodes point [first]
  | two {point : Nat} {first second : UInt8} :
      0xC2 ≤ first.toNat → first.toNat ≤ 0xDF → IsTail second →
      point = (first.toNat - 0xC0) * 0x40 + (second.toNat - 0x80) →
      Encodes point [first, second]
  | three {point : Nat} {first second third : UInt8} :
      0xE0 ≤ first.toNat → first.toNat ≤ 0xEF → IsTail second → IsTail third →
      (first.toNat = 0xE0 → 0xA0 ≤ second.toNat) →
      point = (first.toNat - 0xE0) * 0x1000 + (second.toNat - 0x80) * 0x40 +
        (third.toNat - 0x80) →
      Encodes point [first, second, third]
  | four {point : Nat} {first second third fourth : UInt8} :
      0xF0 ≤ first.toNat → first.toNat ≤ 0xF4 → IsTail second → IsTail third → IsTail fourth →
      (first.toNat = 0xF0 → 0x90 ≤ second.toNat) → (first.toNat = 0xF4 → second.toNat ≤ 0x8F) →
      point = (first.toNat - 0xF0) * 0x40000 + (second.toNat - 0x80) * 0x1000 +
        (third.toNat - 0x80) * 0x40 + (fourth.toNat - 0x80) →
      Encodes point [first, second, third, fourth]

def IsSurrogate (point : Nat) : Prop :=
  0xD800 ≤ point ∧ point ≤ 0xDFFF

/-- The bytes are a character of modified UTF-8, with this code point. -/
inductive Spells : Nat → List UInt8 → Prop
  | nul : Spells 0x00 [0xC0, 0x80]
  | plain {point : Nat} {bytes : List UInt8} :
      ¬IsSurrogate point → Encodes point bytes → Spells point bytes
  | pair {point high low : Nat} {front back : List UInt8} :
      0xD800 ≤ high → high ≤ 0xDBFF → 0xDC00 ≤ low → low ≤ 0xDFFF →
      point = 0x10000 + (high - 0xD800) * 0x400 + (low - 0xDC00) →
      Encodes high front → Encodes low back → Spells point (front ++ back)

/-! ## Sequences by their ranges -/

theorem continuation?_of_isTail {byte : UInt8} (tail : IsTail byte) :
    continuation? byte = some (byte.toNat - 0x80) :=
  if_pos ⟨tail.1, Nat.lt_succ_of_le tail.2⟩

theorem isTail_ofNat {payload : Nat} (small : payload < 0x40) :
    IsTail (UInt8.ofNat (0x80 + payload)) := by
  have byte := toNat_ofNat (0x80 + payload) (by omega)
  unfold IsTail
  omega

theorem isSequence_of_encodes {point : Nat} {bytes : List UInt8} (encodes : Encodes point bytes) :
    IsSequence point bytes := by
  cases encodes with
  | one most value =>
    subst value
    exact isSequence_of_one (Nat.lt_succ_of_le most)
  | @two first second least most tail value =>
    have bound := tail.2
    have read : twoBytePoint? first second = some point := by
      simp only [twoBytePoint?, continuation?_of_isTail tail, Option.bind_eq_bind,
        Option.bind_some]
      rw [← value]
      exact shortest?_eq_some (by omega) (by omega)
    exact isSequence_of_two (by omega) (by omega) read
  | @three first second third least most middle last large value =>
    have middleBound := middle.2
    have lastBound := last.2
    have read : threeBytePoint? first second third = some point := by
      simp only [threeBytePoint?, continuation?_of_isTail middle, continuation?_of_isTail last,
        Option.bind_eq_bind, Option.bind_some]
      rw [show ((first.toNat - 0xE0) * 0x40 + (second.toNat - 0x80)) * 0x40 +
        (third.toNat - 0x80) = point by omega]
      exact shortest?_eq_some (by omega) (by omega)
    exact isSequence_of_three (by omega) (by omega) read
  | @four first second third fourth least most upper middle last large small value =>
    have upperBound := upper.2
    have middleBound := middle.2
    have lastBound := last.2
    have read : fourBytePoint? first second third fourth = some point := by
      simp only [fourBytePoint?, continuation?_of_isTail upper, continuation?_of_isTail middle,
        continuation?_of_isTail last, Option.bind_eq_bind, Option.bind_some]
      rw [show (((first.toNat - 0xF0) * 0x40 + (second.toNat - 0x80)) * 0x40 +
        (third.toNat - 0x80)) * 0x40 + (fourth.toNat - 0x80) = point by omega]
      exact shortest?_eq_some (by omega) (by omega)
    exact isSequence_of_four (by omega) read

theorem encodes_encodePoint {point : Nat} (bounded : point < 0x110000) :
    Encodes point (encodePoint point) := by
  have lowTail := isTail_ofNat (Nat.mod_lt point (show 0 < 0x40 by omega))
  have middleTail := isTail_ofNat (Nat.mod_lt (point / 0x40) (show 0 < 0x40 by omega))
  have upperTail := isTail_ofNat (Nat.mod_lt (point / 0x1000) (show 0 < 0x40 by omega))
  have last := toNat_ofNat (0x80 + point % 0x40) (by omega)
  have middle := toNat_ofNat (0x80 + point / 0x40 % 0x40) (by omega)
  have upper := toNat_ofNat (0x80 + point / 0x1000 % 0x40) (by omega)
  unfold encodePoint
  split
  · have first := toNat_ofNat point (by omega)
    exact .one (by omega) first.symm
  split
  · have first := toNat_ofNat (0xC0 + point / 0x40) (by omega)
    exact .two (by omega) (by omega) lowTail (by omega)
  split
  · have first := toNat_ofNat (0xE0 + point / 0x1000) (by omega)
    exact .three (by omega) (by omega) middleTail lowTail (by omega) (by omega)
  · have first := toNat_ofNat (0xF0 + point / 0x40000) (by omega)
    exact .four (by omega) (by omega) upperTail middleTail lowTail (by omega) (by omega)
      (by omega)

/-! ## Characters by their ranges -/

theorem not_isSurrogate (character : Char) : ¬IsSurrogate character.toNat := by
  have scalar := toNat_scalar character
  unfold IsSurrogate
  omega

theorem codeUnits_of_pairPoint {character : Char} {high low : Nat}
    (isHigh : isHighSurrogate high = true) (isLow : isLowSurrogate low = true)
    (joined : character.toNat = pairPoint high low) : codeUnits character = [high, low] := by
  have group := isGroup_pair isHigh isLow
  rw [← joined, Char.ofNat_toNat] at group
  rcases group with single | units
  · cases single
  · exact units.symm

theorem isForm_of_spells {character : Char} {bytes : List UInt8}
    (spells : Spells character.toNat bytes) : IsForm character bytes := by
  generalize same : character.toNat = point at spells
  cases spells with
  | nul =>
    refine .inr ?_
    rw [encodeModified_of_lt (by omega), same]
    rfl
  | plain _ encodes =>
    refine .inl ?_
    rw [same]
    exact (isSequence_of_encodes encodes).2
  | @pair _ high low front back highLeast highMost lowLeast lowMost value first second =>
    have isHigh := isHighSurrogate_iff.mpr ⟨highLeast, highMost⟩
    have isLow := isLowSurrogate_iff.mpr ⟨lowLeast, lowMost⟩
    have units := codeUnits_of_pairPoint isHigh isLow (same.trans value)
    refine .inr ?_
    rw [(encodeModified_of_units units isHigh isLow).1, (isSequence_of_encodes first).2,
      (isSequence_of_encodes second).2]

theorem spells_of_isForm {character : Char} {bytes : List UInt8} (form : IsForm character bytes) :
    Spells character.toNat bytes := by
  have scalar := toNat_scalar character
  have plain : Spells character.toNat (encodePoint character.toNat) :=
    .plain (not_isSurrogate character) (encodes_encodePoint (by omega))
  rcases form with same | same
  · rw [same]
    exact plain
  · rw [same]
    by_cases basic : character.toNat < 0x10000
    · rw [encodeModified_of_lt basic]
      by_cases nul : character.toNat = 0
      · rw [nul]
        exact .nul
      · rw [encodeUnit_of_ne nul]
        exact plain
    · rcases exists_codeUnits basic with ⟨high, low, units, isHigh, isLow, joined⟩
      rcases encodeModified_of_units units isHigh isLow with ⟨modified, highBound, lowBound, _⟩
      rcases isHighSurrogate_iff.mp isHigh with ⟨highLeast, highMost⟩
      rcases isLowSurrogate_iff.mp isLow with ⟨lowLeast, lowMost⟩
      rw [modified]
      exact .pair highLeast highMost lowLeast lowMost joined.symm (encodes_encodePoint highBound)
        (encodes_encodePoint lowBound)

theorem exists_character_of_spells {point : Nat} {bytes : List UInt8}
    (spells : Spells point bytes) : ∃ character : Char, point = character.toNat := by
  have valid : point.isValidChar := by
    unfold Nat.isValidChar
    cases spells with
    | nul => omega
    | plain unpaired encodes =>
      have bounded := (isSequence_of_encodes encodes).1
      unfold IsSurrogate at unpaired
      omega
    | pair => omega
  exact ⟨Char.ofNat point, (toNat_of_isValidChar valid).symm⟩

theorem row_spells_iff {points : List Nat} {bytes : List UInt8} :
    Row Spells points bytes ↔
      ∃ text : List Char, points = text.map Char.toNat ∧ Row IsForm text bytes := by
  constructor
  · intro row
    induction row with
    | nil => exact ⟨[], rfl, .nil⟩
    | cons first _ induction =>
      rcases exists_character_of_spells first with ⟨character, rfl⟩
      rcases induction with ⟨text, rfl, row⟩
      exact ⟨character :: text, rfl, .cons (isForm_of_spells first) row⟩
  · intro read
    rcases read with ⟨text, rfl, row⟩
    induction row with
    | nil => exact .nil
    | cons form _ induction => exact .cons (spells_of_isForm form) induction

/-! ## Pairs for NUL, and what stands around them -/

theorem not_mem_of_encodes {point : Nat} {bytes : List UInt8} (encodes : Encodes point bytes) :
    0xC0 ∉ bytes := by
  rcases isSequence_of_encodes encodes with ⟨bounded, rfl⟩
  intro member
  exact (bytes_encodePoint bounded _ member).1 rfl

theorem eq_pair_of_mem {point : Nat} {bytes : List UInt8} (spells : Spells point bytes)
    (member : 0xC0 ∈ bytes) : point = 0 ∧ bytes = [0xC0, 0x80] := by
  cases spells with
  | nul => exact ⟨rfl, rfl⟩
  | plain _ encodes => exact absurd member (not_mem_of_encodes encodes)
  | pair _ _ _ _ _ first second =>
    rcases List.mem_append.mp member with inside | inside
    · exact absurd inside (not_mem_of_encodes first)
    · exact absurd inside (not_mem_of_encodes second)

theorem eq_nil_of_append_eq_pair {front back : List UInt8}
    (same : front ++ 0xC0 :: back = [0xC0, 0x80]) : front = [] ∧ back = [0x80] := by
  cases front with
  | nil => exact ⟨rfl, List.tail_eq_of_cons_eq same⟩
  | cons first front =>
    have tail : front ++ 0xC0 :: back = [0x80] := List.tail_eq_of_cons_eq same
    have member : (0xC0 : UInt8) ∈ front ++ 0xC0 :: back :=
      List.mem_append_right _ List.mem_cons_self
    rw [tail] at member
    exact absurd member (by decide)

theorem exists_rows_of_pair {text : List Char} {front rest : List UInt8}
    (row : Row IsForm text (front ++ 0xC0 :: 0x80 :: rest)) :
    ∃ before after, text = before ++ '\x00' :: after ∧ Row IsForm before front ∧
      Row IsForm after rest := by
  generalize whole : front ++ 0xC0 :: 0x80 :: rest = bytes at row
  induction row generalizing front with
  | nil => simp at whole
  | @cons character text piece remaining form later induction =>
    rcases List.append_eq_append_iff.mp whole with
      ⟨between, pieceSame, restSame⟩ | ⟨between, frontSame, remainingSame⟩
    · cases between with
      | nil =>
        -- The character ends where the pair begins.
        have atPair : [] ++ 0xC0 :: 0x80 :: rest = remaining := restSame
        rcases induction atPair with ⟨before, after, rfl, empty, behind⟩
        have ahead := Row.cons form empty
        rw [pieceSame, List.append_nil, List.append_nil] at ahead
        exact ⟨character :: before, after, rfl, ahead, behind⟩
      | cons byte between =>
        -- The character holds the byte that begins the pair, so it is the pair.
        have lead : byte = 0xC0 := (List.cons.inj restSame).1.symm
        subst lead
        have member : 0xC0 ∈ piece := by
          rw [pieceSame]
          exact List.mem_append_right _ List.mem_cons_self
        rcases eq_pair_of_mem (spells_of_isForm form) member with ⟨nul, pair⟩
        rcases eq_nil_of_append_eq_pair (pieceSame.symm.trans pair) with ⟨rfl, rfl⟩
        have character : character = '\x00' := Char.toNat_inj.mp nul
        have behind : rest = remaining := by simpa using restSame
        subst character behind
        exact ⟨[], text, rfl, .nil, later⟩
    · rcases induction remainingSame.symm with ⟨before, after, rfl, ahead, behind⟩
      rw [frontSame]
      exact ⟨character :: before, after, rfl, .cons form ahead, behind⟩

theorem decodeModified?_pair (front rest : List UInt8) :
    decodeModified? (front ++ 0xC0 :: 0x80 :: rest) = do
      return (← decodeModified? front) ++ '\x00' :: (← decodeModified? rest) := by
  have nul : IsForm '\x00' [0xC0, 0x80] := .inr rfl
  refine Option.ext fun text => ?_
  simp only [Option.bind_eq_bind, Option.bind_eq_some_iff, decodeModified?_eq_some_iff,
    Option.pure_def, Option.some.injEq]
  constructor
  · intro row
    rcases exists_rows_of_pair row with ⟨before, after, rfl, ahead, behind⟩
    exact ⟨before, ahead, after, behind, rfl⟩
  · intro sides
    rcases sides with ⟨before, ahead, after, behind, rfl⟩
    exact ahead.append (.cons nul behind)

example :
    decodeModified? [0xC3, 0xC0, 0x80, 0xA9] = none ∧
      decodeModified? [0xC0, 0xC0, 0x80, 0x80] = none := by decide

/-! ## Reading without replacing -/

def decodeRaw? (bytes : List UInt8) : Option (List Char) := do
  joinSurrogates? (← points? bytes)

theorem foldNul_of_row {points : List Nat} {bytes : List UInt8}
    (row : Row IsSequence points bytes) : foldNul bytes = bytes := by
  induction row with
  | nil => rfl
  | cons first _ induction =>
    rcases first with ⟨bounded, rfl⟩
    rw [foldNul_append (fun byte member => (bytes_encodePoint bounded byte member).1), induction]

theorem foldNul_of_not_infix {bytes : List UInt8} (noPair : ¬[0xC0, 0x80] <:+: bytes) :
    foldNul bytes = bytes := by
  induction bytes with
  | nil => rfl
  | cons first rest induction =>
    have noPairBehind : ¬[0xC0, 0x80] <:+: rest := fun inside =>
      noPair (inside.trans (List.suffix_cons first rest).isInfix)
    rw [foldNul_cons, induction noPairBehind]
    intro after isFirst isRest
    subst isFirst isRest
    exact noPair (List.prefix_append [0xC0, 0x80] after).isInfix

theorem decodeModified?_of_decodeRaw? {bytes : List UInt8} {text : List Char}
    (read : decodeRaw? bytes = some text) : decodeModified? bytes = some text := by
  rcases Option.bind_eq_some_iff.mp read with ⟨points, found, _⟩
  rw [decodeModified?, foldNul_of_row (points?_eq_some_iff.mp found)]
  exact read

/-! ## The detour by UTF-16 -/

def pointUnits (point : Nat) : List Nat :=
  if point < 0x10000 then
    [point]
  else
    [0xD800 + (point - 0x10000) / 0x400, 0xDC00 + (point - 0x10000) % 0x400]

theorem pointUnits_toNat (character : Char) : pointUnits character.toNat = codeUnits character :=
  rfl

theorem pointUnits_of_lt {point : Nat} (basic : point < 0x10000) : pointUnits point = [point] :=
  if_pos basic

theorem pointUnits_of_half {unit : Nat}
    (half : isHighSurrogate unit = true ∨ isLowSurrogate unit = true) :
    pointUnits unit = [unit] := by
  rw [isHighSurrogate_iff, isLowSurrogate_iff] at half
  exact pointUnits_of_lt (by omega)

theorem exists_pointUnits {point : Nat} (bounded : point < 0x110000)
    (notLow : ¬isLowSurrogate point = true) :
    ∃ first units, pointUnits point = first :: units ∧ ¬isLowSurrogate first = true := by
  by_cases basic : point < 0x10000
  · exact ⟨point, [], pointUnits_of_lt basic, notLow⟩
  · refine ⟨_, _, if_neg basic, ?_⟩
    rw [isLowSurrogate_iff]
    omega

/-- Surrogates are joined as they are by writing UTF-16 and reading it strictly: a high unit
has to stand before a low one, and a low one behind a high one. -/
theorem joinAfter_units (seen : List Char) {points : List Nat}
    (bounded : ∀ point ∈ points, point < 0x110000) :
    joinAfter seen (points.flatMap pointUnits) = joinAfter seen points := by
  fun_induction joinAfter seen points with
  | case1 seen => rfl
  | case2 seen high isHigh =>
    rw [List.flatMap_singleton, pointUnits_of_half (.inl isHigh), joinAfter.eq_def]
    simp only [isHigh, if_true]
  | case3 seen high isHigh low rest isLow induction =>
    rw [List.forall_mem_cons, List.forall_mem_cons] at bounded
    rw [List.flatMap_cons, List.flatMap_cons, pointUnits_of_half (.inl isHigh),
      pointUnits_of_half (.inr isLow), ← induction bounded.2.2]
    simp only [List.singleton_append]
    rw [joinAfter.eq_def]
    simp only [isHigh, isLow, if_true]
  | case4 seen high isHigh other rest notLow =>
    rw [List.forall_mem_cons, List.forall_mem_cons] at bounded
    rcases exists_pointUnits bounded.2.1 notLow with ⟨first, units, same, firstNotLow⟩
    rw [List.flatMap_cons, List.flatMap_cons, pointUnits_of_half (.inl isHigh), same]
    simp only [List.cons_append, List.nil_append]
    rw [joinAfter.eq_def]
    simp only [isHigh, if_true, if_neg firstNotLow]
  | case5 seen point rest notHigh missing =>
    have invalid : ¬point.isValidChar := by
      intro valid
      rw [character?, dif_pos valid] at missing
      cases missing
    rw [List.forall_mem_cons] at bounded
    have basic : point < 0x10000 := by
      unfold Nat.isValidChar at invalid
      omega
    rw [List.flatMap_cons, pointUnits_of_lt basic, List.singleton_append, joinAfter.eq_def]
    simp only [if_neg notHigh, missing]
  | case6 seen point rest notHigh character found induction =>
    rw [List.forall_mem_cons] at bounded
    rw [List.flatMap_cons, ← toNat_of_character? found, pointUnits_toNat,
      joinAfter_group seen (.inr rfl), induction bounded.2]

theorem bounded_of_row {points : List Nat} {bytes : List UInt8}
    (row : Row IsSequence points bytes) : ∀ point ∈ points, point < 0x110000 := by
  induction row with
  | nil => exact fun _ member => absurd member List.not_mem_nil
  | cons first _ induction => exact List.forall_mem_cons.mpr ⟨first.1, induction⟩

theorem decodeModified?_eq_bind (bytes : List UInt8) :
    decodeModified? bytes =
      (points? (foldNul bytes)).bind fun points => joinSurrogates? (points.flatMap pointUnits) := by
  rw [decodeModified?]
  cases found : points? (foldNul bytes) with
  | none => rfl
  | some points =>
    exact (joinAfter_units [] (bounded_of_row (points?_eq_some_iff.mp found))).symm

/-! ## The language of the reader -/

theorem decodeModified?_eq_some_iff_spells {bytes : List UInt8} {text : List Char} :
    decodeModified? bytes = some text ↔ Row Spells (text.map Char.toNat) bytes := by
  rw [decodeModified?_eq_some_iff, row_spells_iff]
  constructor
  · exact fun row => ⟨text, rfl, row⟩
  · intro spelled
    rcases spelled with ⟨other, points, row⟩
    have same := (List.map_inj_right fun _ _ => Char.toNat_inj.mp).mp points
    rw [same]
    exact row

theorem exists_decodeModified?_iff {bytes : List UInt8} :
    (∃ text, decodeModified? bytes = some text) ↔ ∃ points, Row Spells points bytes := by
  constructor
  · intro read
    rcases read with ⟨text, read⟩
    exact ⟨_, decodeModified?_eq_some_iff_spells.mp read⟩
  · intro language
    rcases language with ⟨points, row⟩
    rcases row_spells_iff.mp row with ⟨text, _, forms⟩
    exact ⟨text, decodeModified?_eq_some_iff.mpr forms⟩

/-- The reader reads a byte string exactly if it is a row of characters by their ranges, and
then it reads these characters, among which there is no surrogate; it refuses any other. Where
a pair for NUL stands, what is in front of it and what is behind it are read on their own, and
without such a pair the bytes are read as they are. So the replacement of the pairs makes
nothing readable that is ill-formed otherwise, and what can be read without it is read as
the same text. -/
theorem reads_modified_language (bytes : List UInt8) :
    (∀ text, decodeModified? bytes = some text ↔ Row Spells (text.map Char.toNat) bytes) ∧
      ((∃ text, decodeModified? bytes = some text) ↔ ∃ points, Row Spells points bytes) ∧
      (decodeModified? bytes = none ↔ ¬∃ points, Row Spells points bytes) ∧
      (∀ text, decodeModified? bytes = some text →
        ∀ character ∈ text, ¬IsSurrogate character.toNat) ∧
      (decodeModified? bytes =
        (points? (foldNul bytes)).bind fun points =>
          joinSurrogates? (points.flatMap pointUnits)) ∧
      (∀ front rest, bytes = front ++ 0xC0 :: 0x80 :: rest →
        decodeModified? bytes = do
          return (← decodeModified? front) ++ '\x00' :: (← decodeModified? rest)) ∧
      (¬[0xC0, 0x80] <:+: bytes → decodeModified? bytes = decodeRaw? bytes) ∧
      ∀ text, decodeRaw? bytes = some text → decodeModified? bytes = some text := by
  refine ⟨fun text => decodeModified?_eq_some_iff_spells, exists_decodeModified?_iff, ?_, ?_,
    decodeModified?_eq_bind bytes, ?_, ?_, fun text => decodeModified?_of_decodeRaw?⟩
  · rw [← exists_decodeModified?_iff, ← Option.isSome_iff_exists, Option.not_isSome_iff_eq_none]
  · exact fun text _ character _ => not_isSurrogate character
  · intro front rest whole
    rw [whole]
    exact decodeModified?_pair front rest
  · intro noPair
    rw [decodeModified?, foldNul_of_not_infix noPair]
    rfl

end Hotspot.Text
