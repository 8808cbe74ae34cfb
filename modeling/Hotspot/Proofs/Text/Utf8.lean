import Hotspot.Text.CodePoints
import Hotspot.Text.Surrogates

/-! Reading UTF-8 undoes writing it, whatever stands behind the text. -/

namespace Hotspot.Text

theorem toNat_ofNat (number : Nat) (small : number < 256) :
    (UInt8.ofNat number).toNat = number := by
  rw [UInt8.toNat_ofNat']
  exact Nat.mod_eq_of_lt small

theorem continuation?_ofNat {payload : Nat} (small : payload < 0x40) :
    continuation? (UInt8.ofNat (0x80 + payload)) = some payload := by
  have byte : (UInt8.ofNat (0x80 + payload)).toNat = 0x80 + payload :=
    toNat_ofNat _ (by omega)
  rw [continuation?, byte, if_pos (by omega), Nat.add_sub_cancel_left]

theorem shortest?_eq_some {least point : Nat} (large : least ≤ point)
    (bounded : point < 0x110000) : shortest? least point = some point :=
  if_pos ⟨large, bounded⟩

theorem pointsAfter_encodePoint (seen : List Nat) {point : Nat} (bounded : point < 0x110000)
    (rest : List UInt8) :
    pointsAfter seen (encodePoint point ++ rest) = pointsAfter (point :: seen) rest := by
  unfold encodePoint
  split
  · rename_i one
    have first := toNat_ofNat point (by omega)
    rw [List.singleton_append, pointsAfter.eq_def]
    simp only [first, if_pos one]
  split
  · rename_i one two
    have first := toNat_ofNat (0xC0 + point / 0x40) (by omega)
    have read : twoBytePoint? (UInt8.ofNat (0xC0 + point / 0x40))
        (UInt8.ofNat (0x80 + point % 0x40)) = some point := by
      simp only [twoBytePoint?, first, continuation?_ofNat (Nat.mod_lt point (by omega)),
        Option.bind_eq_bind, Option.bind_some]
      rw [show (0xC0 + point / 0x40 - 0xC0) * 0x40 + point % 0x40 = point by omega]
      exact shortest?_eq_some (by omega) bounded
    simp only [List.cons_append, List.nil_append]
    rw [pointsAfter.eq_def]
    simp only [first, read]
    rw [if_neg (by omega), if_neg (by omega), if_pos (by omega)]
  split
  · rename_i one two three
    have first := toNat_ofNat (0xE0 + point / 0x1000) (by omega)
    have read : threeBytePoint? (UInt8.ofNat (0xE0 + point / 0x1000))
        (UInt8.ofNat (0x80 + point / 0x40 % 0x40)) (UInt8.ofNat (0x80 + point % 0x40)) =
          some point := by
      simp only [threeBytePoint?, first, continuation?_ofNat (Nat.mod_lt _ (by omega)),
        Option.bind_eq_bind, Option.bind_some]
      rw [show ((0xE0 + point / 0x1000 - 0xE0) * 0x40 + point / 0x40 % 0x40) * 0x40 +
        point % 0x40 = point by omega]
      exact shortest?_eq_some (by omega) bounded
    simp only [List.cons_append, List.nil_append]
    rw [pointsAfter.eq_def]
    simp only [first, read]
    rw [if_neg (by omega), if_neg (by omega), if_neg (by omega), if_pos (by omega)]
  · rename_i one two three
    have first := toNat_ofNat (0xF0 + point / 0x40000) (by omega)
    have read : fourBytePoint? (UInt8.ofNat (0xF0 + point / 0x40000))
        (UInt8.ofNat (0x80 + point / 0x1000 % 0x40)) (UInt8.ofNat (0x80 + point / 0x40 % 0x40))
        (UInt8.ofNat (0x80 + point % 0x40)) = some point := by
      simp only [fourBytePoint?, first, continuation?_ofNat (Nat.mod_lt _ (by omega)),
        Option.bind_eq_bind, Option.bind_some]
      rw [show (((0xF0 + point / 0x40000 - 0xF0) * 0x40 + point / 0x1000 % 0x40) * 0x40 +
        point / 0x40 % 0x40) * 0x40 + point % 0x40 = point by omega]
      exact shortest?_eq_some (by omega) bounded
    simp only [List.cons_append, List.nil_append]
    rw [pointsAfter.eq_def]
    simp only [first, read]
    rw [if_neg (by omega), if_neg (by omega), if_neg (by omega), if_neg (by omega)]

theorem toNat_scalar (character : Char) :
    character.toNat < 0xD800 ∨ 0xDFFF < character.toNat ∧ character.toNat < 0x110000 :=
  character.valid

theorem isHighSurrogate_iff {unit : Nat} :
    isHighSurrogate unit = true ↔ 0xD800 ≤ unit ∧ unit ≤ 0xDBFF := by
  simp [isHighSurrogate]

theorem isLowSurrogate_iff {unit : Nat} :
    isLowSurrogate unit = true ↔ 0xDC00 ≤ unit ∧ unit ≤ 0xDFFF := by
  simp [isLowSurrogate]

theorem not_surrogate (character : Char) :
    isHighSurrogate character.toNat = false ∧ isLowSurrogate character.toNat = false := by
  have scalar := toNat_scalar character
  rw [← Bool.not_eq_true, ← Bool.not_eq_true, isHighSurrogate_iff, isLowSurrogate_iff]
  omega

theorem codeUnits_of_lt {character : Char} (basic : character.toNat < 0x10000) :
    codeUnits character = [character.toNat] :=
  if_pos basic

theorem exists_codeUnits {character : Char} (beyond : ¬character.toNat < 0x10000) :
    ∃ high low, codeUnits character = [high, low] ∧ isHighSurrogate high = true ∧
      isLowSurrogate low = true ∧ pairPoint high low = character.toNat := by
  have scalar := toNat_scalar character
  refine ⟨0xD800 + (character.toNat - 0x10000) / 0x400,
    0xDC00 + (character.toNat - 0x10000) % 0x400, if_neg beyond, ?_, ?_, ?_⟩
  · rw [isHighSurrogate_iff]
    omega
  · rw [isLowSurrogate_iff]
    omega
  · unfold pairPoint
    omega

@[simp] theorem character?_toNat (character : Char) :
    character? character.toNat = some character := by
  have valid : character.toNat.isValidChar := character.valid
  rw [character?, dif_pos valid]
  congr 1

theorem pointsAfter_encodeUtf8 (seen : List Nat) (text : List Char) (rest : List UInt8) :
    pointsAfter seen (encodeUtf8 text ++ rest) =
      pointsAfter ((text.map Char.toNat).reverse ++ seen) rest := by
  induction text generalizing seen with
  | nil => rfl
  | cons character text induction =>
    have split : encodeUtf8 (character :: text) =
        encodePoint character.toNat ++ encodeUtf8 text := by
      simp [encodeUtf8]
    have bounded : character.toNat < 0x110000 := by
      have scalar := toNat_scalar character
      omega
    rw [split, List.append_assoc, pointsAfter_encodePoint _ bounded, induction]
    simp

theorem mapM_character?_toNat (text : List Char) :
    (text.map Char.toNat).mapM character? = some text := by
  induction text with
  | nil => rfl
  | cons character text induction => simp [induction]

@[simp] theorem ofCodePoints?_codePoints (text : String) :
    ofCodePoints? (codePoints text) = some text := by
  rw [ofCodePoints?, codePoints, mapM_character?_toNat, Option.map_some, String.ofList_toList]

theorem toNat_of_character? {point : Nat} {character : Char}
    (found : character? point = some character) : character.toNat = point := by
  by_cases valid : point.isValidChar
  · have same : character? point = some (Char.ofNatAux point valid) := dif_pos valid
    rw [same] at found
    cases found
    rfl
  · have missing : character? point = none := dif_neg valid
    rw [missing] at found
    cases found

theorem codePoints_of_ofCodePoints? {points : List Nat} {text : String}
    (read : ofCodePoints? points = some text) : points = codePoints text := by
  rcases Option.map_eq_some_iff.mp read with ⟨characters, listed, rfl⟩
  rw [codePoints, String.toList_ofList]
  clear read
  induction points generalizing characters with
  | nil =>
    cases listed
    rfl
  | cons point rest induction =>
    rw [List.mapM_cons] at listed
    rcases Option.bind_eq_some_iff.mp listed with ⟨first, found, listed⟩
    rcases Option.bind_eq_some_iff.mp listed with ⟨others, restListed, same⟩
    cases same
    rw [List.map_cons, toNat_of_character? found, ← induction others restListed]

theorem exists_ofCodePoints? {points : List Nat}
    (whole : ∀ point ∈ points, isCharacter point = true) :
    ∃ text, ofCodePoints? points = some text := by
  suffices listed : ∃ characters, points.mapM character? = some characters by
    rcases listed with ⟨characters, listed⟩
    exact ⟨_, congrArg (Option.map String.ofList) listed⟩
  induction points with
  | nil => exact ⟨[], rfl⟩
  | cons point rest induction =>
    rcases Option.isSome_iff_exists.mp (whole point List.mem_cons_self) with ⟨first, found⟩
    rcases induction fun other member => whole other (List.mem_cons_of_mem point member) with
      ⟨others, listed⟩
    exact ⟨first :: others, by simp [found, listed]⟩

theorem isCharacter_of_mem_codePoints {text : String} {point : Nat}
    (member : point ∈ codePoints text) : isCharacter point = true := by
  rcases List.mem_map.mp member with ⟨character, _, rfl⟩
  rw [isCharacter, character?_toNat, Option.isSome_some]

theorem codePoints_injective : Function.Injective codePoints := by
  intro text other same
  have read := ofCodePoints?_codePoints text
  rw [same, ofCodePoints?_codePoints] at read
  exact (Option.some.inj read).symm

theorem decodeUtf8?_encodeUtf8 (text : List Char) : decodeUtf8? (encodeUtf8 text) = some text := by
  have points : points? (encodeUtf8 text) = some (text.map Char.toNat) := by
    have read := pointsAfter_encodeUtf8 [] text []
    rw [List.append_nil] at read
    rw [points?, read]
    simp [pointsAfter]
  rw [decodeUtf8?, points]
  exact mapM_character?_toNat text

/-! ## Rows of sequences -/

/-- The list is a row of parts, one for each item. -/
inductive Row {item unit : Type} (part : item → List unit → Prop) : List item → List unit → Prop
  | nil : Row part [] []
  | cons {first : item} {items : List item} {front rest : List unit} :
      part first front → Row part items rest → Row part (first :: items) (front ++ rest)

namespace Row

variable {item unit : Type} {part : item → List unit → Prop}

theorem append {items others : List item} {front rest : List unit} (row : Row part items front)
    (later : Row part others rest) : Row part (items ++ others) (front ++ rest) := by
  induction row with
  | nil => exact later
  | cons first _ induction =>
    rw [List.append_assoc]
    exact .cons first induction

theorem of_append {items others : List item} {whole : List unit}
    (row : Row part (items ++ others) whole) :
    ∃ front rest, whole = front ++ rest ∧ Row part items front ∧ Row part others rest := by
  induction items generalizing whole with
  | nil => exact ⟨[], whole, rfl, .nil, row⟩
  | cons first items induction =>
    cases row with
    | cons start later =>
      rcases induction later with ⟨front, rest, rfl, before, after⟩
      exact ⟨_, rest, (List.append_assoc _ _ _).symm, .cons start before, after⟩

theorem singleton_iff {first : item} {whole : List unit} :
    Row part [first] whole ↔ part first whole := by
  constructor
  · intro row
    cases row with
    | cons start later =>
      cases later
      rw [List.append_nil]
      exact start
  · intro start
    rw [← List.append_nil whole]
    exact .cons start .nil

theorem exists_cons {seen all : List item} {first : item} {front rest : List unit}
    (start : part first front)
    (later : ∃ items, all = (first :: seen).reverse ++ items ∧ Row part items rest) :
    ∃ items, all = seen.reverse ++ items ∧ Row part items (front ++ rest) := by
  rcases later with ⟨items, rfl, row⟩
  exact ⟨first :: items, by simp, .cons start row⟩

end Row

def IsSequence (point : Nat) (bytes : List UInt8) : Prop :=
  point < 0x110000 ∧ bytes = encodePoint point

theorem continuation?_eq_some {byte : UInt8} {payload : Nat}
    (read : continuation? byte = some payload) :
    payload < 0x40 ∧ byte = UInt8.ofNat (0x80 + payload) := by
  unfold continuation? at read
  split at read
  · rename_i range
    have value := Option.some.inj read
    have same : 0x80 + payload = byte.toNat := by omega
    refine ⟨by omega, ?_⟩
    rw [same, UInt8.ofNat_toNat]
  · cases read

theorem shortest?_inv {least number point : Nat} (read : shortest? least number = some point) :
    point = number ∧ least ≤ point ∧ point < 0x110000 := by
  unfold shortest? at read
  split at read
  · rename_i range
    cases read
    exact ⟨rfl, range⟩
  · cases read

theorem isSequence_of_one {first : UInt8} (small : first.toNat < 0x80) :
    IsSequence first.toNat [first] := by
  refine ⟨by omega, ?_⟩
  rw [encodePoint, if_pos small, UInt8.ofNat_toNat]

theorem isSequence_of_two {first second : UInt8} {point : Nat} (least : ¬first.toNat < 0xC0)
    (most : first.toNat < 0xE0) (read : twoBytePoint? first second = some point) :
    IsSequence point [first, second] := by
  rcases Option.bind_eq_some_iff.mp read with ⟨low, second, whole⟩
  rcases continuation?_eq_some second with ⟨_, rfl⟩
  rcases shortest?_inv whole with ⟨same, large, bounded⟩
  have head : 0xC0 + point / 0x40 = first.toNat := by omega
  have tail : point % 0x40 = low := by omega
  refine ⟨bounded, ?_⟩
  rw [encodePoint, if_neg (by omega), if_pos (by omega), head, tail, UInt8.ofNat_toNat]

theorem isSequence_of_three {first second third : UInt8} {point : Nat}
    (least : ¬first.toNat < 0xE0) (most : first.toNat < 0xF0)
    (read : threeBytePoint? first second third = some point) :
    IsSequence point [first, second, third] := by
  rcases Option.bind_eq_some_iff.mp read with ⟨middle, second, rest⟩
  rcases Option.bind_eq_some_iff.mp rest with ⟨low, third, whole⟩
  rcases continuation?_eq_some second with ⟨_, rfl⟩
  rcases continuation?_eq_some third with ⟨_, rfl⟩
  rcases shortest?_inv whole with ⟨same, large, bounded⟩
  have head : 0xE0 + point / 0x1000 = first.toNat := by omega
  have inner : point / 0x40 % 0x40 = middle := by omega
  have tail : point % 0x40 = low := by omega
  refine ⟨bounded, ?_⟩
  rw [encodePoint, if_neg (by omega), if_neg (by omega), if_pos (by omega), head, inner, tail,
    UInt8.ofNat_toNat]

theorem isSequence_of_four {first second third fourth : UInt8} {point : Nat}
    (least : ¬first.toNat < 0xF0) (read : fourBytePoint? first second third fourth = some point) :
    IsSequence point [first, second, third, fourth] := by
  rcases Option.bind_eq_some_iff.mp read with ⟨upper, second, rest⟩
  rcases Option.bind_eq_some_iff.mp rest with ⟨middle, third, rest⟩
  rcases Option.bind_eq_some_iff.mp rest with ⟨low, fourth, whole⟩
  rcases continuation?_eq_some second with ⟨_, rfl⟩
  rcases continuation?_eq_some third with ⟨_, rfl⟩
  rcases continuation?_eq_some fourth with ⟨_, rfl⟩
  rcases shortest?_inv whole with ⟨same, large, bounded⟩
  have head : 0xF0 + point / 0x40000 = first.toNat := by omega
  have outer : point / 0x1000 % 0x40 = upper := by omega
  have inner : point / 0x40 % 0x40 = middle := by omega
  have tail : point % 0x40 = low := by omega
  refine ⟨bounded, ?_⟩
  rw [encodePoint, if_neg (by omega), if_neg (by omega), if_neg (by omega), head, outer, inner,
    tail, UInt8.ofNat_toNat]

theorem pointsAfter_of_row {points : List Nat} {bytes : List UInt8}
    (row : Row IsSequence points bytes) (seen : List Nat) :
    pointsAfter seen bytes = some (seen.reverse ++ points) := by
  induction row generalizing seen with
  | nil => simp [pointsAfter]
  | cons first _ induction =>
    rcases first with ⟨bounded, rfl⟩
    rw [pointsAfter_encodePoint seen bounded, induction]
    simp

/-- What is read behind `seen` comes from a row of sequences. -/
theorem row_of_pointsAfter {seen all : List Nat} {bytes : List UInt8}
    (read : pointsAfter seen bytes = some all) :
    ∃ points, all = seen.reverse ++ points ∧ Row IsSequence points bytes := by
  fun_induction pointsAfter seen bytes with
  | case1 seen =>
    cases read
    exact ⟨[], (List.append_nil _).symm, .nil⟩
  | case2 seen first rest small induction =>
    exact Row.exists_cons (isSequence_of_one small) (induction read)
  | case6 seen first _ least second rest most point found induction =>
    exact Row.exists_cons (isSequence_of_two least most found) (induction read)
  | case9 seen first _ _ second least third rest most point found induction =>
    exact Row.exists_cons (isSequence_of_three least most found) (induction read)
  | case12 seen first _ _ second _ third least fourth rest point found induction =>
    exact Row.exists_cons (isSequence_of_four least found) (induction read)
  | _ => cases read

theorem points?_eq_some_iff {bytes : List UInt8} {points : List Nat} :
    points? bytes = some points ↔ Row IsSequence points bytes := by
  constructor
  · intro read
    rcases row_of_pointsAfter read with ⟨all, rfl, row⟩
    exact row
  · exact fun row => pointsAfter_of_row row []

end Hotspot.Text
