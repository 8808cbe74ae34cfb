import Hotspot.MacAddress
import Hotspot.Proofs.Text.Hex
import Hotspot.Proofs.Text.Pattern
import Mathlib.Data.List.Forall2
import Mathlib.Data.List.Induction

/-! Which texts spell an address. An address is written as six groups of two hexadecimal
digits, with nothing, a colon or a hyphen between each two, and no text is a writing in two
ways. A text is matched against an expression that refers back to its first separator, and
what matches is read without its separators. So exactly those texts are read that are such a
writing, but for blanks at their ends and the case of their letters. -/

namespace Hotspot.MacAddress

open Text

variable {address : MacAddress} {octet : UInt8} {octets : List UInt8} {character : Char}
  {separator group text : List Char} {groups : List (List Char)} {before after : Matching}

/-- What may stand between two groups. -/
def separators : List (List Char) :=
  [[], [':'], ['-']]

def IsGroupOf (octet : UInt8) (group : List Char) : Prop :=
  ∃ high < 16, ∃ low < 16, group = [hexDigit high, hexDigit low] ∧ octet.toNat = 16 * high + low

/-- The text is a group for each octet, with the separator between each two. -/
def Spells (separator text : List Char) (address : MacAddress) : Prop :=
  ∃ groups, List.Forall₂ IsGroupOf address.octets groups ∧ text = separator.intercalate groups

/-- The octets in hexadecimal, each but the first behind a gap of its own. -/
def spaced (first : UInt8) (rest : List (List Char × UInt8)) : List Char :=
  hexOfByte first ++ rest.flatMap fun part => part.1 ++ hexOfByte part.2

/-! ## Groups -/

theorem hexOfByte_eq (octet : UInt8) :
    hexOfByte octet = [hexDigit (octet.toNat / 16 % 16), hexDigit (octet.toNat % 16)] := by
  simp [hexOfByte, hexDigits]

theorem isGroupOf_iff : IsGroupOf octet group ↔ group = hexOfByte octet := by
  have bounded := octet.toNat_lt
  rw [hexOfByte_eq]
  constructor
  · rintro ⟨high, highSmall, low, lowSmall, rfl, value⟩
    have highDigit : octet.toNat / 16 % 16 = high := by
      omega
    have lowDigit : octet.toNat % 16 = low := by
      omega
    rw [highDigit, lowDigit]
  · rintro rfl
    exact ⟨_, Nat.mod_lt _ (by omega), _, Nat.mod_lt _ (by omega), rfl, by omega⟩

theorem forall₂_isGroupOf_iff :
    List.Forall₂ IsGroupOf octets groups ↔ groups = octets.map hexOfByte := by
  constructor
  · intro spelled
    induction spelled with
    | nil => rfl
    | cons group _ rest => rw [List.map_cons, isGroupOf_iff.mp group, rest]
  · rintro rfl
    rw [List.forall₂_map_right_iff]
    exact List.forall₂_same.mpr fun octet _ => isGroupOf_iff.mpr rfl

theorem spells_iff : Spells separator text address ↔ text = address.joined separator := by
  constructor
  · rintro ⟨groups, spelled, rfl⟩
    rw [forall₂_isGroupOf_iff.mp spelled]
    rfl
  · rintro rfl
    exact ⟨_, forall₂_isGroupOf_iff.mpr rfl, rfl⟩

theorem exists_of_mem_hexOfByte (member : character ∈ hexOfByte octet) :
    ∃ digit < 16, character = hexDigit digit := by
  simp only [hexOfByte_eq, List.mem_cons, List.not_mem_nil, or_false] at member
  rcases member with high | low
  · exact ⟨_, Nat.mod_lt _ (by omega), high⟩
  · exact ⟨_, Nat.mod_lt _ (by omega), low⟩

theorem hexOfByte_inj {octet other : UInt8} (same : hexOfByte octet = hexOfByte other) :
    octet = other := by
  have read := bytesOfHex?_hexOfBytes [octet]
  have group : hexOfBytes [octet] = hexOfBytes [other] := by
    simp [hexOfBytes, same]
  rw [group, bytesOfHex?_hexOfBytes] at read
  exact (List.cons.inj (Option.some.inj read)).1.symm

/-! ## Writings with gaps -/

theorem joined_eq_spaced (separator : List Char) (first : UInt8) (rest : List UInt8) :
    separator.intercalate ((first :: rest).map hexOfByte) =
      spaced first (rest.map fun octet => (separator, octet)) := by
  induction rest generalizing first with
  | nil => simp [spaced]
  | cons second others induction =>
    rw [List.map_cons, List.map_cons, List.intercalate_cons_cons, ← List.map_cons, induction]
    simp [spaced]

theorem takeWhile_gap {gap : List Char} (known : gap ∈ separators) (octet : UInt8)
    (rest : List Char) :
    (gap ++ (hexOfByte octet ++ rest)).takeWhile
      (fun character => character = ':' || character = '-') = gap := by
  have digits : ∀ digit < 16,
      (decide (hexDigit digit = ':') || decide (hexDigit digit = '-')) = false := by
    decide
  have digit := digits (octet.toNat / 16 % 16) (Nat.mod_lt _ (by omega))
  simp only [separators, List.mem_cons, List.not_mem_nil, or_false] at known
  rcases known with rfl | rfl | rfl <;> simp [hexOfByte_eq, digit]

theorem hexOfByte_append_inj {octet other : UInt8} {rest others : List Char}
    (same : hexOfByte octet ++ rest = hexOfByte other ++ others) :
    octet = other ∧ rest = others := by
  rcases List.append_inj same (by simp [hexOfByte_eq]) with ⟨groups, rests⟩
  exact ⟨hexOfByte_inj groups, rests⟩

theorem spaced_inj {first other : UInt8} {rest others : List (List Char × UInt8)}
    (known : ∀ part ∈ rest, part.1 ∈ separators) (otherKnown : ∀ part ∈ others, part.1 ∈ separators)
    (same : spaced first rest = spaced other others) : first = other ∧ rest = others := by
  induction rest generalizing first other others with
  | nil =>
    rcases hexOfByte_append_inj same with ⟨firsts, ends⟩
    cases others with
    | nil => exact ⟨firsts, rfl⟩
    | cons part others => simp [hexOfByte_eq] at ends
  | cons part rest induction =>
    rcases hexOfByte_append_inj same with ⟨firsts, ends⟩
    cases others with
    | nil => simp [hexOfByte_eq] at ends
    | cons otherPart others =>
      rcases part with ⟨gap, octet⟩
      rcases otherPart with ⟨otherGap, otherOctet⟩
      simp only [List.flatMap_cons, List.append_assoc] at ends
      have gaps := congrArg
        (List.takeWhile fun character => character = ':' || character = '-') ends
      rw [takeWhile_gap (known _ List.mem_cons_self),
        takeWhile_gap (otherKnown _ List.mem_cons_self)] at gaps
      subst gaps
      have later := induction (fun part member => known part (List.mem_cons_of_mem _ member))
        (fun part member => otherKnown part (List.mem_cons_of_mem _ member))
        (List.append_cancel_left ends)
      rw [firsts, later.1, later.2]
      exact ⟨rfl, rfl⟩

theorem exists_spaced (separator : List Char) (address : MacAddress) :
    ∃ first rest, rest.length = 5 ∧ address.octets = first :: rest ∧
      address.joined separator = spaced first (rest.map fun octet => (separator, octet)) := by
  rcases address with ⟨octets, length⟩
  cases octets with
  | nil => cases length
  | cons first rest =>
    exact ⟨first, rest, Nat.succ.inj length, rfl, joined_eq_spaced separator first rest⟩

/-! ## Texts that match -/

theorem contains_digits_iff :
    Ranges.contains [(0x30, 0x39), (0x61, 0x66)] character = true ↔
      ∃ digit < 16, character = hexDigit digit := by
  constructor
  · intro inside
    have value : (0x30 ≤ character.toNat ∧ character.toNat ≤ 0x39) ∨
        (0x61 ≤ character.toNat ∧ character.toNat ≤ 0x66) := by
      simpa [Ranges.contains] using inside
    rcases value with figure | letter
    · refine ⟨character.toNat - 0x30, by omega, ?_⟩
      rw [hexDigit, if_pos (by omega), Nat.add_sub_cancel' figure.1, Char.ofNat_toNat]
    · refine ⟨character.toNat - 0x57, by omega, ?_⟩
      rw [hexDigit, if_neg (by omega), Nat.add_sub_cancel' (by omega), Char.ofNat_toNat]
  · rintro ⟨digit, small, rfl⟩
    revert digit
    decide

theorem mem_run_octetPattern :
    after ∈ octetPattern.run before ↔
      ∃ octet, hexOfByte octet <+: before.rest ∧ after = before.advance (hexOfByte octet) := by
  simp only [octetPattern, Pattern.mem_run_times_succ, Pattern.mem_run_times_zero,
    Pattern.mem_run_oneOf, contains_digits_iff, exists_eq_left]
  constructor
  · rintro ⟨_, ⟨_, ⟨high, highSmall, rfl⟩, first, rfl⟩, _, ⟨low, lowSmall, rfl⟩, second, rfl⟩
    let octet := UInt8.ofNat (16 * high + low)
    have group : [hexDigit high] ++ [hexDigit low] = hexOfByte octet := by
      refine isGroupOf_iff.mp ⟨high, highSmall, low, lowSmall, rfl, ?_⟩
      rw [UInt8.toNat_ofNat']
      exact Nat.mod_eq_of_lt (by omega)
    refine ⟨octet, ?_, ?_⟩
    · exact group ▸ Matching.prefix_append_iff.mpr ⟨first, second⟩
    · rw [Matching.advance_advance, group]
  · rintro ⟨octet, ahead, rfl⟩
    rcases isGroupOf_iff.mpr rfl with ⟨high, highSmall, low, lowSmall, group, _⟩
    have both := @Matching.prefix_append_iff before [hexDigit high] [hexDigit low]
    rw [group] at ahead ⊢
    rcases both.mp ahead with ⟨first, second⟩
    refine ⟨_, ⟨_, ⟨high, highSmall, rfl⟩, first, rfl⟩, _, ⟨low, lowSmall, rfl⟩, second, ?_⟩
    rw [Matching.advance_advance]
    rfl

theorem contains_marks_iff :
    Ranges.contains [(0x3A, 0x3A), (0x2D, 0x2D)] character = true ↔
      character = ':' ∨ character = '-' := by
  have value : Ranges.contains [(0x3A, 0x3A), (0x2D, 0x2D)] character = true ↔
      character.toNat = 0x3A ∨ character.toNat = 0x2D := by
    simp only [Ranges.contains, List.any_cons, List.any_nil, Bool.or_false, Bool.or_eq_true,
      Bool.and_eq_true, decide_eq_true_eq]
    omega
  have colon : character = ':' ↔ character.toNat = 0x3A := Char.toNat_inj.symm
  have hyphen : character = '-' ↔ character.toNat = 0x2D := Char.toNat_inj.symm
  rw [value, colon, hyphen]

theorem mem_run_separatorPattern :
    after ∈ separatorPattern.run before ↔
      ∃ separator ∈ separators, separator <+: before.rest ∧
        after = (before.advance separator).hold 1 separator := by
  have gap {inner : Matching} :
      inner ∈ (Pattern.optional (.oneOf [(0x3A, 0x3A), (0x2D, 0x2D)])).run before ↔
        ∃ separator ∈ separators, separator <+: before.rest ∧ inner = before.advance separator := by
    rw [Pattern.mem_run_optional, Pattern.mem_run_oneOf]
    simp only [contains_marks_iff, separators, List.mem_cons, List.not_mem_nil, or_false,
      exists_eq_or_imp, exists_eq_left, List.nil_prefix, true_and, Matching.advance_nil]
    exact or_comm
  simp only [separatorPattern, Pattern.mem_run_group, gap]
  constructor
  · rintro ⟨_, ⟨separator, known, ahead, rfl⟩, read, passes, rfl⟩
    have same := List.append_cancel_left passes.front
    exact ⟨separator, known, ahead, by rw [same]⟩
  · rintro ⟨separator, known, ahead, rfl⟩
    exact ⟨_, ⟨separator, known, ahead, rfl⟩, separator, Matching.passes_advance ahead, rfl⟩

theorem mem_run_laterPattern (holds : before.groups.lookup 1 = some separator) :
    after ∈ laterPattern.run before ↔
      ∃ octet, separator ++ hexOfByte octet <+: before.rest ∧
        after = (before.advance (separator ++ hexOfByte octet)).hold 2
          (separator ++ hexOfByte octet) := by
  simp only [laterPattern, Pattern.mem_run_group, Pattern.mem_run_andThen,
    Pattern.mem_run_sameAs holds, mem_run_octetPattern]
  constructor
  · rintro ⟨_, ⟨_, ⟨gap, rfl⟩, octet, group, rfl⟩, read, passes, rfl⟩
    rw [Matching.advance_advance] at passes ⊢
    have same := List.append_cancel_left passes.front
    exact ⟨octet, Matching.prefix_append_iff.mpr ⟨gap, group⟩, by rw [same]⟩
  · rintro ⟨octet, ahead, rfl⟩
    rcases Matching.prefix_append_iff.mp ahead with ⟨gap, group⟩
    refine ⟨_, ⟨_, ⟨gap, rfl⟩, octet, group, rfl⟩, separator ++ hexOfByte octet, ?_, ?_⟩
    · rw [Matching.advance_advance]
      exact Matching.passes_advance ahead
    · rw [Matching.advance_advance]

def behind (separator : List Char) (octets : List UInt8) : List Char :=
  octets.flatMap fun octet => separator ++ hexOfByte octet

theorem behind_concat (separator : List Char) (octets : List UInt8) (octet : UInt8) :
    behind separator (octets ++ [octet]) =
      behind separator octets ++ (separator ++ hexOfByte octet) := by
  rw [behind, List.flatMap_append, List.flatMap_singleton]
  rfl

/-- Every turn reads one octet behind what the first group holds, which no turn changes. -/
theorem exists_of_mem_run_times {count : Nat} (holds : before.groups.lookup 1 = some separator)
    (matched : after ∈ (Pattern.times count laterPattern).run before) :
    ∃ octets, octets.length = count ∧ before.Passes (behind separator octets) after ∧
      after.groups.lookup 1 = some separator := by
  induction count generalizing after with
  | zero => exact ⟨[], rfl, Pattern.mem_run_times_zero.mp matched ▸ .refl before,
      Pattern.mem_run_times_zero.mp matched ▸ holds⟩
  | succ count induction =>
    rcases Pattern.mem_run_times_succ.mp matched with ⟨middle, reached, matched⟩
    rcases induction reached with ⟨octets, length, passes, held⟩
    rcases (mem_run_laterPattern held).mp matched with ⟨octet, ahead, rfl⟩
    refine ⟨octets ++ [octet], by simp [length], ?_, held⟩
    rw [behind_concat]
    exact passes.trans ((Matching.passes_advance ahead).hold 2 _)

theorem exists_mem_run_times (holds : before.groups.lookup 1 = some separator)
    (ahead : behind separator octets <+: before.rest) :
    ∃ after ∈ (Pattern.times octets.length laterPattern).run before,
      before.Passes (behind separator octets) after ∧
        after.groups.lookup 1 = some separator := by
  induction octets using List.reverseRecOn with
  | nil => exact ⟨before, Pattern.mem_run_times_zero.mpr rfl, .refl before, holds⟩
  | append_singleton octets octet induction =>
    rw [behind_concat] at ahead
    rcases Matching.prefix_append_iff.mp ahead with ⟨earlier, last⟩
    rcases induction earlier with ⟨middle, reached, passes, held⟩
    have same : middle.rest = (before.advance (behind separator octets)).rest := by
      rw [Matching.advance, passes.rest, List.drop_left]
    rw [← same] at last
    let gap := separator ++ hexOfByte octet
    have turn := (mem_run_laterPattern held).mpr ⟨octet, last, rfl⟩
    refine ⟨(middle.advance gap).hold 2 gap, ?_, ?_, held⟩
    · rw [List.length_append]
      exact Pattern.mem_run_times_succ.mpr ⟨middle, reached, turn⟩
    · rw [behind_concat]
      exact passes.trans ((Matching.passes_advance last).hold 2 gap)

theorem joined_eq_behind (separator : List Char) (first second : UInt8) (octets : List UInt8) :
    separator.intercalate ((first :: second :: octets).map hexOfByte) =
      hexOfByte first ++ (separator ++ (hexOfByte second ++ behind separator octets)) := by
  rw [joined_eq_spaced, spaced, List.flatMap_map, List.flatMap_cons, List.append_assoc]
  rfl

theorem exists_octets (address : MacAddress) :
    ∃ first second octets, octets.length = 4 ∧ address.octets = first :: second :: octets := by
  rcases address with ⟨octets, length⟩
  match octets with
  | first :: second :: octets => exact ⟨first, second, octets, by simpa using length, rfl⟩

theorem exists_of_isMatchedBy (matched : pattern.isMatchedBy text = true) :
    ∃ address : MacAddress, ∃ separator ∈ separators,
      text = address.joined separator ∨ text = address.joined separator ++ ['\n'] := by
  rcases Pattern.isMatchedBy_iff.mp matched with ⟨after, matched⟩
  simp only [pattern, Pattern.mem_run_andThen] at matched
  rcases matched with ⟨_, atStart, _, atFirst, _, atGap, _, atSecond, last, atLater, atEnd⟩
  rcases Pattern.mem_run_start.mp atStart with ⟨_, rfl⟩
  rcases mem_run_octetPattern.mp atFirst with ⟨first, aheadFirst, rfl⟩
  rcases mem_run_separatorPattern.mp atGap with ⟨separator, known, aheadGap, rfl⟩
  rcases mem_run_octetPattern.mp atSecond with ⟨second, aheadSecond, rfl⟩
  rcases exists_of_mem_run_times rfl atLater with ⟨octets, length, later, _⟩
  rcases Pattern.mem_run_finish.mp atEnd with ⟨ending, rfl⟩
  let address : MacAddress := ⟨first :: second :: octets, by simp [length]⟩
  have gap := (Matching.passes_advance aheadGap).hold 1 separator
  have row := (Matching.passes_advance aheadFirst).trans <| gap.trans <|
    (Matching.passes_advance aheadSecond).trans later
  have whole := row.rest
  rw [← joined_eq_behind] at whole
  refine ⟨address, separator, known, ?_⟩
  rcases ending with nothing | newline
  · rw [nothing, List.append_nil] at whole
    exact .inl whole
  · rw [newline] at whole
    exact .inr whole

theorem isMatchedBy_joined (known : separator ∈ separators) :
    pattern.isMatchedBy (address.joined separator) = true := by
  rcases exists_octets address with ⟨first, second, octets, length, same⟩
  let start : Matching := { front := [], rest := address.joined separator }
  let atFirst := start.advance (hexOfByte first)
  let atGap := (atFirst.advance separator).hold 1 separator
  let atSecond := atGap.advance (hexOfByte second)
  have ahead : hexOfByte first ++ (separator ++ (hexOfByte second ++ behind separator octets)) <+:
      start.rest := by
    rw [← joined_eq_behind, ← same]
    exact List.prefix_rfl
  rcases Matching.prefix_append_iff.mp ahead with ⟨aheadFirst, ahead⟩
  rcases Matching.prefix_append_iff.mp ahead with ⟨aheadGap, ahead⟩
  have aheadSecond : hexOfByte second ++ behind separator octets <+: atGap.rest := ahead
  rcases Matching.prefix_append_iff.mp aheadSecond with ⟨aheadSecond, aheadLater⟩
  have holds : atSecond.groups.lookup 1 = some separator := rfl
  rcases exists_mem_run_times holds aheadLater with ⟨after, reached, later, _⟩
  have gap := (Matching.passes_advance aheadGap).hold 1 separator
  have row := (Matching.passes_advance aheadFirst).trans <| gap.trans <|
    (Matching.passes_advance aheadSecond).trans later
  have ends : after.rest = [] := by
    have whole := row.rest
    rw [← joined_eq_behind, ← same] at whole
    exact List.self_eq_append_right.mp whole
  refine Pattern.isMatchedBy_iff.mpr ⟨after, ?_⟩
  simp only [pattern, Pattern.mem_run_andThen]
  refine ⟨start, Pattern.mem_run_start.mpr ⟨rfl, rfl⟩,
    atFirst, mem_run_octetPattern.mpr ⟨first, aheadFirst, rfl⟩,
    atGap, mem_run_separatorPattern.mpr ⟨separator, known, aheadGap, rfl⟩,
    atSecond, mem_run_octetPattern.mpr ⟨second, aheadSecond, rfl⟩,
    after, ?_, Pattern.mem_run_finish.mpr ⟨.inl ends, rfl⟩⟩
  rw [← length]
  exact reached

/-! ## Reading a text -/

theorem digitsOf_append (front back : List Char) :
    digitsOf (front ++ back) = digitsOf front ++ digitsOf back := by
  rw [digitsOf, List.filter_append, List.filter_append]
  rfl

theorem digitsOf_hexOfByte (octet : UInt8) : digitsOf (hexOfByte octet) = hexOfByte octet := by
  have digits : ∀ digit < 16, hexDigit digit ≠ ':' ∧ hexDigit digit ≠ '-' := by
    decide
  have high := digits (octet.toNat / 16 % 16) (Nat.mod_lt _ (by omega))
  have low := digits (octet.toNat % 16) (Nat.mod_lt _ (by omega))
  simp [digitsOf, hexOfByte_eq, high, low]

theorem digitsOf_intercalate (known : separator ∈ separators) (octets : List UInt8) :
    digitsOf (separator.intercalate (octets.map hexOfByte)) = hexOfBytes octets := by
  have dropped : digitsOf separator = [] := by
    simp only [separators, List.mem_cons, List.not_mem_nil, or_false] at known
    rcases known with rfl | rfl | rfl <;> rfl
  cases octets with
  | nil => rfl
  | cons first rest =>
    induction rest generalizing first with
    | nil => simp [hexOfBytes, digitsOf_hexOfByte]
    | cons second others induction =>
      rw [List.map_cons, List.map_cons, List.intercalate_cons_cons, digitsOf_append,
        digitsOf_append, dropped, ← List.map_cons, induction, digitsOf_hexOfByte, List.append_nil]
      rfl

theorem ofBytes_octets (address : MacAddress) : ofBytes address.octets = .ok address := by
  rw [ofBytes, ofOctets?, dif_pos address.length_octets]

theorem ofText_of_joined {text : String} (known : separator ∈ separators)
    (written : lower (trim text.toList) = address.joined separator) :
    ofText text = .ok address := by
  have digits : digitsOf (address.joined separator) = hexOfBytes address.octets :=
    digitsOf_intercalate known address.octets
  simp only [ofText, written, isMatchedBy_joined known, if_true, digits, bytesOfHex?_hexOfBytes,
    ofBytes_octets]

theorem ofText_of_mismatch {text : String}
    (mismatch : ¬pattern.isMatchedBy (lower (trim text.toList)) = true) :
    ofText text = .error (.malformed text) := by
  simp only [ofText, mismatch]
  rfl

/-- No trimmed text ends with a line feed, so the end of a match is the end of the text. -/
theorem exists_joined_of_isMatchedBy (matched : pattern.isMatchedBy (lower (trim text)) = true) :
    ∃ address : MacAddress, ∃ separator ∈ separators,
      lower (trim text) = address.joined separator := by
  rcases exists_of_isMatchedBy matched with ⟨address, separator, known, whole | newline⟩
  · exact ⟨address, separator, known, whole⟩
  · have last := getLast?_lower_trim_ne text
    rw [newline, List.getLast?_concat] at last
    exact absurd rfl last

theorem ofText_eq_ok_iff {text : String} :
    ofText text = .ok address ↔
      ∃ separator ∈ separators, lower (trim text.toList) = address.joined separator := by
  constructor
  · intro read
    by_cases matched : pattern.isMatchedBy (lower (trim text.toList)) = true
    · rcases exists_joined_of_isMatchedBy matched with ⟨other, separator, known, written⟩
      rw [ofText_of_joined known written] at read
      cases read
      exact ⟨separator, known, written⟩
    · rw [ofText_of_mismatch matched] at read
      cases read
  · rintro ⟨separator, known, written⟩
    exact ofText_of_joined known written

theorem ofText_eq_ok_or_malformed (text : String) :
    (∃ address, ofText text = .ok address) ∨ ofText text = .error (.malformed text) := by
  by_cases matched : pattern.isMatchedBy (lower (trim text.toList)) = true
  · rcases exists_joined_of_isMatchedBy matched with ⟨address, separator, known, written⟩
    exact .inl ⟨address, ofText_of_joined known written⟩
  · exact .inr (ofText_of_mismatch matched)

theorem isFolded_of_mem_joined (known : separator ∈ separators)
    (member : character ∈ address.joined separator) : IsFolded character := by
  have digit {octet : UInt8} (inside : character ∈ hexOfByte octet) : IsFolded character := by
    rcases exists_of_mem_hexOfByte inside with ⟨digit, small, rfl⟩
    exact isFolded_hexDigit small
  have gap (inside : character ∈ separator) : IsFolded character := by
    have mark : character = ':' ∨ character = '-' := by
      simp only [separators, List.mem_cons, List.not_mem_nil, or_false] at known
      rcases known with rfl | rfl | rfl
      · cases inside
      · exact .inl (List.mem_singleton.mp inside)
      · exact .inr (List.mem_singleton.mp inside)
    rcases mark with rfl | rfl <;> exact ⟨by decide, by decide, by decide⟩
  rcases exists_spaced separator address with ⟨first, rest, _, _, written⟩
  rw [written, spaced, List.mem_append, List.mem_flatMap] at member
  rcases member with inside | ⟨part, within, inside⟩
  · exact digit inside
  · rcases List.mem_map.mp within with ⟨octet, _, rfl⟩
    exact (List.mem_append.mp inside).elim gap digit

theorem ofText_append {front body back : List Char} (known : separator ∈ separators)
    (blankFront : ∀ character ∈ front, isBlank character = true)
    (blankBack : ∀ character ∈ back, isBlank character = true)
    (written : body.map Char.toLower = address.joined separator) :
    ofText (String.ofList (front ++ body ++ back)) = .ok address := by
  have folded : ∀ character ∈ body, IsFolded character.toLower := fun character member =>
    isFolded_of_mem_joined known (written ▸ List.mem_map_of_mem member)
  refine ofText_eq_ok_iff.mpr ⟨separator, known, ?_⟩
  rw [String.toList_ofList, lower_trim_append blankFront blankBack folded, written]

theorem ofText_text (address : MacAddress) : ofText address.text = .ok address := by
  have known : [':'] ∈ separators := by
    simp [separators]
  refine ofText_eq_ok_iff.mpr ⟨[':'], known, ?_⟩
  rw [text, String.toList_ofList]
  exact lower_trim_eq_self fun character member => isFolded_of_mem_joined known member

theorem text_ne_empty (address : MacAddress) : address.text ≠ "" := by
  intro empty
  have read := ofText_text address
  rw [empty] at read
  have unread : (ofText "").toOption = none := by
    decide +kernel
  rw [read] at unread
  exact Option.some_ne_none address unread

theorem exists_ofText_iff_of_spaced {text : String} {first : UInt8}
    {rest : List (List Char × UInt8)} (known : ∀ part ∈ rest, part.1 ∈ separators)
    (written : lower (trim text.toList) = spaced first rest) :
    (∃ address, ofText text = .ok address) ↔
      rest.length = 5 ∧ ∃ separator, ∀ part ∈ rest, part.1 = separator := by
  constructor
  · rintro ⟨address, read⟩
    rcases ofText_eq_ok_iff.mp read with ⟨separator, separates, joined⟩
    rcases exists_spaced separator address with ⟨other, octets, length, _, spells⟩
    rw [written, spells] at joined
    rcases spaced_inj known (by simp [separates]) joined with ⟨_, rfl⟩
    exact ⟨(List.length_map _).trans length, separator, by simp⟩
  · rintro ⟨length, separator, same⟩
    let address : MacAddress := ⟨first :: rest.map Prod.snd, by simp [length]⟩
    have separates : separator ∈ separators := by
      cases rest with
      | nil => cases length
      | cons part others =>
        rw [← same part List.mem_cons_self]
        exact known part List.mem_cons_self
    have parts : (rest.map Prod.snd).map (fun octet => (separator, octet)) = rest := by
      rw [List.map_map]
      exact (List.map_congr_left fun part member => by rw [← same part member]; rfl).trans
        (List.map_id rest)
    refine ⟨address, ofText_eq_ok_iff.mpr ⟨separator, separates, ?_⟩⟩
    rw [written, joined, joined_eq_spaced, parts]

/-- A text is read exactly if, without blanks at its ends and in lower case, it is six groups
of two hexadecimal digits with one of the three separators between each two, and the octets
are the values of the groups; any other text is refused. So a written address reads back, in
whatever case, between whatever blanks and with whatever separator, as long as it is the same
throughout. -/
theorem read_as_spelled (text : String) (address : MacAddress) :
    (ofText text = .ok address ↔
        ∃ separator ∈ separators, Spells separator (lower (trim text.toList)) address) ∧
      ((∃ read, ofText text = .ok read) ∨ ofText text = .error (.malformed text)) ∧
      ofText address.text = .ok address ∧
      (∀ separator ∈ separators, ∀ front body back : List Char,
        (∀ character ∈ front, isBlank character = true) →
        (∀ character ∈ back, isBlank character = true) →
        body.map Char.toLower = address.joined separator →
        ofText (String.ofList (front ++ body ++ back)) = .ok address) ∧
      ∀ (first : UInt8) (rest : List (List Char × UInt8)),
        (∀ part ∈ rest, part.1 ∈ separators) → lower (trim text.toList) = spaced first rest →
        ((∃ read, ofText text = .ok read) ↔
          rest.length = 5 ∧ ∃ separator, ∀ part ∈ rest, part.1 = separator) := by
  refine ⟨?_, ?_, address.ofText_text, ?_, ?_⟩
  · simp only [spells_iff]
    exact ofText_eq_ok_iff
  · exact ofText_eq_ok_or_malformed text
  · intro separator known front body back blankFront blankBack written
    exact ofText_append known blankFront blankBack written
  · intro first rest known written
    exact exists_ofText_iff_of_spaced known written

end Hotspot.MacAddress
