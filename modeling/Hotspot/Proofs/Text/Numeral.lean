import Hotspot.Proofs.Text.Decimal
import Hotspot.Proofs.Text.Folding
import Hotspot.Text.Utf8
import Mathlib.Data.List.Forall2

/-! Which texts are numerals. A numeral is a row of digits, with a low line between some of
them, behind a sign, if there is one, and with white space around. A text is read as an integer
exactly if it is a numeral for it, and the decimal notation of an integer is such a numeral. -/

namespace Hotspot.Text

variable {zeros : List Nat} {value? : Char → Option Nat} {drops : Char → Bool}
  {character : Char} {digit : Nat} {text front sign body back : List Char} {digits : List Nat}
  {negative : Bool} {number : Int}

def IsDigit (zeros : List Nat) (character : Char) (digit : Nat) : Prop :=
  digit < 10 ∧ ∃ start ∈ zeros, character.toNat = start + digit

def IsGrouped (zeros : List Nat) (text : List Char) (digits : List Nat) : Prop :=
  ∃ groups values, text = ['_'].intercalate groups ∧ digits = values.flatten ∧ groups ≠ [] ∧
    List.Forall₂ (fun group value => group ≠ [] ∧ List.Forall₂ (IsDigit zeros) group value)
      groups values

inductive IsSign : List Char → Bool → Prop
  | missing : IsSign [] false
  | plus : IsSign ['+'] false
  | minus : IsSign ['-'] true

/-- The text is a numeral for the integer, in digits of the scripts with these zeros. -/
inductive IsNumeral (zeros : List Nat) (drops : Char → Bool) : List Char → Int → Prop
  | around {front sign body back : List Char} {negative : Bool} {digits : List Nat} :
      (∀ character ∈ front, drops character = true) → IsSign sign negative →
      IsGrouped zeros body digits → (∀ character ∈ back, drops character = true) →
      IsNumeral zeros drops (front ++ (sign ++ body) ++ back)
        (withSign negative (ofDigits digits))

/-- What reads the digits of these scripts and passes over white space. The low line and the
signs are neither. -/
structure ReadsDigits (zeros : List Nat) (value? : Char → Option Nat) (drops : Char → Bool) :
    Prop where
  reads : ∀ character digit, value? character = some digit ↔ IsDigit zeros character digit
  kept : ∀ character digit, IsDigit zeros character digit → drops character = false
  marks : ∀ mark, mark = '_' ∨ mark = '+' ∨ mark = '-' →
    drops mark = false ∧ ∀ digit, ¬IsDigit zeros mark digit

/-! ## Digits -/

theorem findSome?_zero_eq_some_iff (apart : zeros.Pairwise fun start next => start + 10 ≤ next) :
    (zeros.findSome? fun start =>
        if start ≤ character.toNat ∧ character.toNat < start + 10 then
          some (character.toNat - start)
        else none) = some digit ↔
      IsDigit zeros character digit := by
  induction zeros with
  | nil => simp [IsDigit]
  | cons start rest induction =>
    rw [List.pairwise_cons] at apart
    rw [List.findSome?_cons]
    split
    · rename_i found inside
      split at inside
      · rename_i block
        cases inside
        constructor
        · intro same
          cases same
          exact ⟨by omega, start, List.mem_cons_self, by omega⟩
        · rintro ⟨small, other, member, spelled⟩
          rcases List.mem_cons.mp member with rfl | later
          · exact congrArg some (by omega)
          · have behind := apart.1 other later
            omega
      · cases inside
    · rename_i outside
      rw [induction apart.2]
      constructor
      · rintro ⟨small, other, member, spelled⟩
        exact ⟨small, other, List.mem_cons_of_mem start member, spelled⟩
      · rintro ⟨small, other, member, spelled⟩
        rcases List.mem_cons.mp member with rfl | later
        · rw [if_pos (by omega)] at outside
          cases outside
        · exact ⟨small, other, later, spelled⟩

theorem digitValue?_eq_some_iff :
    digitValue? character = some digit ↔ IsDigit decimalZeros character digit :=
  findSome?_zero_eq_some_iff (by decide +kernel)

theorem asciiDigitValue?_eq_some_iff :
    asciiDigitValue? character = some digit ↔ IsDigit [0x30] character digit := by
  unfold asciiDigitValue?
  split
  · rename_i range
    constructor
    · intro same
      cases same
      exact ⟨by omega, 0x30, List.mem_singleton_self _, by omega⟩
    · rintro ⟨small, start, member, spelled⟩
      rw [List.mem_singleton.mp member] at spelled
      exact congrArg some (by omega)
  · rename_i outside
    refine iff_of_false nofun ?_
    rintro ⟨small, start, member, spelled⟩
    rw [List.mem_singleton.mp member] at spelled
    omega

theorem contains_eq_false_of_isDigit {ranges : Ranges}
    (apart : zeros.all (fun start =>
      ranges.all fun range => start + 9 < range.1 || range.2 < start) = true)
    (spelled : IsDigit zeros character digit) : ranges.contains character = false := by
  rcases spelled with ⟨small, start, member, spelled⟩
  rw [Bool.eq_false_iff, Ne, Ranges.contains_iff]
  rintro ⟨range, inside, least, most⟩
  have distant := List.all_eq_true.mp (List.all_eq_true.mp apart start member) range inside
  rw [Bool.or_eq_true, decide_eq_true_iff, decide_eq_true_iff] at distant
  omega

theorem not_isDigit_of_all
    (apart : zeros.all (fun start =>
      decide (start + 9 < character.toNat) || decide (character.toNat < start)) = true) :
    ¬IsDigit zeros character digit := by
  rintro ⟨small, start, member, spelled⟩
  have distant := List.all_eq_true.mp apart start member
  rw [Bool.or_eq_true, decide_eq_true_iff, decide_eq_true_iff] at distant
  omega

theorem readsDigits_ofText : ReadsDigits decimalZeros digitValue? isSpace where
  reads _ _ := digitValue?_eq_some_iff
  kept _ _ := contains_eq_false_of_isDigit (by decide +kernel)
  marks := by
    rintro mark (rfl | rfl | rfl) <;>
      exact ⟨by decide, fun digit => not_isDigit_of_all (by decide +kernel)⟩

theorem readsDigits_ofBytes : ReadsDigits [0x30] asciiDigitValue? isAsciiSpace where
  reads _ _ := asciiDigitValue?_eq_some_iff
  kept _ _ := contains_eq_false_of_isDigit (by decide)
  marks := by
    rintro mark (rfl | rfl | rfl) <;>
      exact ⟨by decide, fun digit => not_isDigit_of_all (by decide)⟩

/-! ## Groups -/

theorem mapM_eq_some_iff {given result : Type} {step : given → Option result}
    {row : List given} {results : List result} :
    row.mapM step = some results ↔
      List.Forall₂ (fun item result => step item = some result) row results := by
  induction row generalizing results with
  | nil =>
    rw [List.mapM_nil, List.forall₂_nil_left_iff]
    exact ⟨fun same => (Option.some.inj same).symm, fun same => congrArg some same.symm⟩
  | cons first rest induction =>
    rw [List.mapM_cons, List.forall₂_cons_left_iff]
    constructor
    · intro read
      rcases Option.bind_eq_some_iff.mp read with ⟨result, firstRead, read⟩
      rcases Option.bind_eq_some_iff.mp read with ⟨others, restRead, read⟩
      cases read
      exact ⟨result, others, firstRead, induction.mp restRead, rfl⟩
    · rintro ⟨result, others, firstRead, restRead, rfl⟩
      rw [firstRead, induction.mpr restRead]
      rfl

theorem exists_of_mem_of_forall₂ {item other : Type} {related : item → other → Prop}
    {row : List item} {others : List other} (each : List.Forall₂ related row others) {found : item}
    (member : found ∈ row) : ∃ partner, related found partner := by
  induction each with
  | nil => cases member
  | cons first _ induction =>
    rcases List.mem_cons.mp member with rfl | later
    · exact ⟨_, first⟩
    · exact induction later

theorem mem_of_mem_intercalate {separator : List Char} {groups : List (List Char)}
    (member : character ∈ separator.intercalate groups) :
    character ∈ separator ∨ ∃ group ∈ groups, character ∈ group := by
  induction groups with
  | nil => cases member
  | cons first rest induction =>
    cases rest with
    | nil =>
      rw [List.intercalate_singleton] at member
      exact .inr ⟨first, List.mem_cons_self, member⟩
    | cons second others =>
      rw [List.intercalate_cons_cons, List.mem_append, List.mem_append] at member
      rcases member with (inside | between) | later
      · exact .inr ⟨first, List.mem_cons_self, inside⟩
      · exact .inl between
      · rcases induction later with between | ⟨group, listed, inside⟩
        · exact .inl between
        · exact .inr ⟨group, List.mem_cons_of_mem first listed, inside⟩

theorem digitGroup?_eq_some_iff (rules : ReadsDigits zeros value? drops) {group : List Char} :
    digitGroup? value? group = some digits ↔
      group ≠ [] ∧ List.Forall₂ (IsDigit zeros) group digits := by
  unfold digitGroup?
  split
  · rename_i empty
    exact iff_of_false nofun fun filled => filled.1 (List.isEmpty_iff.mp empty)
  · rename_i filled
    have nonempty : group ≠ [] := fun empty => filled (List.isEmpty_iff.mpr empty)
    simp only [mapM_eq_some_iff, rules.reads, ne_eq, nonempty, not_false_eq_true, true_and]

theorem groupedDigits?_eq_some_iff (rules : ReadsDigits zeros value? drops) :
    groupedDigits? value? text = some digits ↔ IsGrouped zeros text digits := by
  constructor
  · intro read
    rcases Option.bind_eq_some_iff.mp read with ⟨values, groups, flat⟩
    refine ⟨text.splitOn '_', values, (List.intercalate_splitOn '_').symm,
      (Option.some.inj flat).symm, List.splitOn_ne_nil '_' text, ?_⟩
    simpa only [mapM_eq_some_iff, digitGroup?_eq_some_iff rules] using groups
  · rintro ⟨groups, values, rfl, rfl, nonempty, spelled⟩
    have noMark : ∀ group ∈ groups, '_' ∉ group := by
      intro group listed inside
      rcases exists_of_mem_of_forall₂ spelled listed with ⟨value, _, each⟩
      rcases exists_of_mem_of_forall₂ each inside with ⟨digit, spelled⟩
      exact (rules.marks '_' (.inl rfl)).2 digit spelled
    have read : groups.mapM (digitGroup? value?) = some values := by
      simpa only [mapM_eq_some_iff, digitGroup?_eq_some_iff rules] using spelled
    rw [groupedDigits?, List.splitOn_intercalate '_' noMark nonempty, read]
    rfl

theorem IsGrouped.eq_mark_or_isDigit (grouped : IsGrouped zeros body digits)
    (member : character ∈ body) : character = '_' ∨ ∃ digit, IsDigit zeros character digit := by
  rcases grouped with ⟨groups, values, rfl, _, _, spelled⟩
  rcases mem_of_mem_intercalate member with between | ⟨group, listed, inside⟩
  · exact .inl (List.mem_singleton.mp between)
  · rcases exists_of_mem_of_forall₂ spelled listed with ⟨value, _, each⟩
    exact .inr (exists_of_mem_of_forall₂ each inside)

theorem IsGrouped.drops_eq_false (rules : ReadsDigits zeros value? drops)
    (grouped : IsGrouped zeros body digits) (member : character ∈ body) :
    drops character = false := by
  rcases grouped.eq_mark_or_isDigit member with rfl | ⟨digit, spelled⟩
  · exact (rules.marks '_' (.inl rfl)).1
  · exact rules.kept character digit spelled

theorem IsSign.drops_eq_false (rules : ReadsDigits zeros value? drops)
    (signed : IsSign sign negative) (member : character ∈ sign) : drops character = false := by
  cases signed with
  | missing => cases member
  | plus => exact (rules.marks character (.inr (.inl (List.mem_singleton.mp member)))).1
  | minus => exact (rules.marks character (.inr (.inr (List.mem_singleton.mp member)))).1

/-! ## Numerals -/

theorem splitSign_eq (text : List Char) :
    ∃ sign, IsSign sign (splitSign text).1 ∧ text = sign ++ (splitSign text).2 := by
  unfold splitSign
  split
  · exact ⟨_, .minus, rfl⟩
  · exact ⟨_, .plus, rfl⟩
  · exact ⟨_, .missing, rfl⟩

theorem splitSign_append (rules : ReadsDigits zeros value? drops)
    (signed : IsSign sign negative) (grouped : IsGrouped zeros body digits) :
    splitSign (sign ++ body) = (negative, body) := by
  cases signed with
  | plus => rfl
  | minus => rfl
  | missing =>
    have noSign (mark : Char) (known : mark = '+' ∨ mark = '-') (rest : List Char) :
        body ≠ mark :: rest := by
      rintro rfl
      rcases grouped.eq_mark_or_isDigit List.mem_cons_self with rfl | ⟨digit, spelled⟩
      · rcases known with same | same <;> cases same
      · exact (rules.marks mark (.inr known)).2 digit spelled
    rw [List.nil_append]
    unfold splitSign
    split
    · rename_i rest
      exact absurd rfl (noSign '-' (.inr rfl) rest)
    · rename_i rest
      exact absurd rfl (noSign '+' (.inl rfl) rest)
    · rfl

/-- What is left of a text without white space is read as an integer exactly if the text is a
numeral for it. -/
theorem signedDigits?_trimWhere_eq_some_iff (rules : ReadsDigits zeros value? drops) :
    signedDigits? value? (trimWhere drops text) = some number ↔
      IsNumeral zeros drops text number := by
  constructor
  · intro read
    rcases exists_trimWhere drops text with ⟨front, back, whole, blankFront, blankBack⟩
    rcases splitSign_eq (trimWhere drops text) with ⟨sign, signed, parts⟩
    rcases Option.bind_eq_some_iff.mp read with ⟨digits, grouped, value⟩
    rw [whole, parts, ← Option.some.inj value]
    exact .around blankFront signed ((groupedDigits?_eq_some_iff rules).mp grouped) blankBack
  · rintro ⟨blankFront, signed, grouped, blankBack⟩
    rename_i front sign body back negative digits
    have kept : ∀ character ∈ sign ++ body, drops character = false := by
      intro character member
      rcases List.mem_append.mp member with inSign | inBody
      · exact signed.drops_eq_false rules inSign
      · exact grouped.drops_eq_false rules inBody
    rw [trimWhere_append blankFront blankBack kept, signedDigits?,
      splitSign_append rules signed grouped]
    simp only [(groupedDigits?_eq_some_iff rules).mpr grouped]
    rfl

theorem integer?_eq_some_iff :
    integer? text = some number ↔ IsNumeral decimalZeros isSpace text number :=
  signedDigits?_trimWhere_eq_some_iff readsDigits_ofText

theorem integerOfBytes?_eq_some_iff {bytes : List UInt8} :
    integerOfBytes? bytes = some number ↔
      IsNumeral [0x30] isAsciiSpace (bytes.map fun byte => Char.ofNat byte.toNat) number :=
  signedDigits?_trimWhere_eq_some_iff readsDigits_ofBytes

/-! ## Decimal notation -/

theorem forall₂_isDigit_decimal (ascii : 0x30 ∈ zeros) (magnitude : Nat) :
    List.Forall₂ (IsDigit zeros) (decimal magnitude) (Text.digits magnitude) := by
  have each : ∀ character ∈ decimal magnitude, (asciiDigitValue? character).isSome = true :=
    fun character member => isSome_asciiDigitValue? (isDigit_of_mem_decimal member)
  unfold Text.digits
  generalize decimal magnitude = row at each
  induction row with
  | nil => exact .nil
  | cons first rest induction =>
    rcases Option.isSome_iff_exists.mp (each first List.mem_cons_self) with ⟨digit, read⟩
    rcases asciiDigitValue?_eq_some_iff.mp read with ⟨small, start, member, spelled⟩
    rw [List.mem_singleton.mp member] at spelled
    rw [List.filterMap_cons_some read]
    exact .cons ⟨small, _, ascii, spelled⟩
      (induction fun other inside => each other (List.mem_cons_of_mem first inside))

theorem isGrouped_decimal (ascii : 0x30 ∈ zeros) (magnitude : Nat) :
    IsGrouped zeros (decimal magnitude) (Text.digits magnitude) := by
  have filled : decimal magnitude ≠ [] := by
    intro empty
    exact digits_ne_nil magnitude (by rw [Text.digits, empty]; rfl)
  refine ⟨[decimal magnitude], [Text.digits magnitude], List.intercalate_singleton.symm, ?_,
    List.cons_ne_nil _ _, .cons ⟨filled, forall₂_isDigit_decimal ascii magnitude⟩ .nil⟩
  rw [List.flatten_cons, List.flatten_nil, List.append_nil]

theorem isNumeral_signedDecimal (ascii : 0x30 ∈ zeros) (drops : Char → Bool) (number : Int) :
    IsNumeral zeros drops (signedDecimal number) number := by
  have grouped := isGrouped_decimal ascii number.natAbs
  have value := ofDigits_digits number.natAbs
  unfold signedDecimal
  split
  · rename_i below
    have spelled := @IsNumeral.around zeros drops [] _ _ [] _ _ (List.forall_mem_nil _) .minus
      grouped (List.forall_mem_nil _)
    have same : withSign true number.natAbs = number := by
      rw [withSign, if_pos rfl, Int.ofNat_natAbs_of_nonpos (Int.le_of_lt below), Int.neg_neg]
    rwa [value, same, List.append_nil] at spelled
  · rename_i natural
    have spelled := @IsNumeral.around zeros drops [] _ _ [] _ _ (List.forall_mem_nil _) .missing
      grouped (List.forall_mem_nil _)
    have same : withSign false number.natAbs = number :=
      Int.natAbs_of_nonneg (Int.not_lt.mp natural)
    rwa [value, same, List.append_nil] at spelled

theorem range_of_mem_signedDecimal (member : character ∈ signedDecimal number) :
    0x2D ≤ character.toNat ∧ character.toNat ≤ 0x39 := by
  rcases eq_minus_or_isDigit_of_mem_signedDecimal member with rfl | digit
  · decide
  · have range := range_of_isDigit digit
    omega

theorem ascii_of_mem_signedDecimal (member : character ∈ signedDecimal number) :
    character.toNat < 0x80 :=
  Nat.lt_of_le_of_lt (range_of_mem_signedDecimal member).2 (by decide)

theorem map_encodeUtf8_of_ascii (ascii : ∀ character ∈ text, character.toNat < 0x80) :
    (encodeUtf8 text).map (fun byte => Char.ofNat byte.toNat) = text := by
  induction text with
  | nil => rfl
  | cons first rest induction =>
    have small := ascii first List.mem_cons_self
    have later := induction fun other member => ascii other (List.mem_cons_of_mem first member)
    have byte : (UInt8.ofNat first.toNat).toNat = first.toNat := by
      rw [UInt8.toNat_ofNat']
      exact Nat.mod_eq_of_lt (by omega)
    rw [encodeUtf8, List.flatMap_cons, encodePoint, if_pos small, List.map_append,
      List.map_singleton, byte, Char.ofNat_toNat]
    exact congrArg (first :: ·) later

end Hotspot.Text
