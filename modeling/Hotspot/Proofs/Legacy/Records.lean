import Hotspot.Proofs.Legacy.Fields

/-! Legacy records as byte strings. Only texts and the switch of a record can be
spelled in more than one way, so a byte string that is read comes down to the
record and to its spelling, and what the writer writes is the record in one
spelling of its own. -/

namespace Hotspot.Legacy

/-! ## Spellings -/

/-- The bytes that stand for those fields of a record that have several forms: its
texts without their lengths, and its switch. -/
structure Spelling where
  ssid : List UInt8
  hidden : UInt8
  passphrase : List UInt8

namespace Spelling

/-- A record in this spelling, field by field. Which fields are there depends on
the version and on the authentication. -/
def bytes (spelling : Spelling) (record : Record) : List UInt8 :=
  numberBytes record.version ++ textBytes spelling.ssid ++
    (if 2 ≤ record.version then numberBytes record.band else []) ++
    (if 2 ≤ record.version then numberBytes record.channel else []) ++
    (if 3 ≤ record.version then [spelling.hidden] else []) ++
    numberBytes record.authType ++
    (if record.authType ≠ 0 then textBytes spelling.passphrase else [])

/-- The record has a known version, its fields are what they are spelled as, and
those that are not there have their usual values. -/
structure Spells (spelling : Spelling) (record : Record) : Prop where
  version : 1 ≤ record.version ∧ record.version ≤ 3
  ssid : SpellsText spelling.ssid record.ssid
  band : if 2 ≤ record.version then IsWord record.band else record.band = 0
  channel : if 2 ≤ record.version then IsWord record.channel else record.channel = 0
  hidden : record.hidden = if 3 ≤ record.version then decide (spelling.hidden ≠ 0) else false
  authType : IsWord record.authType
  passphrase :
    if record.authType ≠ 0 then
      ∃ text, record.passphrase = some text ∧ SpellsText spelling.passphrase text
    else record.passphrase = none

theorem Spells.exists_passphrase {spelling : Spelling} {record : Record}
    (spells : spelling.Spells record) (present : record.authType ≠ 0) :
    ∃ text, record.passphrase = some text ∧ SpellsText spelling.passphrase text := by
  have known := spells.passphrase
  rwa [if_pos present] at known

end Spelling

/-! ## Reading -/

theorem isWord_of_known {version : Int} (known : 1 ≤ version ∧ version ≤ 3) : IsWord version := by
  unfold IsWord
  omega

theorem ite_error_eq_ok_iff {error value : Type} {bad : Prop} [Decidable bad] {failure : error}
    {step : Except error value} {answer : value} :
    (if bad then .error failure else step) = .ok answer ↔ ¬bad ∧ step = .ok answer := by
  by_cases holds : bad <;> simp [holds]

theorem readRecord_eq_ok_iff {bytes rest : List UInt8} {record : Record} :
    readRecord bytes = .ok (record, rest) ↔
      ∃ spelling : Spelling, spelling.Spells record ∧ bytes = spelling.bytes record ++ rest := by
  -- Each step is opened before what follows it, so that its value stands in the rest.
  simp only [readRecord, ↓bind_eq_ok_iff, ite_error_eq_ok_iff, readInteger_eq_ok_iff,
    readText_eq_ok_iff, readNumberIf_eq_ok_iff, readSwitchIf_eq_ok_iff, readPassphrase_eq_ok_iff,
    decide_eq_true_eq]
  constructor
  · rintro ⟨version, _, ⟨_, rfl⟩, known, ssid, _, ⟨ssidBytes, ssidSpells, rfl⟩,
      band, _, ⟨bandWord, rfl⟩, channel, _, ⟨channelWord, rfl⟩, _, _, ⟨hiddenByte, rfl, rfl⟩,
      authType, _, ⟨authTypeWord, rfl⟩, passphrase, _, ⟨passphraseBytes, spells, rfl⟩, same⟩
    cases same
    refine ⟨⟨ssidBytes, hiddenByte, passphraseBytes⟩, ⟨?_, ssidSpells, bandWord, channelWord, rfl,
      authTypeWord, spells⟩, ?_⟩
    · dsimp only
      omega
    · simp only [Spelling.bytes, List.append_assoc]
  · rintro ⟨spelling, spells, rfl⟩
    have known := spells.version
    refine ⟨record.version, _, ⟨isWord_of_known known, ?_⟩, by omega, record.ssid, _,
      ⟨spelling.ssid, spells.ssid, rfl⟩, record.band, _, ⟨spells.band, rfl⟩, record.channel, _,
      ⟨spells.channel, rfl⟩, record.hidden, _, ⟨spelling.hidden, spells.hidden, rfl⟩,
      record.authType, _, ⟨spells.authType, rfl⟩, record.passphrase, rest,
      ⟨spelling.passphrase, spells.passphrase, rfl⟩, rfl⟩
    simp only [Spelling.bytes, List.append_assoc]

theorem head?_of_readRecord {bytes rest : List UInt8} {record : Record}
    (read : readRecord bytes = .ok (record, rest)) : bytes.head? = some 0 := by
  rcases readRecord_eq_ok_iff.mp read with ⟨spelling, spells, rfl⟩
  have versions : record.version = 1 ∨ record.version = 2 ∨ record.version = 3 := by
    have known := spells.version
    omega
  have front : (numberBytes record.version).head? = some 0 := by
    rcases versions with same | same | same <;> rw [same] <;> rfl
  simp [Spelling.bytes, front]

/-! ## Writing -/

namespace Record

def spelling (record : Record) : Spelling where
  ssid := Text.encodeModified record.ssid.toList
  hidden := if record.hidden then 1 else 0
  passphrase := Text.encodeModified (record.passphrase.getD "").toList

structure HasShortTexts (record : Record) : Prop where
  ssid : IsShort record.ssid
  passphrase : record.authType ≠ 0 → IsShort (record.passphrase.getD "")

structure HasWords (record : Record) : Prop where
  version : IsWord record.version
  band : 2 ≤ record.version → IsWord record.band
  channel : 2 ≤ record.version → IsWord record.channel
  authType : IsWord record.authType

end Record

theorem writeRecord_of_isShort {record : Record} (words : record.HasWords)
    (short : record.HasShortTexts) :
    writeRecord record = .ok (record.spelling.bytes record) := by
  have passphrase :
      writeIf (record.authType ≠ 0) (writeText (record.passphrase.getD "")) =
        .ok (if record.authType ≠ 0 then textBytes record.spelling.passphrase else []) := by
    by_cases present : record.authType ≠ 0
    · rw [if_pos present, decide_eq_true present]
      exact writeText_of_isShort (short.passphrase present)
    · rw [if_neg present, decide_eq_false present]
      rfl
  unfold writeRecord fieldForms
  rw [writeInteger_of_isWord words.version, writeText_of_isShort short.ssid,
    writeNumberIf (by simpa using words.band), writeNumberIf (by simpa using words.channel),
    writeSwitchIf, writeInteger_of_isWord words.authType, passphrase]
  simp [Spelling.bytes, Record.spelling, pure, Except.pure, bind, Except.bind]

theorem writeRecord_of_not_isShort {record : Record} (words : record.HasWords)
    (long : ¬record.HasShortTexts) :
    writeRecord record = .error .textTooLong := by
  unfold writeRecord fieldForms
  rw [writeInteger_of_isWord words.version]
  by_cases ssidShort : IsShort record.ssid
  · have ⟨present, passphraseLong⟩ :
        record.authType ≠ 0 ∧ ¬IsShort (record.passphrase.getD "") :=
      Classical.not_imp.mp fun passphraseShort => long ⟨ssidShort, passphraseShort⟩
    have passphrase :
        writeIf (record.authType ≠ 0) (writeText (record.passphrase.getD "")) =
          .error .textTooLong := by
      rw [decide_eq_true present]
      exact writeText_of_not_isShort passphraseLong
    rw [writeText_of_isShort ssidShort, writeNumberIf (by simpa using words.band),
      writeNumberIf (by simpa using words.channel), writeSwitchIf,
      writeInteger_of_isWord words.authType, passphrase]
    rfl
  · rw [writeText_of_not_isShort ssidShort]
    rfl

/-! ## A record through its binary form -/

/-- What is left of a record in its binary form, which has no place for the fields
of later versions and for the passphrase of an open network. -/
def Record.asRead (record : Record) : Record :=
  { record with
    band := if 2 ≤ record.version then record.band else 0
    channel := if 2 ≤ record.version then record.channel else 0
    hidden := if 3 ≤ record.version then record.hidden else false
    passphrase := if record.authType ≠ 0 then some (record.passphrase.getD "") else none }

theorem spelling_spells_asRead {record : Record}
    (known : 1 ≤ record.version ∧ record.version ≤ 3) (words : record.HasWords)
    (short : record.HasShortTexts) : record.spelling.Spells record.asRead where
  version := known
  ssid := spellsText_encodeModified short.ssid
  band := by
    by_cases there : 2 ≤ record.version <;> simp [Record.asRead, there, words.band]
  channel := by
    by_cases there : 2 ≤ record.version <;> simp [Record.asRead, there, words.channel]
  hidden := by
    by_cases hidden : record.hidden <;> simp [Record.asRead, Record.spelling, hidden]
  authType := words.authType
  passphrase := by
    by_cases present : record.authType ≠ 0
    · have spelled := spellsText_encodeModified (short.passphrase present)
      simpa [Record.asRead, Record.spelling, present] using spelled
    · simp [Record.asRead, present]

theorem bytes_asRead (spelling : Spelling) (record : Record) :
    spelling.bytes record.asRead = spelling.bytes record := by
  by_cases there : 2 ≤ record.version <;> simp [Spelling.bytes, Record.asRead, there]

/-- A record whose numbers and texts the format has room for is written, and read
again up to the fields that are not written, whatever stands behind it. -/
theorem readRecord_writeRecord (record : Record)
    (known : 1 ≤ record.version ∧ record.version ≤ 3)
    (bandWord : IsWord record.band) (channelWord : IsWord record.channel)
    (authTypeWord : IsWord record.authType) (ssidShort : IsShort record.ssid)
    (passphraseShort : ∀ passphrase ∈ record.passphrase, IsShort passphrase) :
    ∃ bytes, writeRecord record = .ok bytes ∧
      ∀ rest, readRecord (bytes ++ rest) = .ok (record.asRead, rest) := by
  have words : record.HasWords :=
    ⟨isWord_of_known known, fun _ => bandWord, fun _ => channelWord, authTypeWord⟩
  have short : record.HasShortTexts := by
    refine ⟨ssidShort, fun _ => ?_⟩
    cases passphrase : record.passphrase with
    | none => exact Nat.zero_lt_succ 65535
    | some text => exact passphraseShort text passphrase
  refine ⟨record.spelling.bytes record, writeRecord_of_isShort words short, fun rest => ?_⟩
  exact readRecord_eq_ok_iff.mpr ⟨record.spelling, spelling_spells_asRead known words short, by
    rw [bytes_asRead]⟩

theorem readRecord_writeRecord_first :
    let text := String.ofList ['\x00', '😀']
    ∃ bytes,
      writeRecord { version := 1, ssid := text, band := -1, hidden := true, authType := 4 } =
          .ok bytes ∧
        ∀ rest, readRecord (bytes ++ rest) =
          .ok ({ version := 1, ssid := text, authType := 4, passphrase := some "" }, rest) := by
  intro text
  exact readRecord_writeRecord
    { version := 1, ssid := text, band := -1, hidden := true, authType := 4 }
    (by decide) (by decide) (by decide) (by decide) (by decide +kernel) (by simp)

/-! ## A binary form through its record -/

theorem asRead_of_spells {spelling : Spelling} {record : Record} (spells : spelling.Spells record) :
    record.asRead = record := by
  rcases record with ⟨version, ssid, band, channel, hidden, authType, passphrase⟩
  rcases spells with ⟨_, _, bandSpells, channelSpells, hiddenSpells, _, passphraseSpells⟩
  simp only [Record.asRead, Record.mk.injEq, ite_eq_left_iff, true_and] at *
  refine ⟨fun absent => ?_, fun absent => ?_, fun absent => ?_, ?_⟩
  · simpa [absent, eq_comm] using bandSpells
  · simpa [absent, eq_comm] using channelSpells
  · simpa [absent, eq_comm] using hiddenSpells
  · split at passphraseSpells
    · rcases passphraseSpells with ⟨_, rfl, _⟩
      rw [if_pos ‹_›]
      rfl
    · rw [if_neg ‹_›, passphraseSpells]

theorem bytes_inj {first second : Spelling} {record : Record}
    (firstSpells : first.Spells record) (secondSpells : second.Spells record) :
    first.bytes record = second.bytes record ↔
      first.ssid = second.ssid ∧ (3 ≤ record.version → first.hidden = second.hidden) ∧
        (record.authType ≠ 0 → first.passphrase = second.passphrase) := by
  simp only [Spelling.bytes, List.append_assoc, List.append_cancel_left_eq]
  constructor
  · intro same
    rcases textBytes_append_inj firstSpells.ssid.1 secondSpells.ssid.1 same with ⟨ssid, same⟩
    simp only [List.append_cancel_left_eq] at same
    rcases List.append_inj same (by split <;> rfl) with ⟨hidden, same⟩
    rw [List.append_cancel_left_eq] at same
    refine ⟨ssid, fun there => ?_, fun present => ?_⟩
    · simpa [there] using hidden
    · rcases firstSpells.exists_passphrase present with ⟨_, _, firstShort, _⟩
      rcases secondSpells.exists_passphrase present with ⟨_, _, secondShort, _⟩
      rw [if_pos present, if_pos present, ← List.append_nil (textBytes first.passphrase),
        ← List.append_nil (textBytes second.passphrase)] at same
      exact (textBytes_append_inj firstShort secondShort same).1
  · rintro ⟨ssid, hidden, passphrase⟩
    rw [ssid]
    by_cases there : 3 ≤ record.version <;> by_cases present : record.authType ≠ 0 <;>
      simp [there, present, hidden, passphrase]

theorem hasWords_of_spells {spelling : Spelling} {record : Record}
    (spells : spelling.Spells record) : record.HasWords where
  version := isWord_of_known spells.version
  band := fun there => by simpa [there] using spells.band
  channel := fun there => by simpa [there] using spells.channel
  authType := spells.authType

theorem bytes_eq_iff {spelling : Spelling} {record : Record} (spells : spelling.Spells record)
    (own : record.spelling.Spells record) :
    spelling.bytes record = record.spelling.bytes record ↔
      (record.version = 3 → spelling.hidden = 0 ∨ spelling.hidden = 1) ∧
        Text.IsCanonical spelling.ssid ∧
        (record.authType ≠ 0 → Text.IsCanonical spelling.passphrase) := by
  have ssid : spelling.ssid = record.spelling.ssid ↔ Text.IsCanonical spelling.ssid :=
    Text.eq_encodeModified_iff spells.ssid.2
  have hidden : (3 ≤ record.version → spelling.hidden = record.spelling.hidden) ↔
      (record.version = 3 → spelling.hidden = 0 ∨ spelling.hidden = 1) := by
    have latest : 3 ≤ record.version ↔ record.version = 3 := by
      have known := spells.version
      omega
    rw [← latest]
    refine forall_congr' fun there => ?_
    rw [Record.spelling, spells.hidden, if_pos there]
    exact eq_switchByte_iff spelling.hidden
  have passphrase :
      (record.authType ≠ 0 → spelling.passphrase = record.spelling.passphrase) ↔
        (record.authType ≠ 0 → Text.IsCanonical spelling.passphrase) := by
    refine forall_congr' fun present => ?_
    rcases spells.exists_passphrase present with ⟨text, same, _, decoded⟩
    rw [Record.spelling, same]
    exact Text.eq_encodeModified_iff decoded
  rw [bytes_inj spells own, ssid, hidden, passphrase]
  exact and_left_comm

/-- Writing a record that was read gives a byte string that is read as the same
record, unless a text has grown too long. It gives the byte string that the record
was read from exactly if that one is canonical. -/
theorem writeRecord_of_readRecord {bytes rest : List UInt8} {record : Record}
    (read : readRecord bytes = .ok (record, rest)) :
    ∃ spelling : Spelling, spelling.Spells record ∧ bytes = spelling.bytes record ++ rest ∧
      ((writeRecord record = .error .textTooLong ∧ ¬record.HasShortTexts) ∨
        ∃ written, writeRecord record = .ok written ∧ readRecord written = .ok (record, []) ∧
          (written ++ rest = bytes ↔
            (record.version = 3 → spelling.hidden = 0 ∨ spelling.hidden = 1) ∧
              Text.IsCanonical spelling.ssid ∧
              (record.authType ≠ 0 → Text.IsCanonical spelling.passphrase))) := by
  rcases readRecord_eq_ok_iff.mp read with ⟨spelling, spells, rfl⟩
  refine ⟨spelling, spells, rfl, ?_⟩
  have words := hasWords_of_spells spells
  by_cases short : record.HasShortTexts
  · have own : record.spelling.Spells record := by
      have spelled := spelling_spells_asRead spells.version words short
      rwa [asRead_of_spells spells] at spelled
    refine .inr ⟨record.spelling.bytes record, writeRecord_of_isShort words short, ?_, ?_⟩
    · exact readRecord_eq_ok_iff.mpr ⟨record.spelling, own, (List.append_nil _).symm⟩
    · rw [List.append_cancel_right_eq, eq_comm]
      exact bytes_eq_iff spells own
  · exact .inl ⟨writeRecord_of_not_isShort words short, short⟩

theorem writeRecord_of_readRecord_loose :
    let bytes : List UInt8 := [0, 0, 0, 3, 0, 1, 0, 0, 0, 0, 0, 0, 0, 0, 0, 2, 0, 0, 0, 0, 7]
    let record : Record := { version := 3, ssid := String.ofList ['\x00'], hidden := true }
    readRecord bytes = .ok (record, [7]) ∧
      ∃ spelling : Spelling, spelling.Spells record ∧ bytes = spelling.bytes record ++ [7] ∧
        ((writeRecord record = .error .textTooLong ∧ ¬record.HasShortTexts) ∨
          ∃ written, writeRecord record = .ok written ∧ readRecord written = .ok (record, []) ∧
            (written ++ [7] = bytes ↔
              (record.version = 3 → spelling.hidden = 0 ∨ spelling.hidden = 1) ∧
                Text.IsCanonical spelling.ssid ∧
                (record.authType ≠ 0 → Text.IsCanonical spelling.passphrase))) := by
  intro bytes record
  have read : readRecord bytes = .ok (record, [7]) := by decide +kernel
  exact ⟨read, writeRecord_of_readRecord read⟩

end Hotspot.Legacy
