import Hotspot.Proofs.Legacy.Records

/-! How much of its bytes a reader of the legacy format needs. A reader takes what it
needs from the front and never looks behind it, and wherever less is there it reports
that the bytes have ended before it makes anything of them. Readers that do so can be
put in a row, so a record is read in this way because its fields are. -/

namespace Hotspot.Legacy

def Error.IsOfFormat : Error → Prop
  | .truncated | .badVersion _ | .malformedText => True
  | _ => False

namespace Reader

variable {value result : Type}

/-- The reader needs just these bytes for a value: it reads them with anything behind
them, and of any shorter part of them it reports the end. -/
structure Takes (reader : Reader value) (front : List UInt8) (read : value) : Prop where
  reads : ∀ rest, reader (front ++ rest) = .ok (read, rest)
  ends : ∀ count < front.length, reader (front.take count) = .error .truncated

/-- Whatever the reader reads, it takes from the front, and it fails for a fault of the
bytes only. -/
structure IsExact (reader : Reader value) : Prop where
  takes : ∀ {bytes rest : List UInt8} {read : value}, reader bytes = .ok (read, rest) →
    ∃ front, bytes = front ++ rest ∧ reader.Takes front read
  fails : ∀ {bytes : List UInt8} {error : Error}, reader bytes = .error error →
    error.IsOfFormat

def andThen (first : Reader value) (next : value → Reader result) : Reader result :=
  fun bytes => first bytes >>= fun read => next read.1 read.2

theorem Takes.andThen {first : Reader value} {next : value → Reader result}
    {front later : List UInt8} {read : value} {answer : result} (start : first.Takes front read)
    (rest : (next read).Takes later answer) :
    (first.andThen next).Takes (front ++ later) answer where
  reads := by
    intro left
    rw [Reader.andThen, List.append_assoc, start.reads]
    exact rest.reads left
  ends := by
    intro count short
    rw [Reader.andThen, List.take_append]
    by_cases early : count < front.length
    · rw [Nat.sub_eq_zero_of_le (Nat.le_of_lt early), List.take_zero, List.append_nil,
        start.ends count early]
      rfl
    · rw [List.take_of_length_le (Nat.le_of_not_lt early), start.reads]
      rw [List.length_append] at short
      exact rest.ends (count - front.length) (by omega)

theorem IsExact.andThen {first : Reader value} {next : value → Reader result}
    (start : first.IsExact) (rest : ∀ read, (next read).IsExact) :
    (first.andThen next).IsExact where
  takes := by
    intro bytes left answer read
    rcases bind_eq_ok_iff.mp read with ⟨field, middle, fieldRead, laterRead⟩
    rcases start.takes fieldRead with ⟨front, rfl, startTakes⟩
    rcases (rest field).takes laterRead with ⟨later, rfl, restTakes⟩
    exact ⟨front ++ later, (List.append_assoc front later left).symm,
      startTakes.andThen restTakes⟩
  fails := by
    intro bytes error failed
    unfold Reader.andThen at failed
    cases read : first bytes with
    | error fault =>
      rw [read] at failed
      cases failed
      exact start.fails read
    | ok field =>
      rw [read] at failed
      exact (rest field.1).fails failed

def give (read : value) : Reader value :=
  fun bytes => .ok (read, bytes)

theorem isExact_give (read : value) : (give read).IsExact where
  takes := by
    rintro bytes rest _ ⟨⟩
    exact ⟨[], rfl, fun _ => rfl, fun count short => absurd short (Nat.not_lt_zero count)⟩
  fails := nofun

theorem isExact_error {error : Error} (known : error.IsOfFormat) :
    IsExact fun _ : List UInt8 => (.error error : Except Error (value × List UInt8)) where
  takes := nofun
  fails := by
    rintro bytes _ ⟨⟩
    exact known

theorem isExact_readBytes (count : Nat) : (readBytes count : Reader (List UInt8)).IsExact where
  takes := by
    intro bytes rest front read
    rcases readBytes_eq_ok_iff.mp read with ⟨length, rfl⟩
    refine ⟨front, rfl, fun other => readBytes_eq_ok_iff.mpr ⟨length, rfl⟩, ?_⟩
    intro shorter short
    rw [readBytes, if_pos (by rw [List.length_take]; omega)]
  fails := by
    intro bytes error failed
    unfold readBytes at failed
    split at failed
    · cases failed
      trivial
    · cases failed

/-! ## Fields -/

theorem readInteger_eq :
    readInteger = (readBytes 4).andThen fun field => give (signed (natural field)) :=
  rfl

theorem isExact_readInteger : (readInteger : Reader Int).IsExact := by
  rw [readInteger_eq]
  exact (isExact_readBytes 4).andThen fun _ => isExact_give _

theorem readSwitch_eq :
    readSwitch = (readBytes 1).andThen fun field => give (decide (field ≠ [0])) :=
  rfl

theorem isExact_readSwitch : (readSwitch : Reader Bool).IsExact := by
  rw [readSwitch_eq]
  exact (isExact_readBytes 1).andThen fun _ => isExact_give _

theorem readText_eq :
    readText = (readBytes 2).andThen fun length =>
      (readBytes (natural length)).andThen fun field bytes =>
        match Text.decodeModified? field with
        | some text => give (String.ofList text) bytes
        | none => .error .malformedText :=
  rfl

theorem isExact_readText : (readText : Reader String).IsExact := by
  rw [readText_eq]
  refine (isExact_readBytes 2).andThen fun length => ?_
  refine (isExact_readBytes (natural length)).andThen fun field => ?_
  cases Text.decodeModified? field with
  | some text => exact isExact_give (String.ofList text)
  | none => exact isExact_error trivial

theorem IsExact.readIf {reader : Reader value} (exact : reader.IsExact) (there : Bool)
    (absent : value) : (readIf there absent reader).IsExact := by
  cases there with
  | true => exact exact
  | false => exact isExact_give absent

end Reader

/-! ## Records -/

theorem readRecord_eq :
    readRecord = readInteger.andThen fun version bytes =>
      if version < 1 ∨ 3 < version then .error (.badVersion version)
      else
        (readText.andThen fun ssid =>
          (readIf (2 ≤ version) 0 readInteger).andThen fun band =>
          (readIf (2 ≤ version) 0 readInteger).andThen fun channel =>
          (readIf (3 ≤ version) false readSwitch).andThen fun hidden =>
          readInteger.andThen fun authType =>
          (readIf (authType ≠ 0) none
            (readText.andThen fun text => Reader.give (some text))).andThen fun passphrase =>
          Reader.give { version, ssid, band, channel, hidden, authType, passphrase }) bytes :=
  rfl

theorem isExact_readRecord : (readRecord : Reader Record).IsExact := by
  rw [readRecord_eq]
  refine Reader.isExact_readInteger.andThen fun version => ?_
  by_cases unknown : version < 1 ∨ 3 < version
  · simp only [if_pos unknown]
    exact Reader.isExact_error trivial
  · simp only [if_neg unknown]
    refine Reader.isExact_readText.andThen fun ssid => ?_
    refine (Reader.isExact_readInteger.readIf _ _).andThen fun band => ?_
    refine (Reader.isExact_readInteger.readIf _ _).andThen fun channel => ?_
    refine (Reader.isExact_readSwitch.readIf _ _).andThen fun hidden => ?_
    refine Reader.isExact_readInteger.andThen fun authType => ?_
    refine (Reader.IsExact.readIf ?_ _ _).andThen fun passphrase => Reader.isExact_give _
    exact Reader.isExact_readText.andThen fun text => Reader.isExact_give _

/-- Bytes that do not begin with a record have a fault of the format. Of all others the
record takes as many as it needs: these give the same record with anything behind them,
and every shorter part of them is found to end too early. -/
theorem readRecord_takes_prefix (bytes : List UInt8) :
    (∃ error, readRecord bytes = .error error ∧ error.IsOfFormat ∧
      ∀ (spelling : Spelling) (record : Record) (rest : List UInt8), spelling.Spells record →
        bytes ≠ spelling.bytes record ++ rest) ∨
    ∃ record count, count ≤ bytes.length ∧
      readRecord bytes = .ok (record, bytes.drop count) ∧
      (∀ rest, readRecord (bytes.take count ++ rest) = .ok (record, rest)) ∧
      ∀ shorter < count, (readRecord (bytes.take shorter)).mapError Error.message =
        .error "Unexpected end of legacy configuration file" := by
  cases read : readRecord bytes with
  | error error =>
    refine .inl ⟨error, rfl, isExact_readRecord.fails read, ?_⟩
    rintro spelling record rest spells rfl
    rw [readRecord_eq_ok_iff.mpr ⟨spelling, spells, rfl⟩] at read
    cases read
  | ok answer =>
    rcases answer with ⟨record, rest⟩
    rcases isExact_readRecord.takes read with ⟨front, rfl, takes⟩
    refine .inr ⟨record, front.length, ?_, ?_, ?_, ?_⟩
    · rw [List.length_append]
      exact Nat.le_add_right _ _
    · rw [List.drop_left]
    · rw [List.take_left]
      exact takes.reads
    · intro shorter short
      rw [List.take_append_of_le_length (Nat.le_of_lt short), takes.ends shorter short]
      rfl

end Hotspot.Legacy
