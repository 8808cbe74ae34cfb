import Hotspot.Proofs.Configuration.Mapping
import Mathlib.Tactic.IntervalCases

/-! What reading a configuration comes to, for every value that there is. Either the
value is refused, with an error that is true of one of its fields, or each setting is
what its field says; the bands then have names, the counts are not negative, and a
channel stands with a single band only. -/

namespace Hotspot

theorem Band.eq_of_isSingle {band : Band} (named : band.IsNamed) (single : band.isSingle = true) :
    band = .ghz2 ∨ band = .ghz5 ∨ band = .ghz6 := by
  obtain ⟨mask⟩ := band
  obtain ⟨least, most⟩ := named
  dsimp only at least most
  interval_cases mask <;> revert single <;> decide

def CountField.name : CountField → String
  | .channel => "channel"
  | .maxClients => "max_number_of_clients"

namespace Value

def IsOptionalText : Value → Prop
  | .null | .text _ => True
  | _ => False

/-- The value is a truth value, a number with a fraction or without an end, or of any
other kind that does not convert to an integer. -/
def IsNoInteger : Value → Prop
  | .bool _ => True
  | .float number => number.isIntegral = false
  | value => ∃ error, value.toInteger = .error error

theorem isNoInteger_of_toInteger {value : Value} {cause : IntegerError}
    (fails : value.toInteger = .error cause) : value.IsNoInteger := by
  cases value with
  | bool switch => trivial
  | float number =>
    cases number with
    | finite => cases fails
    | _ => rfl
  | _ => exact ⟨cause, fails⟩

end Value

namespace Configuration

/-- What the error says is so. An error about a field is an error about the value of
that field, or about what stands for a field that is missing. -/
inductive ReadError.IsFaultOf : Value → ReadError → Prop
  | notObject {value : Value} : (∀ fields, value ≠ .object fields) → IsFaultOf value .notObject
  | ssid {fields : Fields} :
      ¬((fields.find? "ssid").getD .null).IsOptionalText → IsFaultOf (.object fields) .ssidNotText
  | passphrase {fields : Fields} :
      ¬((fields.find? "passphrase").getD .null).IsOptionalText →
      IsFaultOf (.object fields) .passphraseNotText
  | bssid {fields : Fields} {value : Value} {error : MacAddress.Error} :
      fields.find? "bssid" = some value → value ≠ .null → value ≠ .text "" →
      MacAddress.ofValue value = .error error → IsFaultOf (.object fields) (.bssid error)
  | securityType {fields : Fields} {error : SecurityType.Error} :
      SecurityType.ofValue ((fields.find? "security_type").getD (.integer 0)) = .error error →
      IsFaultOf (.object fields) (.securityType error)
  | band {fields : Fields} {error : Band.Error} :
      Band.ofValue ((fields.find? "band").getD (.integer 1)) = .error error →
      IsFaultOf (.object fields) (.band error)
  | notInteger {fields : Fields} {field : CountField} :
      ((fields.find? field.name).getD (.integer 0)).IsNoInteger →
      IsFaultOf (.object fields) (.notInteger field)
  | negative {fields : Fields} {field : CountField} {number : Int} :
      ((fields.find? field.name).getD (.integer 0)).toInteger = .ok number → number < 0 →
      IsFaultOf (.object fields) (.settings (.negative field))
  | flag {fields : Fields} {name : String} {error : Flag.Error} :
      name = "hidden_ssid" ∨ name = "client_control_by_user_enabled" →
      Flag.ofValue false ((fields.find? name).getD .null) = .error error →
      IsFaultOf (.object fields) (.flag error)
  | severalBands {fields : Fields} {band : Band} {channel : Int} :
      Band.ofValue ((fields.find? "band").getD (.integer 1)) = .ok band →
      ((fields.find? "channel").getD (.integer 0)).toInteger = .ok channel →
      channel ≠ 0 → band.isSingle = false →
      IsFaultOf (.object fields) (.settings .channelOfSeveralBands)

/-! ## Errors of the parts -/

theorem bind_eq_error {error first result : Type} {step : Except error first}
    {next : first → Except error result} {failure : error}
    (fails : (step >>= next) = .error failure) :
    step = .error failure ∨ ∃ value, step = .ok value ∧ next value = .error failure := by
  cases step with
  | error cause =>
    cases fails
    exact .inl rfl
  | ok value => exact .inr ⟨value, rfl, fails⟩

theorem mapError_eq_error {error other result : Type} {step : Except error result}
    {change : error → other} {failure : other} (fails : step.mapError change = .error failure) :
    ∃ cause, step = .error cause ∧ failure = change cause := by
  cases step with
  | error cause =>
    cases fails
    exact ⟨cause, rfl, rfl⟩
  | ok value => cases fails

variable {value : Value} {failure error : ReadError} {field : CountField} {number : Int}

theorem readText_eq_error (fails : readText error value = .error failure) :
    failure = error ∧ ¬value.IsOptionalText := by
  cases value with
  | null => cases fails
  | text text => cases fails
  | _ =>
    cases fails
    exact ⟨rfl, id⟩

theorem readBssid_eq_error (fails : readBssid value = .error failure) :
    ∃ cause, MacAddress.ofValue value = .error cause ∧ failure = .bssid cause ∧
      value ≠ .null ∧ value ≠ .text "" := by
  unfold readBssid at fails
  split at fails
  · cases fails
  · cases fails
  · rename_i notNull notEmpty
    rcases mapError_eq_error fails with ⟨cause, mapped, rfl⟩
    cases read : MacAddress.ofValue value with
    | error cause =>
      rw [read] at mapped
      cases mapped
      exact ⟨cause, rfl, rfl, notNull, notEmpty⟩
    | ok address =>
      rw [read] at mapped
      cases mapped

theorem readCount_of_isNoInteger (noInteger : value.IsNoInteger) :
    readCount field value = .error (.notInteger field) := by
  cases value with
  | bool switch => rfl
  | float number => exact if_neg (Bool.eq_false_iff.mp noInteger)
  | _ =>
    rcases noInteger with ⟨cause, unconverted⟩
    simp [readCount, unconverted]

theorem readCount_of_integer (integer : ¬value.IsNoInteger) :
    ∃ whole, value.toInteger = .ok whole ∧ readCount field value =
      if whole < 0 then .error (.settings (.negative field)) else .ok whole := by
  cases converted : value.toInteger with
  | error cause => exact absurd (Value.isNoInteger_of_toInteger converted) integer
  | ok whole =>
    refine ⟨whole, rfl, ?_⟩
    cases value with
    | bool switch => exact absurd trivial integer
    | float number =>
      have integral : number.isIntegral = true := Bool.eq_true_of_not_eq_false integer
      simp [readCount, integral, converted]
    | _ => simp [readCount, converted]

theorem readCount_eq_ok (reads : readCount field value = .ok number) :
    0 ≤ number ∧ value.toInteger = .ok number := by
  by_cases noInteger : value.IsNoInteger
  · rw [readCount_of_isNoInteger noInteger] at reads
    cases reads
  · rcases readCount_of_integer noInteger with ⟨whole, converted, same⟩
    rw [same] at reads
    split at reads
    · cases reads
    · rename_i natural
      cases reads
      exact ⟨Int.not_lt.mp natural, converted⟩

theorem readCount_eq_error (fails : readCount field value = .error failure) :
    (failure = .notInteger field ∧ value.IsNoInteger) ∨
      failure = .settings (.negative field) ∧ ∃ whole < 0, value.toInteger = .ok whole := by
  by_cases noInteger : value.IsNoInteger
  · rw [readCount_of_isNoInteger noInteger] at fails
    cases fails
    exact .inl ⟨rfl, noInteger⟩
  · rcases readCount_of_integer noInteger with ⟨whole, converted, same⟩
    rw [same] at fails
    split at fails
    · rename_i negative
      cases fails
      exact .inr ⟨rfl, whole, negative, converted⟩
    · cases fails

theorem check_eq_error {settings : Settings} {failure : Settings.Error}
    (channel : 0 ≤ settings.channel) (clients : 0 ≤ settings.maxClients)
    (fails : settings.check = .error failure) :
    failure = .channelOfSeveralBands ∧ settings.channel ≠ 0 ∧ settings.band.isSingle = false := by
  unfold Settings.check at fails
  rw [if_neg (Int.not_lt.mpr channel)] at fails
  split at fails
  · rw [if_neg (Int.not_lt.mpr clients)] at fails
    cases fails
  · rename_i several
    cases fails
    rw [Classical.not_imp] at several
    exact ⟨rfl, fun zero => several.1 (congrArg Int.toNat zero),
      Bool.eq_false_of_not_eq_true several.2⟩

/-! ## All values -/

theorem isFaultOf_of_count (field : CountField) {fields : Fields}
    (fails : readCount field ((fields.find? field.name).getD (.integer 0)) = .error failure) :
    failure.IsFaultOf (.object fields) := by
  rcases readCount_eq_error fails with ⟨rfl, noInteger⟩ | ⟨rfl, whole, negative, converted⟩
  · exact .notInteger noInteger
  · exact .negative converted negative

theorem isFaultOf_of_flag {fields : Fields} {name : String}
    (known : name = "hidden_ssid" ∨ name = "client_control_by_user_enabled")
    (fails : readFlag ((fields.find? name).getD .null) = .error failure) :
    failure.IsFaultOf (.object fields) := by
  rcases mapError_eq_error fails with ⟨cause, unread, rfl⟩
  exact .flag known unread

theorem isFaultOf_of_ofFields {fields : Fields} (fails : ofFields fields = .error failure) :
    failure.IsFaultOf (.object fields) := by
  unfold ofFields at fails
  rcases bind_eq_error fails with fails | ⟨ssid, _, fails⟩
  · rcases readText_eq_error fails with ⟨rfl, other⟩
    exact .ssid other
  rcases bind_eq_error fails with fails | ⟨passphrase, _, fails⟩
  · rcases readText_eq_error fails with ⟨rfl, other⟩
    exact .passphrase other
  rcases bind_eq_error fails with fails | ⟨bssid, _, fails⟩
  · rcases readBssid_eq_error fails with ⟨cause, unread, rfl, notNull, notEmpty⟩
    cases found : fields.find? "bssid" with
    | none =>
      rw [found] at notNull
      exact absurd rfl notNull
    | some value =>
      rw [found] at unread notNull notEmpty
      exact .bssid found notNull notEmpty unread
  rcases bind_eq_error fails with fails | ⟨securityType, _, fails⟩
  · rcases mapError_eq_error fails with ⟨cause, unread, rfl⟩
    exact .securityType unread
  rcases bind_eq_error fails with fails | ⟨band, bandRead, fails⟩
  · rcases mapError_eq_error fails with ⟨cause, unread, rfl⟩
    exact .band unread
  rcases bind_eq_error fails with fails | ⟨channel, channelRead, fails⟩
  · exact isFaultOf_of_count .channel fails
  rcases bind_eq_error fails with fails | ⟨hiddenSsid, _, fails⟩
  · exact isFaultOf_of_flag (.inl rfl) fails
  rcases bind_eq_error fails with fails | ⟨maxClients, clientsRead, fails⟩
  · exact isFaultOf_of_count .maxClients fails
  rcases bind_eq_error fails with fails | ⟨clientControl, _, fails⟩
  · exact isFaultOf_of_flag (.inr rfl) fails
  rcases mapError_eq_error fails with ⟨cause, unchecked, rfl⟩
  have channelNumber := readCount_eq_ok channelRead
  have clientsNumber := readCount_eq_ok clientsRead
  rcases check_eq_error channelNumber.1 clientsNumber.1 unchecked with ⟨rfl, fixed, several⟩
  exact .severalBands (mapError_eq_ok bandRead) channelNumber.2 fixed several

/-- Every value is refused with an error that is true of it, or read setting by setting.
What is read selects at least one of the three bands and nothing else, has no negative
count, and has a channel only on a single band. -/
theorem refused_or_read (value : Value) :
    (∃ error, ofValue value = .error error ∧ error.IsFaultOf value) ∨
      ∃ (fields : Fields) (configuration : Configuration),
        value = .object fields ∧ ofValue value = .ok configuration ∧
          configuration.IsReadFrom fields ∧
          (1 ≤ configuration.band.mask ∧ configuration.band.mask ≤ 7) ∧
          0 ≤ configuration.settings.channel ∧ 0 ≤ configuration.settings.maxClients ∧
          (configuration.settings.channel ≠ 0 →
            configuration.band = .ghz2 ∨ configuration.band = .ghz5 ∨
              configuration.band = .ghz6) := by
  cases value with
  | object fields =>
    cases result : ofFields fields with
    | error error => exact .inl ⟨error, result, isFaultOf_of_ofFields result⟩
    | ok configuration =>
      have named := isNamed_of_ofFields result
      refine .inr ⟨fields, configuration, rfl, result, ofFields_eq_ok_iff.mp result, named,
        Int.natCast_nonneg _, Int.natCast_nonneg _, ?_⟩
      intro fixed
      apply Band.eq_of_isSingle named
      exact configuration.single_of_channel fun zero => fixed (congrArg Nat.cast zero)
  | _ => exact .inl ⟨.notObject, rfl, .notObject nofun⟩

end Configuration

end Hotspot
