import Hotspot.Configuration.Mapping
import Hotspot.Proofs.Band.Reading
import Hotspot.Proofs.Json.RoundTrip
import Hotspot.Proofs.MacAddress

/-! The mapping form of configurations. Reading accepts what spells a selection
among the three bands only, and every configuration with such a selection reads
back as it was written; any other is refused. -/

namespace Hotspot

theorem SecurityType.ofValue_name (securityType : SecurityType) :
    ofValue (.text securityType.name) = .ok securityType := by
  simp [ofValue, ofText?_name]

/-- The fields say the same, but for the one with this name. -/
def Fields.AgreeExcept (name : String) (fields others : Fields) : Prop :=
  ∀ other, other ≠ name → others.find? other = fields.find? other

namespace Configuration

def IsSpelled (configuration : Configuration) : Prop :=
  ∃ value, ofValue value = .ok configuration

theorem bind_eq_ok {error first result : Type} {step : Except error first}
    {next : first → Except error result} {answer : result}
    (succeeds : (step >>= next) = .ok answer) :
    ∃ value, step = .ok value ∧ next value = .ok answer := by
  cases step with
  | error failure => cases succeeds
  | ok value => exact ⟨value, rfl, succeeds⟩

theorem mapError_eq_ok {error other result : Type} {step : Except error result}
    {change : error → other} {answer : result} (succeeds : step.mapError change = .ok answer) :
    step = .ok answer := by
  cases step with
  | error failure => cases succeeds
  | ok value =>
    cases succeeds
    rfl

theorem toOption_eq_some {error result : Type} {step : Except error result} {answer : result}
    (succeeds : step.toOption = some answer) : step = .ok answer := by
  cases step with
  | error failure => cases succeeds
  | ok value => exact congrArg _ (Option.some.inj succeeds)

theorem check_eq_ok_iff {settings : Settings} {configuration : Configuration} :
    settings.check = .ok configuration ↔ settings = configuration.settings := by
  constructor
  · intro checked
    unfold Settings.check at checked
    split at checked
    · cases checked
    · rename_i channel
      split at checked
      · split at checked
        · cases checked
        · rename_i clients
          have channelNumber : (settings.channel.toNat : Int) = settings.channel :=
            Int.toNat_of_nonneg (Int.not_lt.mp channel)
          have clientsNumber : (settings.maxClients.toNat : Int) = settings.maxClients :=
            Int.toNat_of_nonneg (Int.not_lt.mp clients)
          cases checked
          rw [Configuration.settings, channelNumber, clientsNumber]
      · cases checked
  · rintro rfl
    exact configuration.check_settings

/-- Each setting of the configuration is what the field of that setting says. -/
structure IsReadFrom (fields : Fields) (configuration : Configuration) : Prop where
  ssid : readText .ssidNotText ((fields.find? "ssid").getD .null) = .ok configuration.ssid
  passphrase : readText .passphraseNotText ((fields.find? "passphrase").getD .null) =
    .ok configuration.passphrase
  bssid : readBssid ((fields.find? "bssid").getD .null) = .ok configuration.bssid
  securityType : SecurityType.ofValue ((fields.find? "security_type").getD (.integer 0)) =
    .ok configuration.securityType
  band : Band.ofValue ((fields.find? "band").getD (.integer 1)) = .ok configuration.band
  channel : readCount .channel ((fields.find? "channel").getD (.integer 0)) =
    .ok (configuration.channel : Int)
  hiddenSsid : readFlag ((fields.find? "hidden_ssid").getD .null) = .ok configuration.hiddenSsid
  maxClients : readCount .maxClients ((fields.find? "max_number_of_clients").getD (.integer 0)) =
    .ok (configuration.maxClients : Int)
  clientControl : readFlag ((fields.find? "client_control_by_user_enabled").getD .null) =
    .ok configuration.clientControl

theorem ofFields_eq_ok_iff {fields : Fields} {configuration : Configuration} :
    ofFields fields = .ok configuration ↔ configuration.IsReadFrom fields := by
  constructor
  · intro read
    unfold ofFields at read
    obtain ⟨ssid, ssidRead, read⟩ := bind_eq_ok read
    obtain ⟨passphrase, passphraseRead, read⟩ := bind_eq_ok read
    obtain ⟨bssid, bssidRead, read⟩ := bind_eq_ok read
    obtain ⟨securityType, securityTypeRead, read⟩ := bind_eq_ok read
    obtain ⟨band, bandRead, read⟩ := bind_eq_ok read
    obtain ⟨channel, channelRead, read⟩ := bind_eq_ok read
    obtain ⟨hiddenSsid, hiddenSsidRead, read⟩ := bind_eq_ok read
    obtain ⟨maxClients, maxClientsRead, read⟩ := bind_eq_ok read
    obtain ⟨clientControl, clientControlRead, read⟩ := bind_eq_ok read
    have same := check_eq_ok_iff.mp (mapError_eq_ok read)
    simp only [settings, Settings.mk.injEq] at same
    obtain ⟨rfl, rfl, rfl, rfl, rfl, rfl, rfl, rfl, rfl⟩ := same
    exact ⟨ssidRead, passphraseRead, bssidRead, mapError_eq_ok securityTypeRead,
      mapError_eq_ok bandRead, channelRead, hiddenSsidRead, maxClientsRead, clientControlRead⟩
  · intro reads
    have checked := configuration.check_settings
    simp only [ofFields, reads.ssid, reads.passphrase, reads.bssid, reads.securityType, reads.band,
      reads.channel, reads.hiddenSsid, reads.maxClients, reads.clientControl, Except.mapError,
      bind, Except.bind]
    simp only [settings] at checked
    rw [checked]

theorem IsReadFrom.eq_of_agree {fields others : Fields} {configuration other : Configuration}
    (reads : configuration.IsReadFrom fields) (otherReads : other.IsReadFrom others)
    (agree : Fields.AgreeExcept "passphrase" fields others) :
    other = { configuration with passphrase := other.passphrase } := by
  have again : IsReadFrom others { configuration with passphrase := other.passphrase } :=
    { ssid := by rw [agree _ (by decide), reads.ssid]
      passphrase := otherReads.passphrase
      bssid := by rw [agree _ (by decide), reads.bssid]
      securityType := by rw [agree _ (by decide), reads.securityType]
      band := by rw [agree _ (by decide), reads.band]
      channel := by rw [agree _ (by decide), reads.channel]
      hiddenSsid := by rw [agree _ (by decide), reads.hiddenSsid]
      maxClients := by rw [agree _ (by decide), reads.maxClients]
      clientControl := by rw [agree _ (by decide), reads.clientControl] }
  have same := (ofFields_eq_ok_iff.mpr otherReads).symm.trans (ofFields_eq_ok_iff.mpr again)
  exact Except.ok.inj same

theorem isNamed_of_ofFields {fields : Fields} {configuration : Configuration}
    (read : ofFields fields = .ok configuration) : configuration.band.IsNamed :=
  Band.isNamed_of_ofValue (ofFields_eq_ok_iff.mp read).band

theorem IsSpelled.isNamed {configuration : Configuration} (spelled : configuration.IsSpelled) :
    configuration.band.IsNamed := by
  rcases spelled with ⟨value, read⟩
  cases value with
  | object fields => exact isNamed_of_ofFields read
  | _ => cases read

/-! ## Reading what was written -/

theorem readText_optionalText (error : ReadError) (text : Option String) :
    readText error (optionalText text) = .ok text := by
  cases text <;> rfl

theorem readText_null (error : ReadError) : readText error .null = .ok none :=
  rfl

theorem readBssid_optionalText (bssid : Option MacAddress) :
    readBssid (optionalText (bssid.map MacAddress.text)) = .ok bssid := by
  cases bssid with
  | none => rfl
  | some address =>
    have written := address.text_ne_empty
    simp only [Option.map_some, optionalText]
    unfold readBssid
    split
    · rename_i other
      cases other
    · rename_i other
      exact absurd (Value.text.inj other) written
    · rw [MacAddress.ofValue, MacAddress.ofText_text]
      rfl

theorem readCount_integer (field : CountField) (count : Nat) :
    readCount field (.integer count) = .ok (count : Int) := by
  simp [readCount, Value.toInteger]

theorem readFlag_bool (switch : Bool) : readFlag (.bool switch) = .ok switch :=
  rfl

def withoutPassphrase (configuration : Configuration) : Configuration :=
  { configuration with passphrase := none }

theorem ofValue_toValue {configuration : Configuration} (named : configuration.band.IsNamed)
    (includes : Bool) :
    ofValue (configuration.toValue includes) =
      .ok (if includes then configuration else configuration.withoutPassphrase) := by
  apply ofFields_eq_ok_iff.mpr
  -- A passphrase that was left out is missing, which spells none.
  cases includes <;> constructor <;>
    simp [fields, publicFields, Fields.find?, List.lookup_cons, withoutPassphrase, readText_null,
      readText_optionalText, readBssid_optionalText, SecurityType.ofValue_name,
      Band.ofValue_mask named, readCount_integer, readFlag_bool]

theorem ofValue_toValue_of_not_isNamed {configuration : Configuration}
    (unnamed : ¬configuration.band.IsNamed) (includes : Bool) :
    ofValue (configuration.toValue includes) =
      .error (.band (.unsupportedMask configuration.band.mask)) := by
  rw [toValue, ofValue]
  cases includes <;>
    simp [ofFields, fields, publicFields, Fields.find?, List.lookup_cons, readText_null,
      readText_optionalText, readBssid_optionalText, SecurityType.ofValue_name,
      Band.ofValue_mask_of_not_isNamed unnamed, Except.mapError, bind, Except.bind]

theorem ofValue_toValue_eq (configuration : Configuration) (includes : Bool) :
    ofValue (configuration.toValue includes) =
      if configuration.band.IsNamed then
        .ok (if includes then configuration else configuration.withoutPassphrase)
      else .error (.band (.unsupportedMask configuration.band.mask)) := by
  split
  · rename_i named
    exact ofValue_toValue named includes
  · rename_i unnamed
    exact ofValue_toValue_of_not_isNamed unnamed includes

theorem isSpelled_iff {configuration : Configuration} :
    configuration.IsSpelled ↔ configuration.band.IsNamed :=
  ⟨IsSpelled.isNamed, fun named => ⟨_, ofValue_toValue named true⟩⟩

/-- What is written reads back exactly, with the passphrase or without it, if the bands
have names, and is refused for its bands otherwise. What has been read has named bands,
so writing it and reading it again changes nothing. -/
theorem written_reads_back (configuration : Configuration) (value : Value) :
    ofValue (configuration.toValue true) =
        (if configuration.band.IsNamed then .ok configuration
        else .error (.band (.unsupportedMask configuration.band.mask))) ∧
      ofValue (configuration.toValue false) =
        (if configuration.band.IsNamed then .ok configuration.withoutPassphrase
        else .error (.band (.unsupportedMask configuration.band.mask))) ∧
      ((ofValue value).bind fun read => ofValue (read.toValue true)) = ofValue value := by
  refine ⟨ofValue_toValue_eq configuration true, ofValue_toValue_eq configuration false, ?_⟩
  cases read : ofValue value with
  | error error => rfl
  | ok spelled => exact ofValue_toValue (IsSpelled.isNamed ⟨value, read⟩) true

theorem isPlain_toValue (configuration : Configuration) :
    (configuration.toValue true).IsPlain := by
  have optional (text : Option String) : (optionalText text).IsPlain := by
    cases text <;> simp [optionalText, Value.IsPlain]
  have names (row : List String) : ArePlain (row.map Value.text) := by
    induction row with
    | nil => simp [ArePlain]
    | cons name row induction => simpa [ArePlain, Value.IsPlain] using induction
  simp [toValue, fields, publicFields, Value.IsPlain, HavePlain, optional, names]

end Configuration

end Hotspot
