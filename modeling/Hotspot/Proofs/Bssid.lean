import Hotspot.Bssid

/-! The address that an access point gets. Its own comes first, a derived one second, and the
one that the device was made with last. A configuration with an address keeps it, so asking
once is enough, and every derived address is a local one of a single station. -/

namespace Hotspot

/-! ## Derived addresses -/

namespace MacSource

theorem localUnicast_and (octet mask : UInt8) :
    localUnicast octet &&& mask = octet &&& (0xFC &&& mask) ||| 0x02 &&& mask := by
  have distributes : localUnicast octet &&& mask = octet &&& 0xFC &&& mask ||| 0x02 &&& mask :=
    UInt8.toBitVec_inj.mp BitVec.and_or_distrib_right
  rw [distributes, UInt8.and_assoc]

theorem exists_octets_derive (secret : List UInt8) (query : MacQuery) :
    ∃ octet rest, (derive secret query).octets = localUnicast octet :: rest := by
  have six : ((Digest.hmac secret (message query)).take 6).length = 6 := by
    simp [Digest.length_hmac]
  rcases List.exists_cons_of_length_eq_add_one six with ⟨octet, rest, front⟩
  refine ⟨octet, rest, ?_⟩
  simp only [derive, front, makeLocal]

theorem isLocallyAdministered_derive (secret : List UInt8) (query : MacQuery) :
    (derive secret query).isLocallyAdministered = true := by
  rcases exists_octets_derive secret query with ⟨octet, rest, octets⟩
  have flagged : localUnicast octet &&& 0x02 = 0x02 := by
    rw [localUnicast_and, show (0xFC &&& 0x02 : UInt8) = 0 from rfl, UInt8.and_zero]
    rfl
  simp [MacAddress.isLocallyAdministered, MacAddress.firstOctet, octets, flagged]

theorem isMulticast_derive (secret : List UInt8) (query : MacQuery) :
    (derive secret query).isMulticast = false := by
  rcases exists_octets_derive secret query with ⟨octet, rest, octets⟩
  have cleared : localUnicast octet &&& 0x01 = 0 := by
    rw [localUnicast_and, show (0xFC &&& 0x01 : UInt8) = 0 from rfl, UInt8.and_zero]
    rfl
  simp [MacAddress.isMulticast, MacAddress.firstOctet, octets, cleared]

theorem ofSecret_of_ne_nil {secret : List UInt8} (filled : secret ≠ []) :
    ofSecret secret = .ok fun query => .ok (derive secret query) :=
  if_neg (mt List.isEmpty_iff.mp filled)

end MacSource

namespace Bssid

variable {configuration : Configuration} {randomizes : Bool} {source : Option MacSource}
  {query : MacQuery}

/-! ## The choice of an address -/

/-- The device has to derive an address for the configuration. -/
def LacksAddress (configuration : Configuration) (randomizes : Bool) : Prop :=
  configuration.bssid = none ∧ randomizes = true

/-- The address for the configuration is this one. None stands for the one that the device
was made with. -/
inductive Chosen (configuration : Configuration) (randomizes : Bool)
    (source : Option MacSource) (query : MacQuery) : Option MacAddress → Prop
  | own {address : MacAddress} :
      configuration.bssid = some address → Chosen configuration randomizes source query address
  | derived {given : MacSource} {address : MacAddress} :
      LacksAddress configuration randomizes → source = some given → given query = .ok address →
      Chosen configuration randomizes source query address
  | factory :
      configuration.bssid = none → randomizes = false →
      Chosen configuration randomizes source query none

/-- There is no address for the configuration, because of this error. -/
inductive Refused (configuration : Configuration) (randomizes : Bool)
    (source : Option MacSource) (query : MacQuery) : BssidError → Prop
  | noSource :
      LacksAddress configuration randomizes → source = none →
      Refused configuration randomizes source query .noSource
  | source {given : MacSource} {failure : MacSourceError} :
      LacksAddress configuration randomizes → source = some given →
      given query = .error failure → Refused configuration randomizes source query (.source failure)

theorem resolve_cases (configuration : Configuration) (randomizes : Bool)
    (source : Option MacSource) (query : MacQuery) :
    (∃ address, configuration.bssid = some address ∧
        resolve configuration randomizes source query = { asked := [], result := .ok address }) ∨
      (configuration.bssid = none ∧ randomizes = false ∧
        resolve configuration randomizes source query = { asked := [], result := .ok none }) ∨
      (LacksAddress configuration randomizes ∧ source = none ∧
        resolve configuration randomizes source query =
          { asked := [], result := .error .noSource }) ∨
      ∃ given, LacksAddress configuration randomizes ∧ source = some given ∧
        resolve configuration randomizes source query =
          { asked := [query], result := ((given query).map some).mapError .source } := by
  unfold resolve
  cases own : configuration.bssid with
  | some address => exact .inl ⟨address, rfl, rfl⟩
  | none =>
    cases randomizes with
    | false => exact .inr (.inl ⟨rfl, rfl, rfl⟩)
    | true =>
      cases source with
      | none => exact .inr (.inr (.inl ⟨⟨own, rfl⟩, rfl, rfl⟩))
      | some given => exact .inr (.inr (.inr ⟨given, ⟨own, rfl⟩, rfl, rfl⟩))

theorem asked_resolve (configuration : Configuration) (randomizes : Bool)
    (source : Option MacSource) (query : MacQuery) :
    (resolve configuration randomizes source query).asked =
      if configuration.bssid = none ∧ randomizes = true ∧ source.isSome = true then [query]
      else [] := by
  rcases resolve_cases configuration randomizes source query with
    ⟨address, own, same⟩ | ⟨_, off, same⟩ | ⟨_, missing, same⟩ | ⟨given, lacks, supplied, same⟩
  · rw [same]
    simp [own]
  · rw [same]
    simp [off]
  · rw [same]
    simp [missing]
  · rw [same]
    simp [lacks.1, lacks.2, supplied]

theorem resolve_eq_ok_iff {bssid : Option MacAddress} :
    (resolve configuration randomizes source query).result = .ok bssid ↔
      Chosen configuration randomizes source query bssid := by
  constructor
  · intro result
    rcases resolve_cases configuration randomizes source query with
      ⟨address, own, same⟩ | ⟨missing, off, same⟩ | ⟨_, _, same⟩ | ⟨given, lacks, supplied, same⟩
    · rw [same] at result
      cases result
      exact .own own
    · rw [same] at result
      cases result
      exact .factory missing off
    · rw [same] at result
      cases result
    · rw [same] at result
      cases answer : given query with
      | ok address =>
        rw [answer] at result
        cases result
        exact .derived lacks supplied answer
      | error failure =>
        rw [answer] at result
        cases result
  · intro chosen
    cases chosen with
    | own own => simp only [resolve, own]
    | derived lacks supplied answer =>
      simp only [resolve, lacks.1, lacks.2, supplied, answer]
      rfl
    | factory missing off =>
      simp only [resolve, missing, off]
      rfl

theorem resolve_eq_error_iff {error : BssidError} :
    (resolve configuration randomizes source query).result = .error error ↔
      Refused configuration randomizes source query error := by
  constructor
  · intro result
    rcases resolve_cases configuration randomizes source query with
      ⟨_, _, same⟩ | ⟨_, _, same⟩ | ⟨lacks, missing, same⟩ | ⟨given, lacks, supplied, same⟩
    · rw [same] at result
      cases result
    · rw [same] at result
      cases result
    · rw [same] at result
      cases result
      exact .noSource lacks missing
    · rw [same] at result
      cases answer : given query with
      | ok address =>
        rw [answer] at result
        cases result
      | error failure =>
        rw [answer] at result
        cases result
        exact .source lacks supplied answer
  · intro refused
    cases refused with
    | noSource lacks missing =>
      simp only [resolve, lacks.1, lacks.2, missing]
      rfl
    | source lacks supplied answer =>
      simp only [resolve, lacks.1, lacks.2, supplied, answer]
      rfl

theorem resolve_withBssid {bssid : Option MacAddress}
    (chosen : Chosen configuration randomizes source query bssid) :
    resolve (configuration.withBssid bssid) randomizes source query =
      { asked := [], result := .ok bssid } := by
  cases chosen with
  | own => rfl
  | derived => rfl
  | factory _ off => rw [off]; rfl

/-! ## The configuration with its address -/

theorem randomize_eq_error_iff {error : BssidError} :
    (randomize configuration randomizes source query).result = .error error ↔
      Refused configuration randomizes source query error := by
  rw [← resolve_eq_error_iff, randomize]
  cases (resolve configuration randomizes source query).result <;> simp [Except.map]

theorem randomize_of_chosen {bssid : Option MacAddress}
    (chosen : Chosen configuration randomizes source query bssid) :
    (randomize configuration randomizes source query).result =
      .ok (configuration.withBssid bssid) := by
  simp only [randomize, resolve_eq_ok_iff.mpr chosen, Except.map]

theorem randomize_withBssid {bssid : Option MacAddress}
    (chosen : Chosen configuration randomizes source query bssid) :
    randomize (configuration.withBssid bssid) randomizes source query =
      { asked := [], result := .ok (configuration.withBssid bssid) } := by
  simp only [randomize, resolve_withBssid chosen]
  rfl

theorem randomize_withBssid_some (configuration : Configuration) (address : MacAddress)
    (randomizes : Bool) (source : Option MacSource) (query : MacQuery) :
    randomize (configuration.withBssid (some address)) randomizes source query =
      { asked := [], result := .ok (configuration.withBssid (some address)) } :=
  rfl

/-- The source is asked once where a configuration without an address is to get a derived one,
and never otherwise. There is an address unless the source is missing or fails, and then the
error is its own. Where there is one, it is all that changes in the configuration, which is
checked again without complaint and does not change a second time. What a secret derives is a
local address of a single station. -/
theorem randomize_settles_address (configuration : Configuration) (randomizes : Bool)
    (source : Option MacSource) (query : MacQuery) :
    let resolved := resolve configuration randomizes source query
    let randomized := randomize configuration randomizes source query
    (resolved.asked = randomized.asked ∧ randomized.asked =
        if configuration.bssid = none ∧ randomizes = true ∧ source.isSome = true then [query]
        else []) ∧
      (∀ error, (resolved.result = .error error ↔ randomized.result = .error error) ∧
        (randomized.result = .error error ↔
          Refused configuration randomizes source query error)) ∧
      (∀ bssid, (resolved.result = .ok bssid ↔ Chosen configuration randomizes source query bssid) ∧
        (resolved.result = .ok bssid →
          ∃ after, randomized.result = .ok after ∧ after = { configuration with bssid } ∧
            Settings.check { configuration.settings with bssid } = .ok after ∧
            randomize after randomizes source query = { asked := [], result := .ok after } ∧
            (bssid ≠ none → ∀ otherRandomizes otherSource otherQuery,
              randomize after otherRandomizes otherSource otherQuery =
                { asked := [], result := .ok after }))) ∧
      ∀ secret, secret ≠ [] → ∃ given, MacSource.ofSecret secret = .ok given ∧
        (source = some given → LacksAddress configuration randomizes →
          ∃ after address, randomized.result = .ok after ∧ after.bssid = some address ∧
            address.isLocallyAdministered = true ∧ address.isMulticast = false) := by
  refine ⟨⟨rfl, asked_resolve configuration randomizes source query⟩, fun error => ?_,
    fun bssid => ⟨resolve_eq_ok_iff, fun result => ?_⟩, fun secret filled => ?_⟩
  · exact ⟨resolve_eq_error_iff.trans randomize_eq_error_iff.symm, randomize_eq_error_iff⟩
  · have chosen := resolve_eq_ok_iff.mp result
    refine ⟨configuration.withBssid bssid, randomize_of_chosen chosen, rfl,
      (configuration.withBssid bssid).check_settings, randomize_withBssid chosen, ?_⟩
    intro present otherRandomizes otherSource otherQuery
    rcases Option.ne_none_iff_exists'.mp present with ⟨address, rfl⟩
    exact randomize_withBssid_some configuration address otherRandomizes otherSource otherQuery
  · refine ⟨_, MacSource.ofSecret_of_ne_nil filled, ?_⟩
    rintro rfl lacks
    exact ⟨_, MacSource.derive secret query, randomize_of_chosen (.derived lacks rfl rfl), rfl,
      MacSource.isLocallyAdministered_derive secret query,
      MacSource.isMulticast_derive secret query⟩

end Bssid

end Hotspot
