import Hotspot.Proofs.Configuration.Mapping
import Hotspot.Store.Basic

/-! Configurations that a device can use as they are: they ask for no feature
that the device does not have, and select the bands that it uses. Whatever a
store makes of a configuration, or generates itself, is of this kind. -/

namespace Hotspot

namespace RadioPolicy

/-- A device with one band at a time uses 2.4 GHz or 5 GHz, and a device that
widens 5 GHz never uses it alone. -/
theorem changes_ofWidening_eq_false_iff (widens : Bool) (band : Band) :
    (ofWidening widens).changes band = false ↔
      if widens then band ≠ .ghz5 else band = .ghz2 ∨ band = .ghz5 := by
  cases widens with
  | true =>
    by_cases alone : band = .ghz5
    · subst alone
      decide
    · simp [ofWidening, changes, convert, alone]
  | false =>
    simp only [ofWidening, changes, Bool.false_eq_true, if_false, convert, decide_eq_false_iff_not,
      not_not]
    constructor
    · intro same
      split at same
      · exact .inr same.symm
      · exact .inl same.symm
    · rintro (rfl | rfl) <;> decide

theorem isNamed_convert (policy : RadioPolicy) {band : Band} (named : band.IsNamed) :
    (policy.convert band).IsNamed := by
  cases policy with
  | restricted =>
    rw [convert]
    split <;> decide
  | concurrent =>
    rw [convert]
    split
    · decide
    · exact named

end RadioPolicy

namespace Configuration

variable {capabilities : Capabilities} {configuration : Configuration}

/-- The configuration asks for no feature that the device does not have. -/
structure IsWithin (capabilities : Capabilities) (configuration : Configuration) : Prop where
  security : configuration.securityType.isSae = true → capabilities.sae.isOn = true
  clients : capabilities.clientControl.isOn = false →
    configuration.maxClients = 0 ∧ configuration.clientControl = false
  channel : configuration.band = .ghz2 → configuration.channel ≠ 0 →
    configuration.channel ∈ capabilities.channels.map Channel.number

structure IsSupported (capabilities : Capabilities) (configuration : Configuration) : Prop
    extends IsWithin capabilities configuration where
  bands : capabilities.policy.changes configuration.band = false

/-! ## Features -/

theorem hasForbiddenChannel_eq_false_iff :
    configuration.hasForbiddenChannel capabilities = false ↔
      (configuration.band = .ghz2 → configuration.channel ≠ 0 →
        configuration.channel ∈ capabilities.channels.map Channel.number) := by
  simp only [hasForbiddenChannel, Bool.and_eq_false_iff, decide_eq_false_iff_not,
    Bool.not_eq_false', List.contains_iff_mem]
  by_cases lowest : configuration.band = .ghz2 <;> by_cases fixed : configuration.channel = 0 <;>
    simp [lowest, fixed]

theorem supportedSecurity_eq_self_iff :
    configuration.supportedSecurity capabilities = configuration.securityType ↔
      (configuration.securityType.isSae = true → capabilities.sae.isOn = true) := by
  unfold supportedSecurity
  cases capabilities.sae.isOn <;> cases configuration.securityType <;> decide

theorem supportedChannel_eq_self_iff :
    configuration.supportedChannel capabilities = configuration.channel ↔
      configuration.hasForbiddenChannel capabilities = false := by
  unfold supportedChannel
  cases forbidden : configuration.hasForbiddenChannel capabilities with
  | false => simp
  | true =>
    have fixed : configuration.channel ≠ 0 := by
      simp only [hasForbiddenChannel, Bool.and_eq_true, decide_eq_true_eq] at forbidden
      exact forbidden.1.2
    simp [Ne.symm fixed]

theorem withinCapabilities_eq_self_iff :
    configuration.withinCapabilities capabilities = configuration ↔
      configuration.IsWithin capabilities := by
  have fields : configuration.withinCapabilities capabilities = configuration ↔
      configuration.supportedSecurity capabilities = configuration.securityType ∧
        configuration.supportedChannel capabilities = configuration.channel ∧
        (if capabilities.clientControl.isOn then configuration.maxClients else 0) =
          configuration.maxClients ∧
        (capabilities.clientControl.isOn && configuration.clientControl) =
          configuration.clientControl := by
    cases configuration
    simp [withinCapabilities]
  have clients : (if capabilities.clientControl.isOn then configuration.maxClients else 0) =
        configuration.maxClients ∧
      (capabilities.clientControl.isOn && configuration.clientControl) =
        configuration.clientControl ↔
      (capabilities.clientControl.isOn = false →
        configuration.maxClients = 0 ∧ configuration.clientControl = false) := by
    cases capabilities.clientControl.isOn with
    | true => simp
    | false =>
      simp only [Bool.false_eq_true, if_false, Bool.false_and]
      exact ⟨fun same _ => ⟨same.1.symm, same.2.symm⟩,
        fun off => ⟨(off trivial).1.symm, (off trivial).2.symm⟩⟩
  rw [fields, clients, supportedSecurity_eq_self_iff, supportedChannel_eq_self_iff,
    hasForbiddenChannel_eq_false_iff]
  constructor
  · rintro ⟨security, channel, clients⟩
    exact ⟨security, clients, channel⟩
  · rintro ⟨security, clients, channel⟩
    exact ⟨security, channel, clients⟩

theorem isWithin_withinCapabilities (configuration : Configuration) :
    (configuration.withinCapabilities capabilities).IsWithin capabilities where
  security := by
    simp only [withinCapabilities, supportedSecurity]
    cases capabilities.sae.isOn <;> cases configuration.securityType <;> decide
  clients := by
    intro off
    simp [withinCapabilities, off]
  channel := by
    intro lowest fixed
    simp only [withinCapabilities, supportedChannel] at lowest fixed ⊢
    split at fixed
    · exact absurd rfl fixed
    · rename_i allowed
      rw [Bool.not_eq_true] at allowed
      rw [if_neg (by simp [allowed])]
      exact hasForbiddenChannel_eq_false_iff.mp allowed lowest fixed

/-! ## Bands -/

theorem withPolicy_eq_self_iff {policy : RadioPolicy} :
    configuration.withPolicy policy = configuration ↔
      policy.changes configuration.band = false := by
  constructor
  · intro same
    rw [← same, band_withPolicy]
    exact policy.changes_convert configuration.band
  · intro same
    simp [withPolicy, same]

theorem IsWithin.withPolicy (within : configuration.IsWithin capabilities)
    (policy : RadioPolicy) : (configuration.withPolicy policy).IsWithin capabilities := by
  unfold Configuration.withPolicy
  split
  · exact ⟨within.security, within.clients, fun _ fixed => absurd rfl fixed⟩
  · exact within

/-! ## What a store holds -/

theorem isSupported_canonical (capabilities : Capabilities) (configuration : Configuration) :
    (Store.canonical capabilities configuration).IsSupported capabilities where
  toIsWithin := (isWithin_withinCapabilities configuration).withPolicy capabilities.policy
  bands := by
    rw [Store.canonical, band_withPolicy]
    exact capabilities.policy.changes_convert _

theorem isNamed_canonical (capabilities : Capabilities) (named : configuration.band.IsNamed) :
    (Store.canonical capabilities configuration).band.IsNamed := by
  rw [Store.canonical, band_withPolicy]
  exact capabilities.policy.isNamed_convert named

theorem IsSupported.withPolicy_eq (supported : configuration.IsSupported capabilities) :
    configuration.withPolicy capabilities.policy = configuration :=
  withPolicy_eq_self_iff.mpr supported.bands

theorem isSupported_tethering (capabilities : Capabilities) (draws : Draws) :
    (Defaults.tethering capabilities draws).1.IsSupported capabilities where
  security := by
    intro sae
    simp only [Defaults.tethering, Defaults.fresh, Defaults.securityType] at sae
    split at sae
    · assumption
    · exact absurd sae (by decide)
  clients := fun _ => ⟨rfl, rfl⟩
  channel := fun _ fixed => absurd rfl fixed
  bands := by
    rw [Capabilities.policy, RadioPolicy.changes_ofWidening_eq_false_iff]
    split
    · change Band.ghz2 ≠ Band.ghz5
      decide
    · exact .inl rfl

theorem isNamed_tethering (capabilities : Capabilities) (draws : Draws) :
    (Defaults.tethering capabilities draws).1.band.IsNamed := by
  change Band.ghz2.IsNamed
  decide

end Configuration

end Hotspot
