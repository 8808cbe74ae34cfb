import Hotspot.Proofs.Configuration.Support
import Hotspot.Proofs.Configuration.Validity

/-! The form that a device gives to a configuration. Its features decide about the
security type, the clients and the channel, and its radios about the bands. The two may
act in either order and as often as they like: what comes out is the same, belongs to the
same network, and is as valid as before. -/

namespace Hotspot.Configuration

variable {capabilities : Capabilities} {policy : RadioPolicy} {configuration : Configuration}

def resetSettings (capabilities : Capabilities) (configuration : Configuration) : Settings :=
  { configuration.settings with
    securityType := configuration.supportedSecurity capabilities
    channel := configuration.supportedChannel capabilities
    maxClients := if capabilities.clientControl.isOn then configuration.settings.maxClients else 0
    clientControl := capabilities.clientControl.isOn && configuration.clientControl }

def policySettings (policy : RadioPolicy) (configuration : Configuration) : Settings :=
  if policy.changes configuration.band then
    { configuration.settings with band := policy.convert configuration.band, channel := 0 }
  else
    configuration.settings

/-- Features and bands apart, a device leaves a configuration alone. -/
structure SameNetwork (configuration other : Configuration) : Prop where
  ssid : other.ssid = configuration.ssid
  bssid : other.bssid = configuration.bssid
  passphrase : other.passphrase = configuration.passphrase
  hiddenSsid : other.hiddenSsid = configuration.hiddenSsid

/-! ## The checks of a rewriting -/

theorem check_resetSettings (capabilities : Capabilities) (configuration : Configuration) :
    (configuration.resetSettings capabilities).check =
      .ok (configuration.withinCapabilities capabilities) := by
  have same : configuration.resetSettings capabilities =
      (configuration.withinCapabilities capabilities).settings := by
    cases control : capabilities.clientControl.isOn <;>
      simp [resetSettings, withinCapabilities, settings, control]
  rw [same]
  exact check_settings _

theorem check_policySettings (policy : RadioPolicy) (configuration : Configuration) :
    (configuration.policySettings policy).check = .ok (configuration.withPolicy policy) := by
  have same : configuration.policySettings policy = (configuration.withPolicy policy).settings := by
    unfold policySettings withPolicy
    split <;> rfl
  rw [same]
  exact check_settings _

/-! ## Bands and channels -/

theorem changes_eq_true_iff :
    policy.changes configuration.band = true ↔
      (configuration.withPolicy policy).band ≠ configuration.band := by
  rw [band_withPolicy]
  exact decide_eq_true_iff

theorem channel_withPolicy_of_changes (changes : policy.changes configuration.band = true) :
    (configuration.withPolicy policy).channel = 0 := by
  simp [withPolicy, changes]

theorem channel_withPolicy_eq_iff :
    (configuration.withPolicy policy).channel = configuration.channel ↔
      (configuration.withPolicy policy).band = configuration.band ∨ configuration.channel = 0 := by
  cases changes : policy.changes configuration.band with
  | false =>
    have same := withPolicy_eq_self_iff.mpr changes
    rw [same]
    exact iff_of_true rfl (.inl rfl)
  | true =>
    rw [channel_withPolicy_of_changes changes, or_iff_right (changes_eq_true_iff.mp changes)]
    exact eq_comm

theorem supportedChannel_of_eq_zero (capabilities : Capabilities)
    (free : configuration.channel = 0) :
    configuration.supportedChannel capabilities = 0 := by
  simp [supportedChannel, free]

/-! ## Order and repetition -/

theorem withPolicy_withinCapabilities (capabilities : Capabilities) (policy : RadioPolicy)
    (configuration : Configuration) :
    (configuration.withinCapabilities capabilities).withPolicy policy =
      (configuration.withPolicy policy).withinCapabilities capabilities := by
  have sameBand : (configuration.withinCapabilities capabilities).band = configuration.band := rfl
  cases changes : policy.changes configuration.band with
  | false =>
    rw [withPolicy_eq_self_iff.mpr changes, withPolicy_eq_self_iff.mpr (sameBand ▸ changes)]
  | true =>
    have free := supportedChannel_of_eq_zero capabilities
      (channel_withPolicy_of_changes changes)
    simp only [withPolicy, changes, if_true] at free
    simp only [withPolicy, withinCapabilities, changes, if_true, free]
    rfl

theorem withinCapabilities_rewritten (capabilities : Capabilities) (policy : RadioPolicy)
    (configuration : Configuration) :
    let rewritten := (configuration.withinCapabilities capabilities).withPolicy policy
    rewritten.withinCapabilities capabilities = rewritten :=
  withinCapabilities_eq_self_iff.mpr ((isWithin_withinCapabilities configuration).withPolicy policy)

theorem withPolicy_rewritten (capabilities : Capabilities) (policy : RadioPolicy)
    (configuration : Configuration) :
    let rewritten := (configuration.withinCapabilities capabilities).withPolicy policy
    rewritten.withPolicy policy = rewritten := by
  apply withPolicy_eq_self_iff.mpr
  rw [band_withPolicy]
  exact policy.changes_convert _

/-! ## What stays -/

theorem sameNetwork_withinCapabilities (capabilities : Capabilities)
    (configuration : Configuration) :
    configuration.SameNetwork (configuration.withinCapabilities capabilities) :=
  ⟨rfl, rfl, rfl, rfl⟩

theorem sameNetwork_withPolicy (policy : RadioPolicy) (configuration : Configuration) :
    configuration.SameNetwork (configuration.withPolicy policy) := by
  unfold withPolicy
  split <;> exact ⟨rfl, rfl, rfl, rfl⟩

theorem SameNetwork.trans {first middle last : Configuration} (before : first.SameNetwork middle)
    (after : middle.SameNetwork last) : first.SameNetwork last :=
  ⟨after.ssid.trans before.ssid, after.bssid.trans before.bssid,
    after.passphrase.trans before.passphrase, after.hiddenSsid.trans before.hiddenSsid⟩

theorem securityType_withPolicy (policy : RadioPolicy) (configuration : Configuration) :
    (configuration.withPolicy policy).securityType = configuration.securityType := by
  unfold withPolicy
  split <;> rfl

theorem isValid_rewritten_iff (capabilities : Capabilities) (policy : RadioPolicy)
    (configuration : Configuration) :
    ((configuration.withinCapabilities capabilities).withPolicy policy).IsValid ↔
      configuration.IsValid := by
  constructor
  · intro valid
    have same := (sameNetwork_withinCapabilities capabilities configuration).trans
      (sameNetwork_withPolicy policy _)
    apply valid.of_same same.ssid.symm same.passphrase.symm
    rw [securityType_withPolicy]
    exact (requiresPassphrase_supportedSecurity capabilities configuration).symm
  · intro valid
    exact (valid.withinCapabilities capabilities).withPolicy policy

/-- Bringing a configuration within the features of a device and onto the bands of its
radios is a canonicalisation. -/
theorem rewriting_is_canonical (capabilities : Capabilities) (policy : RadioPolicy)
    (configuration : Configuration) :
    let reset := withinCapabilities capabilities
    let normalize := withPolicy policy
    let rewritten := normalize (reset configuration)
    (configuration.resetSettings capabilities).check = .ok (reset configuration) ∧
      (configuration.policySettings policy).check = .ok (normalize configuration) ∧
      rewritten = reset (normalize configuration) ∧
      normalize (reset rewritten) = rewritten ∧
      reset rewritten = rewritten ∧
      normalize rewritten = rewritten ∧
      (policy.changes configuration.band = true ↔
        (normalize configuration).band ≠ configuration.band) ∧
      ((normalize configuration).channel = configuration.channel ↔
        (normalize configuration).band = configuration.band ∨ configuration.channel = 0) ∧
      (normalize configuration).band.includes .ghz5 = configuration.band.includes .ghz5 ∧
      configuration.SameNetwork (reset configuration) ∧
      configuration.SameNetwork (normalize configuration) ∧
      configuration.SameNetwork rewritten ∧
      (rewritten.flaw? = none ↔ configuration.flaw? = none) := by
  intro reset normalize rewritten
  have within : reset rewritten = rewritten :=
    withinCapabilities_rewritten capabilities policy configuration
  have usable : normalize rewritten = rewritten :=
    withPolicy_rewritten capabilities policy configuration
  have resets : configuration.SameNetwork (reset configuration) :=
    sameNetwork_withinCapabilities capabilities configuration
  have includes : (normalize configuration).band.includes .ghz5 =
      configuration.band.includes .ghz5 := by
    rw [band_withPolicy]
    exact policy.includes_ghz5_convert _
  exact ⟨check_resetSettings capabilities configuration,
    check_policySettings policy configuration,
    withPolicy_withinCapabilities capabilities policy configuration,
    (congrArg normalize within).trans usable, within, usable,
    changes_eq_true_iff, channel_withPolicy_eq_iff, includes,
    resets, sameNetwork_withPolicy policy configuration,
    resets.trans (sameNetwork_withPolicy policy (reset configuration)),
    isValid_rewritten_iff capabilities policy configuration⟩

end Hotspot.Configuration
