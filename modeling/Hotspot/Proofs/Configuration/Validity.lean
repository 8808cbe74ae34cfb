import Hotspot.Proofs.Text.Decimal
import Hotspot.Store.Basic
import Mathlib.Data.List.GetD
import Mathlib.Data.String.Basic

/-! Configurations that an access point can run with. What a device makes of a valid
configuration is valid again, since it changes neither the SSID nor the passphrase,
and never whether a passphrase is needed. A fresh configuration is valid as well: its
name leaves room for the number behind it. -/

namespace Hotspot

theorem SecurityType.requiresPassphrase_of_isSae {securityType : SecurityType}
    (sae : securityType.isSae = true) : securityType.requiresPassphrase = true := by
  cases securityType with
  | openAccess => cases sae
  | _ => rfl

namespace Configuration

variable {configuration other : Configuration}

theorem isValid_iff :
    configuration.IsValid ↔
      ssidFlaw? configuration.ssid = none ∧
        passphraseFlaw? configuration.securityType configuration.passphrase = none :=
  Option.or_eq_none_iff

theorem passphraseFlaw?_eq_none_iff {securityType : SecurityType} {passphrase : Option String} :
    passphraseFlaw? securityType passphrase = none ↔
      securityType.requiresPassphrase = passphrase.isSome ∧
        ∀ text ∈ passphrase, Passphrase.leastBytes ≤ text.utf8ByteSize ∧
          text.utf8ByteSize ≤ Passphrase.mostBytes := by
  cases passphrase with
  | none => simp [passphraseFlaw?]
  | some text =>
    cases needed : securityType.requiresPassphrase <;> simp [passphraseFlaw?, needed]

theorem IsValid.of_same (valid : configuration.IsValid) (ssid : other.ssid = configuration.ssid)
    (passphrase : other.passphrase = configuration.passphrase)
    (needed : other.securityType.requiresPassphrase =
      configuration.securityType.requiresPassphrase) : other.IsValid := by
  rw [isValid_iff, passphraseFlaw?_eq_none_iff] at valid ⊢
  rwa [ssid, passphrase, needed]

theorem requiresPassphrase_supportedSecurity (capabilities : Capabilities)
    (configuration : Configuration) :
    (configuration.supportedSecurity capabilities).requiresPassphrase =
      configuration.securityType.requiresPassphrase := by
  unfold supportedSecurity
  split
  · rename_i unsupported
    have sae := (Bool.and_eq_true_iff.mp unsupported).2
    exact (SecurityType.requiresPassphrase_of_isSae sae).symm
  · rfl

theorem IsValid.withinCapabilities (valid : configuration.IsValid)
    (capabilities : Capabilities) : (configuration.withinCapabilities capabilities).IsValid :=
  valid.of_same rfl rfl (requiresPassphrase_supportedSecurity capabilities configuration)

theorem IsValid.withPolicy (valid : configuration.IsValid) (policy : RadioPolicy) :
    (configuration.withPolicy policy).IsValid := by
  unfold Configuration.withPolicy
  split
  · exact valid.of_same rfl rfl rfl
  · exact valid

theorem IsValid.withBssid (valid : configuration.IsValid) (bssid : Option MacAddress) :
    (configuration.withBssid bssid).IsValid :=
  valid.of_same rfl rfl rfl

theorem IsValid.canonical (valid : configuration.IsValid) (capabilities : Capabilities) :
    (Store.canonical capabilities configuration).IsValid :=
  (valid.withinCapabilities capabilities).withPolicy capabilities.policy

end Configuration

/-! ## Fresh configurations -/

namespace Defaults

theorem utf8ByteSize_of_ascii {characters : List Char}
    (ascii : ∀ character ∈ characters, character.utf8Size = 1) :
    (String.ofList characters).utf8ByteSize = characters.length := by
  rw [String.utf8ByteSize_ofList]
  induction characters with
  | nil => rfl
  | cons character rest induction =>
    rw [String.utf8Len_cons, ascii character List.mem_cons_self,
      induction fun later member => ascii later (List.mem_cons_of_mem character member)]
    rfl

theorem utf8Size_letter (drawn : Nat) : (letter drawn).utf8Size = 1 := by
  have ascii : alphabet.all (fun character => character.utf8Size == 1) = true := by
    decide +kernel
  have inside : drawn % alphabet.length < alphabet.length :=
    Nat.mod_lt drawn (by decide +kernel)
  rw [letter, List.getD_eq_getElem alphabet 'a' inside]
  exact eq_of_beq (List.all_eq_true.mp ascii _ (List.getElem_mem inside))

theorem utf8ByteSize_passphrase (count : Nat) (draws : Draws) :
    (passphrase count draws).1.utf8ByteSize = count := by
  have ascii : ∀ character ∈ (draws.many count).1.map letter, character.utf8Size = 1 := by
    intro character member
    rcases List.mem_map.mp member with ⟨drawn, _, rfl⟩
    exact utf8Size_letter drawn
  rw [passphrase, utf8ByteSize_of_ascii ascii, List.length_map, Draws.length_many]

theorem length_decimal_ssidNumber (drawn : Nat) :
    (Text.decimal (ssidNumber drawn)).length = 4 := by
  have least : 1000 ≤ ssidNumber drawn := Nat.le_add_right 1000 _
  have most : ssidNumber drawn < 10000 := by
    have := Nat.mod_lt drawn (by decide : 0 < 9000)
    rw [ssidNumber]
    omega
  rw [Text.decimal_of_le (by omega), Text.decimal_of_le (by omega),
    Text.decimal_of_le (by omega), Text.decimal_of_lt (by omega)]
  rfl

theorem utf8ByteSize_ssid (name : String) (draws : Draws) :
    (ssid name draws).1.utf8ByteSize = name.utf8ByteSize + 5 := by
  have ascii : ∀ character ∈ Text.decimal (ssidNumber draws.next.1),
      character.utf8Size = 1 := by
    intro character member
    have digit : 0x30 ≤ character.val.toNat ∧ character.val.toNat ≤ 0x39 := by
      simpa [Char.isDigit, UInt32.le_iff_toNat_le] using Text.isDigit_of_mem_decimal member
    rw [Char.utf8Size_eq_one_iff, UInt32.le_iff_toNat_le]
    exact digit.2.trans (by decide)
  have low : "_".utf8ByteSize = 1 := by decide +kernel
  rw [ssid]
  dsimp only
  rw [String.utf8ByteSize_append, String.utf8ByteSize_append, low,
    utf8ByteSize_of_ascii ascii, length_decimal_ssidNumber]

theorem isValid_fresh (capabilities : Capabilities) {name : String}
    (short : name.utf8ByteSize ≤ 27) (band : Band) (draws : Draws) :
    (fresh capabilities name band draws).1.IsValid := by
  rw [Configuration.isValid_iff, Configuration.passphraseFlaw?_eq_none_iff]
  have size := utf8ByteSize_ssid name draws
  refine ⟨?_, ?_, ?_⟩
  · simp only [fresh, Configuration.ssidFlaw?, size, Ssid.leastBytes, Ssid.mostBytes]
    rw [if_pos (by omega)]
  · simp only [fresh, securityType]
    split <;> rfl
  · simp only [fresh]
    rintro text ⟨⟩
    rw [utf8ByteSize_passphrase]
    decide

theorem isValid_tethering (capabilities : Capabilities) (draws : Draws) :
    (tethering capabilities draws).1.IsValid :=
  isValid_fresh capabilities capabilities.tetherTemplate.size_le _ draws

theorem isValid_localOnly (capabilities : Capabilities) (band : Band)
    (custom : Option Configuration) (draws : Draws) :
    (localOnly capabilities band custom draws).1.IsValid := by
  have valid := isValid_fresh capabilities capabilities.localOnlyTemplate.size_le band draws
  unfold localOnly
  dsimp only
  split
  · exact valid.withBssid _
  · exact valid

end Defaults

end Hotspot
