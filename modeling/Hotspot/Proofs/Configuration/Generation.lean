import Hotspot.Proofs.Configuration.Validity

/-! What fresh configurations are like, and which numbers they are drawn from. The
SSID takes the first number and the passphrase those behind it, so every fresh
configuration takes as many. Only a name without room for the digits has none, and
the templates of a device always leave that room. -/

namespace Hotspot

namespace Draws

def skip (draws : Draws) (count : Nat) : Draws :=
  { draws with used := draws.used + count }

theorem many_eq (draws : Draws) (count : Nat) :
    draws.many count =
      ((List.range count).map fun index => draws.stream (draws.used + index),
        draws.skip count) := by
  induction count generalizing draws with
  | zero => rfl
  | succ count induction =>
    simp only [many, next, induction, skip, List.range_succ_eq_map, List.map_cons, List.map_map,
      Function.comp_def]
    simp only [Nat.add_zero, Nat.succ_eq_add_one, Nat.add_assoc, Nat.add_comm 1]

end Draws

namespace Defaults

variable {capabilities : Capabilities} {name : String} {band : Band} {draws : Draws}
  {configuration : Configuration}

/-! ## Letters -/

theorem isAlphanum_letter (drawn : Nat) : (letter drawn).isAlphanum = true := by
  have every : alphabet.all Char.isAlphanum = true := by decide +kernel
  have inside : drawn % alphabet.length < alphabet.length :=
    Nat.mod_lt drawn (by decide +kernel)
  rw [letter, List.getD_eq_getElem alphabet 'a' inside]
  exact List.all_eq_true.mp every _ (List.getElem_mem inside)

theorem toList_passphrase (count : Nat) (draws : Draws) :
    (passphrase count draws).1.toList =
      (List.range count).map fun index => letter (draws.stream (draws.used + index)) := by
  rw [passphrase, Draws.many_eq]
  simp only [String.toList_ofList, List.map_map, Function.comp_def]

/-! ## Fresh configurations -/

/-- A valid configuration under a name, with an SSID and a passphrase from the next
sixteen numbers and the usual values otherwise. -/
structure IsFresh (capabilities : Capabilities) (name : String) (band : Band) (draws : Draws)
    (configuration : Configuration) : Prop where
  valid : configuration.flaw? = none
  ssid : ∃ number, 1000 ≤ number ∧ number ≤ 9999 ∧
    number = 1000 + draws.stream draws.used % 9000 ∧
    configuration.ssid = some (name ++ "_" ++ String.ofList (Text.decimal number))
  passphrase : ∃ text, configuration.passphrase = some text ∧ text.length = 15 ∧
    (∀ character ∈ text.toList, character.isAlphanum = true) ∧
    text.toList = (List.range 15).map fun index =>
      letter (draws.stream (draws.used + 1 + index))
  security : configuration.securityType.isSae = true ↔ capabilities.sae.isOn = true
  band : configuration.band = band
  channel : configuration.channel = 0
  hiddenSsid : configuration.hiddenSsid = false
  maxClients : configuration.maxClients = 0
  clientControl : configuration.clientControl = false

theorem IsFresh.withBssid (made : IsFresh capabilities name band draws configuration)
    (bssid : Option MacAddress) :
    IsFresh capabilities name band draws (configuration.withBssid bssid) where
  valid := Configuration.IsValid.withBssid made.valid bssid
  ssid := made.ssid
  passphrase := made.passphrase
  security := made.security
  band := made.band
  channel := made.channel
  hiddenSsid := made.hiddenSsid
  maxClients := made.maxClients
  clientControl := made.clientControl

theorem draws_fresh (capabilities : Capabilities) (name : String) (band : Band) (draws : Draws) :
    (fresh capabilities name band draws).2 = draws.skip 16 := by
  simp only [fresh, ssid, passphrase, Draws.many_eq]
  rfl

theorem draws_tethering (capabilities : Capabilities) (draws : Draws) :
    (tethering capabilities draws).2 = draws.skip 16 :=
  draws_fresh capabilities capabilities.tetherTemplate.text .ghz2 draws

theorem isFresh_fresh (capabilities : Capabilities) (short : name.utf8ByteSize ≤ 27)
    (band : Band) (draws : Draws) :
    IsFresh capabilities name band draws (fresh capabilities name band draws).1 where
  valid := isValid_fresh capabilities short band draws
  ssid := by
    have bound := Nat.mod_lt (draws.stream draws.used) (by decide : 0 < 9000)
    exact ⟨ssidNumber (draws.stream draws.used), Nat.le_add_right 1000 _,
      by unfold ssidNumber; omega, rfl, rfl⟩
  passphrase := by
    have letters := toList_passphrase passphraseLength (ssid name draws).2
    refine ⟨(Defaults.passphrase passphraseLength (Defaults.ssid name draws).2).1, rfl, ?_, ?_,
      letters⟩
    · rw [← String.length_toList, letters, List.length_map, List.length_range]
      rfl
    · rw [letters]
      intro character member
      rcases List.mem_map.mp member with ⟨index, _, rfl⟩
      exact isAlphanum_letter _
  security := by
    simp only [fresh, securityType]
    cases capabilities.sae.isOn <;> decide
  band := rfl
  channel := rfl
  hiddenSsid := rfl
  maxClients := rfl
  clientControl := rfl

/-! ## Generating -/

theorem draw_of_short (short : name.utf8ByteSize ≤ 27) :
    draw capabilities name band draws =
      (.ok (fresh capabilities name band draws).1, draws.skip 16) := by
  rw [draw, checkName, if_pos short, ← draws_fresh capabilities name band draws]

theorem draw_of_long (long : 27 < name.utf8ByteSize) :
    draw capabilities name band draws = (.error .longName, draws) := by
  rw [draw, checkName, if_neg (Nat.not_le.mpr long)]

theorem localOnly_eq (capabilities : Capabilities) (band : Band) (custom : Option Configuration)
    (draws : Draws) :
    localOnly capabilities band custom draws =
      ((fresh capabilities capabilities.localOnlyTemplate.text band draws).1.withBssid
          (custom.bind Configuration.bssid), draws.skip 16) := by
  have left := draws_fresh capabilities capabilities.localOnlyTemplate.text band draws
  unfold localOnly
  dsimp only
  split <;> rename_i address <;> rw [address, ← left]
  rfl

/-- A device generates its configurations without fail, under its templates, and they
are valid. Under any other name a configuration is generated, and is valid, exactly
if the name has at most 27 bytes; otherwise no number is drawn. -/
theorem generates_valid (capabilities : Capabilities) (band : Band)
    (custom : Option Configuration) (draws : Draws) :
    (∃ made, tethering capabilities draws = (made, draws.skip 16) ∧
      draw capabilities capabilities.tetherTemplate.text .ghz2 draws =
        (.ok made, draws.skip 16) ∧
      IsFresh capabilities capabilities.tetherTemplate.text .ghz2 draws made) ∧
    (∃ made, draw capabilities capabilities.localOnlyTemplate.text band draws =
        (.ok made, draws.skip 16) ∧
      localOnly capabilities band custom draws =
        (made.withBssid (custom.bind Configuration.bssid), draws.skip 16) ∧
      IsFresh capabilities capabilities.localOnlyTemplate.text band draws
        (made.withBssid (custom.bind Configuration.bssid))) ∧
    ∀ name : String,
      (27 < name.utf8ByteSize ∧
        draw capabilities name band draws = (.error .longName, draws)) ∨
      (name.utf8ByteSize ≤ 27 ∧ ∃ made,
        draw capabilities name band draws = (.ok made, draws.skip 16) ∧
        IsFresh capabilities name band draws made) := by
  refine ⟨⟨_, Prod.ext rfl (draws_tethering capabilities draws),
      draw_of_short capabilities.tetherTemplate.size_le, ?_⟩,
    ⟨_, draw_of_short capabilities.localOnlyTemplate.size_le, localOnly_eq .., ?_⟩, ?_⟩
  · exact isFresh_fresh capabilities capabilities.tetherTemplate.size_le .ghz2 draws
  · exact (isFresh_fresh capabilities capabilities.localOnlyTemplate.size_le band draws).withBssid _
  · intro name
    rcases Nat.lt_or_ge 27 name.utf8ByteSize with long | short
    · exact .inl ⟨long, draw_of_long long⟩
    · exact .inr ⟨short, _, draw_of_short short, isFresh_fresh capabilities short band draws⟩

end Defaults

end Hotspot
