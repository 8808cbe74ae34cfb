import Hotspot.Proofs.Capabilities.Channels
import Hotspot.Proofs.Text.Utf8
import Mathlib.Data.List.DropRight

/-! What reading a resource file comes to, for every content that there is. Either the
capabilities are what the fields say, or the file is refused with an error that is true of it.
One error is no refusal with a wording but a failure to convert: that of an infinite number
among the channels. -/

namespace Hotspot

namespace Text

theorem trim_eq_nil_of_isBlankText {text : List Char}
    (blank : isBlankText (trim text) = true) : trim text = [] := by
  unfold isBlankText trim trimWhere at blank
  rw [List.all_reverse] at blank
  have shorter := List.dropWhile_eq_nil_iff.mpr (List.all_eq_true.mp blank)
  rw [List.dropWhile_idempotent] at shorter
  rw [trim, trimWhere, shorter, List.reverse_nil]

theorem ofCodePoints?_trimPoints {points : List Nat} (broken : ofCodePoints? points = none) :
    ofCodePoints? (trimPoints points) = none := by
  rcases exists_trimWhere isBlankPoint points with ⟨front, back, whole, blankFront, blankBack⟩
  have isCharacter_of_isBlankPoint {point : Nat} (blank : isBlankPoint point = true) :
      isCharacter point = true := by
    rcases (Option.any_eq_true ..).mp blank with ⟨character, found, _⟩
    rw [isCharacter, found, Option.isSome_some]
  cases read : ofCodePoints? (trimPoints points) with
  | none => rfl
  | some text =>
    have kept := codePoints_of_ofCodePoints? read
    rw [← trimPoints, kept] at whole
    have characters : ∀ point ∈ points, isCharacter point = true := by
      intro point member
      rw [whole] at member
      rcases List.mem_append.mp member with member | member
      · rcases List.mem_append.mp member with member | member
        · exact isCharacter_of_isBlankPoint (blankFront point member)
        · exact isCharacter_of_mem_codePoints member
      · exact isCharacter_of_isBlankPoint (blankBack point member)
    rcases exists_ofCodePoints? characters with ⟨other, read⟩
    exact absurd (read.symm.trans broken) (Option.some_ne_none other)

end Text

namespace Capabilities

open Hotspot.Configuration

variable {held : String → Json.Node} {node : Json.Node} {value : Value} {role : TemplateRole}
  {default template : Template} {text name : String} {points : List Nat}
  {capabilities : Capabilities} {failure : ResourceError}

def TemplateRole.field : TemplateRole → String
  | .tether => "tether_ssid_default"
  | .localOnly => "localhotspot_ssid_default"

def TemplateRole.usual : TemplateRole → Template
  | .tether => .usualTether
  | .localOnly => .usualLocalOnly

def switchFields : List String :=
  ["convert_apband_5ghz_to_any", "softap_sae_supported", "ap_mac_randomization_supported",
   "softap_client_force_disconnect_supported"]

def channelField : String := "softap_2g_channel_list"

/-! ## What the fields say -/

def ReadsSwitch (node : Json.Node) (feature : Feature) : Prop :=
  ∃ value switch, node.value? = some value ∧ Flag.ofValue false value = .ok switch ∧
    feature = .ofSwitch switch

inductive HoldsText : Json.Node → List Nat → Prop
  | string {node : Json.Node} {text : String} : node.value? = some (.text text) →
      HoldsText node (Text.codePoints (String.ofList (Text.trim text.toList)))
  | points {points : List Nat} : (Json.Node.text points).value? = none →
      HoldsText (.text points) (Text.trimPoints points)

def ReadsTemplate (node : Json.Node) (role : TemplateRole) (template : Template) : Prop :=
  (node.value? = some .null ∧ template = role.usual) ∨
    HoldsText node (Text.codePoints template.text)

def ReadsChannels (node : Json.Node) (channels : List Channel) : Prop :=
  (node.value? = some .null ∧ channels = Channel.usual) ∨
    ∃ items, HasNodes node items ∧
      List.Forall₂ (fun item stated => NodeStates item stated.number) items channels

/-- Each capability is what the field of that capability says. -/
structure IsReadFrom (held : String → Json.Node) (capabilities : Capabilities) : Prop where
  widens5Ghz : ReadsSwitch (held "convert_apband_5ghz_to_any") capabilities.widens5Ghz
  sae : ReadsSwitch (held "softap_sae_supported") capabilities.sae
  macRandomization :
    ReadsSwitch (held "ap_mac_randomization_supported") capabilities.macRandomization
  clientControl :
    ReadsSwitch (held "softap_client_force_disconnect_supported") capabilities.clientControl
  tetherTemplate :
    ReadsTemplate (held TemplateRole.tether.field) .tether capabilities.tetherTemplate
  localOnlyTemplate :
    ReadsTemplate (held TemplateRole.localOnly.field) .localOnly capabilities.localOnlyTemplate
  channels : ReadsChannels (held channelField) capabilities.channels

structure IsWithinBounds (capabilities : Capabilities) : Prop where
  templates : ∀ template ∈ [capabilities.tetherTemplate, capabilities.localOnlyTemplate],
    Text.isBlankText template.text.toList = false ∧ template.text.utf8ByteSize ≤ 27
  channels : ∀ channel ∈ capabilities.channels, 1 ≤ channel.number ∧ channel.number ≤ 14

theorem isWithinBounds (capabilities : Capabilities) : capabilities.IsWithinBounds where
  templates template _ := ⟨template.not_blank, template.size_le⟩
  channels channel _ := ⟨channel.one_le, channel.le_fourteen⟩

/-- What the error says of the field that it is about is so. -/
inductive ResourceError.IsFaultOfField (held : String → Json.Node) : ResourceError → Prop
  | flag {name : String} : name ∈ switchFields →
      (∀ value, (held name).value? = some value → Flag.ofValue false value = .error .notFlag) →
      IsFaultOfField held (.flag .notFlag)
  | blankTemplate {role : TemplateRole} : (held role.field).value? ≠ some .null →
      (∀ points, HoldsText (held role.field) points → points = []) →
      IsFaultOfField held .blankTemplate
  | longTemplate {role : TemplateRole} {text : String} :
      HoldsText (held role.field) (Text.codePoints text) → 27 < text.utf8ByteSize →
      IsFaultOfField held (.capabilities (.longTemplate role))
  | unencodable {role : TemplateRole} {points : List Nat} :
      HoldsText (held role.field) points → Text.ofCodePoints? points = none →
      IsFaultOfField held (.unencodable points)
  | channelListKind : (held channelField).value? ≠ some .null →
      (∀ items, ¬HasNodes (held channelField) items) → IsFaultOfField held .channelListKind
  | channel {items : List Json.Node} {item : Json.Node} {error : ResourceError} :
      HasNodes (held channelField) items → item ∈ items → error.IsFaultOfNode item →
      IsFaultOfField held error

def IsStatedBy (node : Json.Node) (capabilities : Capabilities) : Prop :=
  ∃ held, node.held? = some held ∧ capabilities.IsReadFrom held

/-- There is no object, or what the error says of one of its fields is so. -/
inductive ResourceError.IsFaultOf (node : Json.Node) : ResourceError → Prop
  | notObject : node.held? = none → IsFaultOf node .notObject
  | field {held : String → Json.Node} {error : ResourceError} :
      node.held? = some held → error.IsFaultOfField held → IsFaultOf node error

/-! ## Switches and templates -/

theorem switchOfNode_eq_ok {feature : Feature} (reads : switchOfNode node = .ok feature) :
    ReadsSwitch node feature := by
  unfold switchOfNode at reads
  split at reads
  · rename_i value spelled
    cases read : Flag.ofValue false value with
    | error error =>
      rw [read] at reads
      cases reads
    | ok switch =>
      rw [read] at reads
      cases reads
      exact ⟨value, switch, spelled, read, rfl⟩
  · cases reads

theorem isFaultOfField_of_switch (known : name ∈ switchFields)
    (fails : switchOfNode (held name) = .error failure) : failure.IsFaultOfField held := by
  unfold switchOfNode at fails
  split at fails
  · rename_i value spelled
    cases read : Flag.ofValue false value with
    | ok switch =>
      rw [read] at fails
      cases fails
    | error error =>
      rw [read] at fails
      cases fails
      cases error
      refine .flag known fun other same => ?_
      rw [spelled] at same
      cases same
      exact read
  · rename_i noValue
    cases fails
    exact .flag known fun value spelled => nomatch noValue.symm.trans spelled

theorem templateText_eq_ok (reads : templateText default value = .ok text) :
    (value = .null ∧ text = default.text) ∨
      ∃ given, value = .text given ∧ Text.trim given.toList ≠ [] ∧
        text = String.ofList (Text.trim given.toList) := by
  cases value with
  | null =>
    cases reads
    exact .inl ⟨rfl, rfl⟩
  | text given =>
    by_cases empty : Text.trim given.toList = []
    · simp [templateText, empty] at reads
    · simp only [templateText, List.isEmpty_iff, empty, if_false, Except.ok.injEq] at reads
      exact .inr ⟨given, rfl, empty, reads.symm⟩
  | _ => cases reads

theorem templateText_eq_error (fails : templateText default value = .error failure) :
    failure = .blankTemplate ∧ value ≠ .null ∧
      ∀ given, value = .text given → Text.trim given.toList = [] := by
  cases value with
  | null => cases fails
  | text given =>
    by_cases empty : Text.trim given.toList = []
    · simp only [templateText, empty, List.isEmpty_nil, if_true] at fails
      cases fails
      refine ⟨rfl, nofun, ?_⟩
      rintro other ⟨⟩
      exact empty
    · simp [templateText, empty] at fails
  | _ =>
    cases fails
    exact ⟨rfl, nofun, nofun⟩

theorem template_text (template : Template) :
    Capabilities.template role template.text = .ok template := by
  rw [Capabilities.template, dif_pos template.not_blank, dif_pos template.size_le]

theorem template_eq_ok (read : Capabilities.template role text = .ok template) :
    text = template.text := by
  unfold Capabilities.template at read
  split at read
  · split at read
    · cases read
      rfl
    · cases read
  · cases read

theorem template_eq_error {error : Error} (fails : Capabilities.template role text = .error error) :
    (error = .blankTemplate role ∧ Text.isBlankText text.toList = true) ∨
      error = .longTemplate role ∧ 27 < text.utf8ByteSize := by
  unfold Capabilities.template at fails
  split at fails
  · split at fails
    · cases fails
    · rename_i long
      cases fails
      exact .inr ⟨rfl, Nat.not_le.mp long⟩
  · rename_i blank
    cases fails
    exact .inl ⟨rfl, Bool.eq_true_of_not_eq_false blank⟩

inductive TakesText (default : Template) (node : Json.Node) : List Nat → Prop
  | missing : node.value? = some .null → TakesText default node (Text.codePoints default.text)
  | string {given : String} : node.value? = some (.text given) → Text.trim given.toList ≠ [] →
      TakesText default node (Text.codePoints (String.ofList (Text.trim given.toList)))
  | broken {points : List Nat} : HoldsText node points → Text.ofCodePoints? points = none →
      TakesText default node points

theorem templatePoints_eq_ok (reads : templatePoints default node = .ok points) :
    TakesText default node points := by
  cases spelled : node.value? with
  | some value =>
    simp only [templatePoints, spelled] at reads
    cases read : templateText default value with
    | error error =>
      rw [read] at reads
      cases reads
    | ok text =>
      rw [read] at reads
      cases reads
      rcases templateText_eq_ok read with ⟨rfl, rfl⟩ | ⟨given, rfl, present, rfl⟩
      · exact .missing spelled
      · exact .string spelled present
  | none =>
    cases node with
    | text held =>
      simp only [templatePoints, spelled] at reads
      cases reads
      exact .broken (.points spelled)
        (Text.ofCodePoints?_trimPoints (Option.map_eq_none_iff.mp spelled))
    | value held => cases spelled
    | _ =>
      simp only [templatePoints, spelled] at reads
      cases reads

theorem templatePoints_eq_error (fails : templatePoints default node = .error failure) :
    failure = .blankTemplate ∧ node.value? ≠ some .null ∧
      ∀ points, HoldsText node points → points = [] := by
  cases spelled : node.value? with
  | some value =>
    simp only [templatePoints, spelled] at fails
    cases read : templateText default value with
    | ok text =>
      rw [read] at fails
      cases fails
    | error error =>
      rw [read] at fails
      cases fails
      rcases templateText_eq_error read with ⟨rfl, present, empty⟩
      refine ⟨rfl, fun missing => present (Option.some.inj missing), ?_⟩
      rintro _ (same | noValue)
      · rw [spelled] at same
        rw [empty _ (Option.some.inj same)]
        rfl
      · exact nomatch spelled.symm.trans noValue
  | none =>
    cases node with
    | text held =>
      simp only [templatePoints, spelled] at fails
      cases fails
    | value held => cases spelled
    | _ =>
      simp only [templatePoints, spelled] at fails
      cases fails
      refine ⟨rfl, nofun, ?_⟩
      rintro _ ⟨same⟩
      exact nomatch spelled.symm.trans same

theorem isFaultOfField_of_templatePoints (role : TemplateRole)
    (fails : templatePoints role.usual (held role.field) = .error failure) :
    failure.IsFaultOfField held := by
  rcases templatePoints_eq_error fails with ⟨rfl, present, empty⟩
  exact .blankTemplate present empty

theorem templateOfPoints_codePoints (text : String) :
    templateOfPoints role (Text.codePoints text) =
      (Capabilities.template role text).mapError .capabilities := by
  rw [templateOfPoints, Text.ofCodePoints?_codePoints]

theorem templateOfPoints_of_broken (broken : Text.ofCodePoints? points = none) :
    templateOfPoints role points = .error (.unencodable points) := by
  rw [templateOfPoints, broken]

theorem TakesText.readsTemplate (takes : TakesText role.usual node points)
    (reads : templateOfPoints role points = .ok template) : ReadsTemplate node role template := by
  cases takes with
  | missing spelled =>
    rw [templateOfPoints_codePoints, template_text] at reads
    cases reads
    exact .inl ⟨spelled, rfl⟩
  | string spelled =>
    rw [templateOfPoints_codePoints] at reads
    rw [ReadsTemplate, ← template_eq_ok (mapError_eq_ok reads)]
    exact .inr (.string spelled)
  | broken _ broken =>
    rw [templateOfPoints_of_broken broken] at reads
    cases reads

theorem TakesText.isFaultOfField (takes : TakesText role.usual (held role.field) points)
    (fails : templateOfPoints role points = .error failure) : failure.IsFaultOfField held := by
  cases takes with
  | missing =>
    rw [templateOfPoints_codePoints, template_text] at fails
    cases fails
  | string spelled present =>
    rw [templateOfPoints_codePoints] at fails
    rcases mapError_eq_error fails with ⟨error, refused, rfl⟩
    rcases template_eq_error refused with ⟨rfl, blank⟩ | ⟨rfl, long⟩
    · rw [String.toList_ofList] at blank
      exact absurd (Text.trim_eq_nil_of_isBlankText blank) present
    · exact .longTemplate (.string spelled) long
  | broken holds broken =>
    rw [templateOfPoints_of_broken broken] at fails
    cases fails
    exact .unencodable holds broken

/-! ## Channels -/

theorem readsChannels_getD {read : Option (List Channel)}
    (reads : channelsOfNode? node = .ok read) : ReadsChannels node (read.getD Channel.usual) := by
  rcases channelsOfNode?_eq_ok reads with ⟨missing, rfl⟩ | ⟨items, channels, has, rfl, states⟩
  · exact .inl ⟨missing, rfl⟩
  · exact .inr ⟨items, has, states⟩

theorem isFaultOfField_of_channels
    (fails : channelsOfNode? (held channelField) = .error failure) :
    failure.IsFaultOfField held := by
  rcases channelsOfNode?_eq_error fails with
    ⟨rfl, present, noItems⟩ | ⟨items, has, item, member, fault⟩
  · exact .channelListKind present noItems
  · exact .channel has member fault

/-! ## Files -/

theorem isReadFrom_of_ofHeld (read : ofHeld held = .ok capabilities) :
    capabilities.IsReadFrom held := by
  unfold ofHeld at read
  obtain ⟨widens5Ghz, widensRead, read⟩ := bind_eq_ok read
  obtain ⟨sae, saeRead, read⟩ := bind_eq_ok read
  obtain ⟨macRandomization, macRead, read⟩ := bind_eq_ok read
  obtain ⟨clientControl, clientRead, read⟩ := bind_eq_ok read
  obtain ⟨tetherText, tetherTextRead, read⟩ := bind_eq_ok read
  obtain ⟨localOnlyText, localOnlyTextRead, read⟩ := bind_eq_ok read
  obtain ⟨channels, channelsRead, read⟩ := bind_eq_ok read
  obtain ⟨tetherTemplate, tetherRead, read⟩ := bind_eq_ok read
  obtain ⟨localOnlyTemplate, localOnlyRead, read⟩ := bind_eq_ok read
  cases read
  have tetherTakes := @templatePoints_eq_ok _ TemplateRole.tether.usual _ tetherTextRead
  have localOnlyTakes := @templatePoints_eq_ok _ TemplateRole.localOnly.usual _ localOnlyTextRead
  exact
    { widens5Ghz := switchOfNode_eq_ok widensRead
      sae := switchOfNode_eq_ok saeRead
      macRandomization := switchOfNode_eq_ok macRead
      clientControl := switchOfNode_eq_ok clientRead
      tetherTemplate := tetherTakes.readsTemplate tetherRead
      localOnlyTemplate := localOnlyTakes.readsTemplate localOnlyRead
      channels := readsChannels_getD channelsRead }

theorem isFaultOfField_of_ofHeld (fails : ofHeld held = .error failure) :
    failure.IsFaultOfField held := by
  unfold ofHeld at fails
  rcases bind_eq_error fails with fails | ⟨widens5Ghz, _, fails⟩
  · exact isFaultOfField_of_switch (by simp [switchFields]) fails
  rcases bind_eq_error fails with fails | ⟨sae, _, fails⟩
  · exact isFaultOfField_of_switch (by simp [switchFields]) fails
  rcases bind_eq_error fails with fails | ⟨macRandomization, _, fails⟩
  · exact isFaultOfField_of_switch (by simp [switchFields]) fails
  rcases bind_eq_error fails with fails | ⟨clientControl, _, fails⟩
  · exact isFaultOfField_of_switch (by simp [switchFields]) fails
  rcases bind_eq_error fails with fails | ⟨tetherText, tetherRead, fails⟩
  · exact isFaultOfField_of_templatePoints .tether fails
  rcases bind_eq_error fails with fails | ⟨localOnlyText, localOnlyRead, fails⟩
  · exact isFaultOfField_of_templatePoints .localOnly fails
  rcases bind_eq_error fails with fails | ⟨channels, _, fails⟩
  · exact isFaultOfField_of_channels fails
  rcases bind_eq_error fails with fails | ⟨tetherTemplate, _, fails⟩
  · have takes := @templatePoints_eq_ok _ TemplateRole.tether.usual _ tetherRead
    exact takes.isFaultOfField fails
  rcases bind_eq_error fails with fails | ⟨localOnlyTemplate, _, fails⟩
  · have takes := @templatePoints_eq_ok _ TemplateRole.localOnly.usual _ localOnlyRead
    exact takes.isFaultOfField fails
  cases fails

def HasInfiniteChannel (node : Json.Node) : Prop :=
  ∃ (held : String → Json.Node) (items : List Json.Node) (item : Json.Node) (negative : Bool),
    node.held? = some held ∧ HasNodes (held channelField) items ∧ item ∈ items ∧
      item.value? = some (.float (.infinite negative))

theorem HasItems.unique {items others : List Value} (has : HasItems value items)
    (otherHas : HasItems value others) : items = others := by
  cases has <;> cases otherHas <;> rfl

theorem ResourceError.IsFaultOfItem.isWorded {item : Value} (fault : failure.IsFaultOfItem item) :
    failure.message?.isSome = true ∨
      failure = .infiniteChannel ∧ ∃ negative, item = .float (.infinite negative) := by
  cases fault with
  | infinite => exact .inr ⟨rfl, _, rfl⟩
  | _ => exact .inl rfl

theorem ResourceError.IsFaultOf.isWorded (fault : failure.IsFaultOf node) :
    failure.message?.isSome = true ∨ failure = .infiniteChannel ∧ HasInfiniteChannel node := by
  cases fault with
  | notObject => exact .inl rfl
  | field object fault =>
    cases fault with
    | channel has member fault =>
      cases fault with
      | noValue => exact .inl rfl
      | value spelled fault =>
        rcases fault.isWorded with worded | ⟨rfl, negative, rfl⟩
        · exact .inl worded
        · exact .inr ⟨rfl, _, _, _, negative, object, has, member, spelled⟩
    | _ => exact .inl rfl

def IsLoadedFrom (entry : Option Entry) (capabilities : Capabilities) : Prop :=
  (entry = none ∧ capabilities = {}) ∨
    ∃ bytes node, entry = some (.file bytes) ∧ Json.nodeOfUtf8? bytes = some node ∧
      capabilities.IsStatedBy node

/-- What the error says of what is found in place of a resource file is so. -/
inductive ResourceError.IsFaultOfEntry : Entry → ResourceError → Prop
  | directory : IsFaultOfEntry .directory .unreadable
  | noJson {bytes : List UInt8} :
      Json.nodeOfUtf8? bytes = none → IsFaultOfEntry (.file bytes) .unreadable
  | node {bytes : List UInt8} {node : Json.Node} {error : ResourceError} :
      Json.nodeOfUtf8? bytes = some node → error.IsFaultOf node → IsFaultOfEntry (.file bytes) error

theorem ofNode_cases (node : Json.Node) :
    (∃ capabilities, ofNode node = .ok capabilities ∧ capabilities.IsStatedBy node) ∨
      ∃ error, ofNode node = .error error ∧ error.IsFaultOf node ∧
        (error.message?.isSome = true ∨ error = .infiniteChannel ∧ HasInfiniteChannel node) := by
  cases object : node.held? with
  | none =>
    refine .inr ⟨.notObject, ?_, .notObject object, .inl rfl⟩
    simp only [ofNode, object]
  | some held =>
    have same : ofNode node = ofHeld held := by
      simp only [ofNode, object]
    rw [same]
    cases result : ofHeld held with
    | ok capabilities => exact .inl ⟨capabilities, rfl, held, object, isReadFrom_of_ofHeld result⟩
    | error error =>
      have fault : error.IsFaultOf node := .field object (isFaultOfField_of_ofHeld result)
      exact .inr ⟨error, rfl, fault, fault.isWorded⟩

theorem ofEntry_cases (entry : Option Entry) :
    (∃ capabilities, ofEntry entry = .ok capabilities ∧ capabilities.IsLoadedFrom entry) ∨
      ∃ found error, entry = some found ∧ ofEntry entry = .error error ∧
        error.IsFaultOfEntry found ∧
        (error.message?.isSome = true ∨ error = .infiniteChannel ∧
          ∃ bytes node, found = .file bytes ∧ Json.nodeOfUtf8? bytes = some node ∧
            HasInfiniteChannel node) := by
  match entry with
  | none => exact .inl ⟨{}, rfl, .inl ⟨rfl, rfl⟩⟩
  | some .directory => exact .inr ⟨.directory, .unreadable, rfl, rfl, .directory, .inl rfl⟩
  | some (.file bytes) =>
    cases decoded : Json.nodeOfUtf8? bytes with
    | none =>
      refine .inr ⟨.file bytes, .unreadable, rfl, ?_, .noJson decoded, .inl rfl⟩
      simp only [ofEntry, decoded]
    | some node =>
      have same : ofEntry (some (.file bytes)) = ofNode node := by
        simp only [ofEntry, decoded]
      rw [same]
      rcases ofNode_cases node with ⟨capabilities, read, states⟩ | ⟨error, refused, fault, worded⟩
      · exact .inl ⟨capabilities, read, .inr ⟨bytes, node, rfl, decoded, states⟩⟩
      · exact .inr ⟨.file bytes, error, rfl, refused, .node decoded fault,
          worded.imp_right fun infinite => ⟨infinite.1, bytes, node, rfl, decoded, infinite.2⟩⟩

theorem isWorded_of_channelList {items : List Value} (has : HasItems value items)
    (fails : channelList? value = .error failure) :
    failure.message?.isSome = true ∨
      failure = .infiniteChannel ∧ ∃ negative, .float (.infinite negative) ∈ items := by
  rcases channelList?_eq_error fails with
    ⟨rfl, _, _⟩ | ⟨others, otherHas, item, member, fault⟩
  · exact .inl rfl
  obtain rfl := has.unique otherHas
  rcases fault.isWorded with worded | ⟨rfl, negative, rfl⟩
  · exact .inl worded
  · exact .inr ⟨rfl, negative, member⟩

/-- Whatever is found in place of a resource file, and whatever value it holds, the
capabilities are what it says and within their bounds, or it is refused with an error that is
true of it; and a list of channels is read exactly if each of its items states a channel. The
only error without a wording is that of an infinite number in a list of channels. -/
theorem read_or_refused (entry : Option Entry) (value : Value) :
    ((∃ capabilities, ofEntry entry = .ok capabilities ∧ capabilities.IsWithinBounds ∧
          capabilities.IsLoadedFrom entry) ∨
        ∃ found error, entry = some found ∧ ofEntry entry = .error error ∧
          error.IsFaultOfEntry found ∧
          (error.message?.isSome = true ∨ error = .infiniteChannel ∧
            ∃ bytes node, found = .file bytes ∧ Json.nodeOfUtf8? bytes = some node ∧
              HasInfiniteChannel node)) ∧
      ((∃ capabilities, ofValue value = .ok capabilities ∧ capabilities.IsWithinBounds ∧
          capabilities.IsStatedBy (.value value)) ∨
        ∃ error, ofValue value = .error error ∧ error.IsFaultOf (.value value) ∧
          (error.message?.isSome = true ∨
            error = .infiniteChannel ∧ HasInfiniteChannel (.value value))) ∧
      ∀ items, HasItems value items →
        (∀ channels, channelList? value = .ok (some channels) ↔
          List.Forall₂ (fun item stated => (∀ switch, item ≠ .bool switch) ∧
            (item.Denotes stated.number ∨ item.IsFractionOf stated.number)) items channels) ∧
        ∀ error, channelList? value = .error error →
          error.message?.isSome = true ∨ error = .infiniteChannel ∧
            ∃ negative, .float (.infinite negative) ∈ items := by
  refine ⟨?_, ?_, ?_⟩
  · rcases ofEntry_cases entry with ⟨capabilities, read, loaded⟩ | refused
    · exact .inl ⟨capabilities, read, capabilities.isWithinBounds, loaded⟩
    · exact .inr refused
  · rcases ofNode_cases (.value value) with ⟨capabilities, read, stated⟩ | refused
    · exact .inl ⟨capabilities, read, capabilities.isWithinBounds, stated⟩
    · exact .inr refused
  · intro items has
    exact ⟨fun channels => channelList?_eq_ok_iff_of_hasItems has,
      fun error fails => isWorded_of_channelList has fails⟩

example :
    (ofEntry (some (.file "\x7b\"tether_ssid_default\": \"\\ud800\"\x7d".toUTF8.toList)) matches
        .error (.unencodable [0xD800])) = true ∧
      (ofEntry (some (.file "\x7b\"\\ud800\": [\"\\udc00\"]\x7d".toUTF8.toList)) matches
        .ok _) = true := by
  decide +kernel

example : encodingComplaint [0x41, 0xD800] =
    "'utf-8' codec can't encode character '\\ud800' in position 1: surrogates not allowed" := by
  decide +kernel

/-- An infinite number in the list of a file is an error without a wording, and 6.5 is read as
channel 6, although it is no integer. -/
theorem misreads_infinite_and_fractional_channels :
    (ofEntry (some (.file "\x7b\"softap_2g_channel_list\": [Infinity]\x7d".toUTF8.toList)) matches
        .error .infiniteChannel) = true ∧
      ResourceError.infiniteChannel.message? = none ∧
      (channelList? (.list [.float (.finite false 13 (-1))])).toOption =
        some (some [⟨6, by decide, by decide⟩]) ∧
      ∀ number, ¬(Value.float (.finite false 13 (-1))).Denotes number := by
  refine ⟨by decide +kernel, rfl, by decide +kernel, ?_⟩
  rintro number ⟨⟩
  rename_i equals
  have integral := (Binary64.equals_iff.mp equals).1
  revert integral
  decide

end Capabilities

end Hotspot
