import Hotspot.Capabilities.Resources
import Hotspot.Proofs.Configuration.Reading
import Hotspot.Proofs.Value.Integers

/-! The channels that a channel list states, one for each of its items. An item that states no
channel is refused with an error that is true of it. -/

namespace Hotspot

namespace Capabilities

open Hotspot.Configuration

variable {value item : Value} {items : List Value} {failure : ResourceError} {number : Int}
  {stated : Channel}

/-- The integer that an item of a channel list states: the one that it denotes, or what is
left of a number with a fraction. Truth values state none. -/
def States (item : Value) (number : Int) : Prop :=
  (∀ switch, item ≠ .bool switch) ∧ (item.Denotes number ∨ item.IsFractionOf number)

/-- What the error says of an item of a channel list is so. -/
inductive ResourceError.IsFaultOfItem : Value → ResourceError → Prop
  | truthValue {switch : Bool} : IsFaultOfItem (.bool switch) .truthValueChannel
  | noInteger {item : Value} :
      (∀ switch, item ≠ .bool switch) → (∀ number, ¬States item number) →
      (∀ negative, item ≠ .float (.infinite negative)) →
      IsFaultOfItem item (.invalidChannel (.value item))
  | infinite {negative : Bool} : IsFaultOfItem (.float (.infinite negative)) .infiniteChannel
  | outOfRange {item : Value} {number : Int} :
      States item number → ¬(1 ≤ number ∧ number ≤ 14) →
      IsFaultOfItem item (.capabilities (.channelOutOfRange number))

theorem States.toInteger (states : States item number) : item.toInteger = .ok number :=
  (Value.toInteger_eq_ok_iff states.1).mpr states.2

theorem States.unique {other : Int} (states : States item number)
    (otherStates : States item other) : number = other := by
  have converts := states.toInteger
  rw [otherStates.toInteger] at converts
  exact (Except.ok.inj converts).symm

theorem channel_number (stated : Channel) : channel stated.number = .ok stated := by
  have range : 1 ≤ (stated.number : Int).toNat ∧ (stated.number : Int).toNat ≤ 14 :=
    ⟨stated.one_le, stated.le_fourteen⟩
  rw [channel, Channel.ofInteger?, dif_pos range]
  rfl

theorem channel_of_outOfRange (outside : ¬(1 ≤ number ∧ number ≤ 14)) :
    channel number = .error (.channelOutOfRange number) := by
  have noChannel : ¬(1 ≤ number.toNat ∧ number.toNat ≤ 14) := by
    omega
  rw [channel, Channel.ofInteger?, dif_neg noChannel]

theorem exists_channel (inside : 1 ≤ number ∧ number ≤ 14) :
    ∃ stated : Channel, number = stated.number :=
  ⟨⟨number.toNat, by omega, by omega⟩, (Int.toNat_of_nonneg (by omega)).symm⟩

theorem channelOfItem_of_states (states : States item number) :
    channelOfItem item = (channel number).mapError .capabilities := by
  have converts := states.toInteger
  cases item with
  | bool switch => exact absurd rfl (states.1 switch)
  | _ => simp only [channelOfItem, converts]

theorem channelOfItem_of_error {cause : IntegerError} (noSwitch : ∀ switch, item ≠ .bool switch)
    (fails : item.toInteger = .error cause) (finite : cause ≠ .infinite) :
    channelOfItem item = .error (.invalidChannel (.value item)) := by
  cases item with
  | bool switch => exact absurd rfl (noSwitch switch)
  | _ => cases cause <;> first | exact absurd rfl finite | simp only [channelOfItem, fails]

theorem channelOfItem_cases (item : Value) :
    (∃ stated : Channel, channelOfItem item = .ok stated ∧ States item stated.number) ∨
      ∃ error, channelOfItem item = .error error ∧ error.IsFaultOfItem item := by
  by_cases switched : ∃ switch, item = .bool switch
  · rcases switched with ⟨switch, rfl⟩
    exact .inr ⟨_, rfl, .truthValue⟩
  have noSwitch : ∀ switch, item ≠ .bool switch := fun switch same => switched ⟨switch, same⟩
  cases converts : item.toInteger with
  | ok number =>
    have states : States item number :=
      ⟨noSwitch, (Value.toInteger_eq_ok_iff noSwitch).mp converts⟩
    rw [channelOfItem_of_states states]
    by_cases inside : 1 ≤ number ∧ number ≤ 14
    · rcases exists_channel inside with ⟨stated, rfl⟩
      rw [channel_number]
      exact .inl ⟨stated, rfl, states⟩
    · rw [channel_of_outOfRange inside]
      exact .inr ⟨_, rfl, .outOfRange states inside⟩
  | error cause =>
    -- Of the failed conversions only that of an infinite number keeps a kind of its own.
    by_cases infinite : cause = .infinite
    · rcases Value.toInteger_eq_infinite_iff.mp (infinite ▸ converts) with ⟨negative, rfl⟩
      exact .inr ⟨_, rfl, .infinite⟩
    · refine .inr ⟨_, channelOfItem_of_error noSwitch converts infinite, .noInteger noSwitch ?_ ?_⟩
      · intro number states
        rw [states.toInteger] at converts
        cases converts
      · intro negative same
        rw [Value.toInteger_eq_infinite_iff.mpr ⟨negative, same⟩] at converts
        cases converts
        exact infinite rfl

theorem channelOfItem_eq_ok_iff :
    channelOfItem item = .ok stated ↔ States item stated.number := by
  rcases channelOfItem_cases item with ⟨other, read, states⟩ | ⟨error, fails, fault⟩
  · rw [read, Except.ok.injEq]
    constructor
    · rintro rfl
      exact states
    · intro otherStates
      have same := channel_number other
      rw [states.unique otherStates, channel_number] at same
      exact (Except.ok.inj same).symm
  · rw [fails]
    refine iff_of_false nofun fun states => ?_
    cases fault with
    | truthValue => exact states.1 _ rfl
    | noInteger _ stateless => exact stateless _ states
    | infinite => cases states.toInteger
    | outOfRange otherStates outside =>
      rw [otherStates.unique states] at outside
      exact outside ⟨Int.ofNat_le.mpr stated.one_le, Int.ofNat_le.mpr stated.le_fourteen⟩

theorem channelOfItem_eq_error (fails : channelOfItem item = .error failure) :
    failure.IsFaultOfItem item := by
  rcases channelOfItem_cases item with ⟨stated, read, _⟩ | ⟨error, refused, fault⟩
  · rw [read] at fails
    cases fails
  · rw [refused] at fails
    cases fails
    exact fault

/-! ## Lists -/

/-- The items of a channel list: those of a list, or what stands between the commas of a
text. -/
inductive HasItems : Value → List Value → Prop
  | text (text : String) : HasItems (.text text) (textItems text.toList)
  | list (items : List Value) : HasItems (.list items) items

theorem mapM_eq_ok_iff {error given result : Type} {step : given → Except error result}
    {row : List given} {results : List result} :
    row.mapM step = .ok results ↔
      List.Forall₂ (fun item result => step item = .ok result) row results := by
  induction row generalizing results with
  | nil =>
    rw [List.mapM_nil, List.forall₂_nil_left_iff]
    exact ⟨fun same => (Except.ok.inj same).symm, fun same => congrArg Except.ok same.symm⟩
  | cons first rest induction =>
    rw [List.mapM_cons, List.forall₂_cons_left_iff]
    constructor
    · intro read
      rcases bind_eq_ok read with ⟨result, firstRead, read⟩
      rcases bind_eq_ok read with ⟨others, restRead, read⟩
      cases read
      exact ⟨result, others, firstRead, induction.mp restRead, rfl⟩
    · rintro ⟨result, others, firstRead, restRead, rfl⟩
      rw [firstRead, induction.mpr restRead]
      rfl

theorem mapM_eq_error {error given result : Type} {step : given → Except error result}
    {row : List given} {failure : error} (fails : row.mapM step = .error failure) :
    ∃ item ∈ row, step item = .error failure := by
  induction row with
  | nil => cases fails
  | cons first rest induction =>
    rw [List.mapM_cons] at fails
    rcases bind_eq_error fails with refused | ⟨result, _, fails⟩
    · exact ⟨first, List.mem_cons_self, refused⟩
    rcases bind_eq_error fails with refused | ⟨others, _, fails⟩
    · rcases induction refused with ⟨item, member, refused⟩
      exact ⟨item, List.mem_cons_of_mem first member, refused⟩
    · cases fails

theorem channelList?_of_hasItems (has : HasItems value items) :
    channelList? value = (items.mapM channelOfItem).map some := by
  cases has <;> rfl

theorem channelList?_of_not_hasItems (present : value ≠ .null)
    (noItems : ∀ items, ¬HasItems value items) :
    channelList? value = .error .channelListKind := by
  cases value with
  | null => exact absurd rfl present
  | text text => exact absurd (.text text) (noItems _)
  | list items => exact absurd (.list items) (noItems _)
  | _ => rfl

theorem mapM_channelOfItem_eq_ok_iff {channels : List Channel} :
    items.mapM channelOfItem = .ok channels ↔
      List.Forall₂ (fun item stated => States item stated.number) items channels := by
  rw [mapM_eq_ok_iff]
  simp only [channelOfItem_eq_ok_iff]

theorem channelList?_eq_ok_iff_of_hasItems (has : HasItems value items) {channels : List Channel} :
    channelList? value = .ok (some channels) ↔
      List.Forall₂ (fun item stated => States item stated.number) items channels := by
  rw [channelList?_of_hasItems has, ← mapM_channelOfItem_eq_ok_iff]
  cases items.mapM channelOfItem <;> simp [Except.map]

theorem channelList?_eq_error (fails : channelList? value = .error failure) :
    (failure = .channelListKind ∧ value ≠ .null ∧ ∀ items, ¬HasItems value items) ∨
      ∃ items, HasItems value items ∧ ∃ item ∈ items, failure.IsFaultOfItem item := by
  by_cases present : value = .null
  · subst present
    cases fails
  by_cases has : ∃ items, HasItems value items
  · rcases has with ⟨items, has⟩
    rw [channelList?_of_hasItems has] at fails
    cases read : items.mapM channelOfItem with
    | ok channels =>
      rw [read] at fails
      cases fails
    | error error =>
      rw [read] at fails
      cases fails
      rcases mapM_eq_error read with ⟨item, member, refused⟩
      exact .inr ⟨items, has, item, member, channelOfItem_eq_error refused⟩
  · have noItems : ∀ items, ¬HasItems value items := fun items other => has ⟨items, other⟩
    rw [channelList?_of_not_hasItems present noItems] at fails
    cases fails
    exact .inl ⟨rfl, present, noItems⟩

/-! ## Lists in a file -/

def NodeStates (item : Json.Node) (number : Int) : Prop :=
  ∃ value, item.value? = some value ∧ States value number

inductive ResourceError.IsFaultOfNode : Json.Node → ResourceError → Prop
  | value {item : Json.Node} {value : Value} {error : ResourceError} :
      item.value? = some value → error.IsFaultOfItem value → IsFaultOfNode item error
  | noValue {item : Json.Node} : item.value? = none → IsFaultOfNode item (.invalidChannel item)

inductive HasNodes : Json.Node → List Json.Node → Prop
  | value {node : Json.Node} {value : Value} {items : List Value} :
      node.value? = some value → HasItems value items → HasNodes node (items.map .value)
  | text {points : List Nat} :
      (Json.Node.text points).value? = none → HasNodes (.text points) (pointItems points)
  | list {items : List Json.Node} :
      (Json.Node.list items).value? = none → HasNodes (.list items) items

variable {node : Json.Node} {nodes : List Json.Node} {read : Option (List Channel)}

theorem channelOfNode_eq_ok {part : Json.Node} (reads : channelOfNode part = .ok stated) :
    NodeStates part stated.number := by
  unfold channelOfNode at reads
  split at reads
  · rename_i value spelled
    exact ⟨value, spelled, channelOfItem_eq_ok_iff.mp reads⟩
  · cases reads

theorem channelOfNode_eq_error {part : Json.Node} (fails : channelOfNode part = .error failure) :
    failure.IsFaultOfNode part := by
  unfold channelOfNode at fails
  split at fails
  · rename_i value spelled
    exact .value spelled (channelOfItem_eq_error fails)
  · rename_i noValue
    cases fails
    exact .noValue noValue

theorem channelsOfNode?_of_value? (spelled : node.value? = some value) :
    channelsOfNode? node = channelList? value := by
  simp only [channelsOfNode?, spelled]

theorem channelsOfNode?_cases (node : Json.Node) :
    (node.value? = some .null ∧ channelsOfNode? node = .ok none) ∨
      (∃ nodes, HasNodes node nodes ∧
        channelsOfNode? node = (nodes.mapM channelOfNode).map some) ∨
      (node.value? ≠ some .null ∧ (∀ nodes, ¬HasNodes node nodes) ∧
        channelsOfNode? node = .error .channelListKind) := by
  cases spelled : node.value? with
  | some value =>
    rw [channelsOfNode?_of_value? spelled]
    by_cases missing : value = .null
    · subst missing
      exact .inl ⟨rfl, rfl⟩
    by_cases has : ∃ items, HasItems value items
    · rcases has with ⟨items, has⟩
      refine .inr (.inl ⟨_, .value spelled has, ?_⟩)
      rw [channelList?_of_hasItems has, List.mapM_map]
      rfl
    · have noItems : ∀ items, ¬HasItems value items := fun items other => has ⟨items, other⟩
      refine .inr (.inr ⟨fun same => missing (Option.some.inj same), ?_,
        channelList?_of_not_hasItems missing noItems⟩)
      rintro _ (⟨other, items⟩ | noValue | noValue)
      · rw [spelled] at other
        cases other
        exact noItems _ items
      all_goals exact nomatch spelled.symm.trans noValue
  | none =>
    cases node with
    | value held => cases spelled
    | text points => exact .inr (.inl ⟨_, .text spelled, by simp only [channelsOfNode?, spelled]⟩)
    | list items => exact .inr (.inl ⟨_, .list spelled, by simp only [channelsOfNode?, spelled]⟩)
    | object members =>
      refine .inr (.inr ⟨nofun, ?_, by simp only [channelsOfNode?, spelled]⟩)
      rintro _ ⟨other, _⟩
      exact nomatch spelled.symm.trans other

theorem channelsOfNode?_eq_ok (reads : channelsOfNode? node = .ok read) :
    (node.value? = some .null ∧ read = none) ∨
      ∃ nodes channels, HasNodes node nodes ∧ read = some channels ∧
        List.Forall₂ (fun item stated => NodeStates item stated.number) nodes channels := by
  rcases channelsOfNode?_cases node with ⟨missing, same⟩ | ⟨nodes, has, same⟩ | ⟨_, _, same⟩
  · rw [same] at reads
    cases reads
    exact .inl ⟨missing, rfl⟩
  · rw [same] at reads
    cases listed : nodes.mapM channelOfNode with
    | error error =>
      rw [listed] at reads
      cases reads
    | ok channels =>
      rw [listed] at reads
      cases reads
      exact .inr ⟨nodes, channels, has, rfl,
        (mapM_eq_ok_iff.mp listed).imp fun _ _ => channelOfNode_eq_ok⟩
  · rw [same] at reads
    cases reads

theorem channelsOfNode?_eq_error (fails : channelsOfNode? node = .error failure) :
    (failure = .channelListKind ∧ node.value? ≠ some .null ∧ ∀ nodes, ¬HasNodes node nodes) ∨
      ∃ nodes, HasNodes node nodes ∧ ∃ item ∈ nodes, failure.IsFaultOfNode item := by
  rcases channelsOfNode?_cases node with
    ⟨_, same⟩ | ⟨nodes, has, same⟩ | ⟨present, noNodes, same⟩
  · rw [same] at fails
    cases fails
  · rw [same] at fails
    cases listed : nodes.mapM channelOfNode with
    | ok channels =>
      rw [listed] at fails
      cases fails
    | error error =>
      rw [listed] at fails
      cases fails
      rcases mapM_eq_error listed with ⟨item, member, refused⟩
      exact .inr ⟨nodes, has, item, member, channelOfNode_eq_error refused⟩
  · rw [same] at fails
    cases fails
    exact .inl ⟨rfl, present, noNodes⟩

end Capabilities

end Hotspot
