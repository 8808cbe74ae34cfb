import Hotspot.Proofs.Store.Document
import Hotspot.Proofs.Store.Steps

/-! Stores that differ in the passphrase of what they hold, and of what their documents
hold, and in nothing else. Nothing that a store does looks at a passphrase, so two such
stores stay alike when both are asked for their configuration or given configurations
that are alike. -/

namespace Hotspot

/-! ## Configurations -/

namespace Configuration

/-- The configurations differ in their passphrases at most. -/
def Alike (configuration other : Configuration) : Prop :=
  configuration.withoutPassphrase = other.withoutPassphrase

namespace Alike

variable {configuration other : Configuration}

theorem refl (configuration : Configuration) : configuration.Alike configuration :=
  rfl

theorem band (alike : configuration.Alike other) : configuration.band = other.band :=
  congrArg (·.withoutPassphrase.band) alike

theorem withPolicy (alike : configuration.Alike other) (policy : RadioPolicy) :
    (configuration.withPolicy policy).Alike (other.withPolicy policy) := by
  have hides (configuration : Configuration) :
      (configuration.withPolicy policy).withoutPassphrase =
        configuration.withoutPassphrase.withPolicy policy := by
    cases changes : policy.changes configuration.band <;>
      simp [Configuration.withPolicy, withoutPassphrase, changes]
  rw [Alike, hides, hides, alike]

theorem canonical (alike : configuration.Alike other) (capabilities : Capabilities) :
    (Store.canonical capabilities configuration).Alike (Store.canonical capabilities other) := by
  apply withPolicy
  exact congrArg (Configuration.withinCapabilities capabilities) alike

theorem toValue_false (alike : configuration.Alike other) :
    configuration.toValue false = other.toValue false := by
  change configuration.withoutPassphrase.toValue false = other.withoutPassphrase.toValue false
  rw [alike]

end Alike

end Configuration

abbrev SlotsAlike : Option Configuration → Option Configuration → Prop :=
  Option.Rel Configuration.Alike

/-! ## Documents -/

namespace Disk

variable {path : Path} {disk other : Disk}

/-- A write of the file succeeds on both disks, or fails on both for the same reason. -/
def WritesAlike (path : Path) (disk other : Disk) : Prop :=
  ∀ bytes otherBytes,
    (∃ after otherAfter, disk.write path bytes = (.ok (), after) ∧
        other.write path otherBytes = (.ok (), otherAfter)) ∨
      ∃ error, disk.write path bytes = (.error error, disk) ∧
        other.write path otherBytes = (.error error, other)

theorem WritesAlike.of_writable (writable : disk.Writable path)
    (otherWritable : other.Writable path) : WritesAlike path disk other := by
  intro bytes otherBytes
  rcases writable bytes with ⟨after, written⟩
  rcases otherWritable otherBytes with ⟨otherAfter, otherWritten⟩
  exact .inl ⟨after, otherAfter, written, otherWritten⟩

end Disk

namespace Document

def WritesWhole (document : Document) : Prop :=
  ∀ fault ∈ document.faults, fault = none ∨ fault = some .denied

/-- The documents differ in the passphrase of what they hold at most, and both can be written
or neither. The other files may be any. -/
inductive Alike (document : Document) : Document → Prop
  | intro {disk : Disk} :
      document.WritesWhole → Disk.WritesAlike document.path document.disk disk →
      SlotsAlike document.stored? (stored? { document with disk }) →
      Alike document { document with disk }

variable {document other : Document} {slot otherSlot : Option Configuration}

theorem Alike.of_stored {disk : Disk} {configuration otherConfiguration : Configuration}
    (whole : document.WritesWhole) (stored : document.stored? = some configuration)
    (otherStored : stored? { document with disk } = some otherConfiguration)
    (same : configuration.Alike otherConfiguration) : document.Alike { document with disk } := by
  have otherWritable : disk.Writable document.path := writable_of_stored? otherStored
  apply Alike.intro whole (.of_writable (writable_of_stored? stored) otherWritable)
  rw [stored, otherStored]
  exact .some same

theorem decode?_encode_alike (slots : SlotsAlike slot otherSlot) :
    SlotsAlike (decode? (encode slot)) (decode? (encode otherSlot)) := by
  rw [decode?_encode, decode?_encode]
  cases slots with
  | none => exact .none
  | some alike =>
    simp only [Option.filter, alike.band]
    split
    · exact .some alike
    · exact .none

theorem WritesWhole.headD (whole : document.WritesWhole) :
    document.faults.headD none = none ∨ document.faults.headD none = some .denied := by
  unfold WritesWhole at whole
  cases faults : document.faults with
  | nil => exact .inl rfl
  | cons fault rest =>
    rw [faults] at whole
    exact whole fault List.mem_cons_self

theorem write_alike {disk : Disk} (whole : document.WritesWhole)
    (writes : Disk.WritesAlike document.path document.disk disk)
    (slot otherSlot : Option Configuration) :
    (∃ after otherAfter, document.write slot = (.ok (), after) ∧
        write { document with disk } otherSlot = (.ok (), otherAfter)) ∨
      ∃ error, document.write slot = (.error error, document.disk) ∧
        write { document with disk } otherSlot = (.error error, disk) := by
  unfold write
  rcases whole.headD with free | denied
  · simp only [free]
    exact writes _ _
  · simp only [denied]
    rcases writes (encode slot) (encode otherSlot) with
      ⟨after, otherAfter, written, otherWritten⟩ | ⟨error, failed, otherFailed⟩
    · exact .inr ⟨.denied, Disk.write_denied_of_write written,
        Disk.write_denied_of_write otherWritten⟩
    · exact .inr ⟨error, Disk.write_denied_of_error failed, Disk.write_denied_of_error otherFailed⟩

theorem Alike.request (alike : document.Alike other) (slots : SlotsAlike slot otherSlot) :
    (Engine.request document slot).outcome = (Engine.request other otherSlot).outcome ∧
      (Engine.request document slot).taken = (Engine.request other otherSlot).taken ∧
      (Engine.request document slot).engine.Alike (Engine.request other otherSlot).engine := by
  obtain @⟨disk, whole, writes, stored⟩ := alike
  let otherDocument : Document := { document with disk }
  have spent : ∀ fault ∈ document.faults.tail, fault = none ∨ fault = some .denied :=
    fun fault member => whole fault (List.mem_of_mem_tail member)
  by_cases loaded : document.loaded = true
  · have otherLoaded : otherDocument.loaded = true := loaded
    rcases write_alike whole writes slot otherSlot with
      ⟨after, otherAfter, written, otherWritten⟩ | ⟨error, failed, otherFailed⟩
    · rw [request_of_write loaded written, request_of_write otherLoaded otherWritten]
      refine ⟨rfl, rfl, .intro spent (.of_writable (.write written) (.write otherWritten)) ?_⟩
      have file := named?_of_write written
      have otherFile := named?_of_write otherWritten
      rw [stored?_of_file file, stored?_of_file otherFile]
      exact decode?_encode_alike slots
    · rw [request_of_error loaded failed, request_of_error otherLoaded otherFailed]
      exact ⟨rfl, rfl, .intro spent writes stored⟩
  · have unloaded : document.loaded = false := Bool.eq_false_of_not_eq_true loaded
    have otherUnloaded : otherDocument.loaded = false := unloaded
    rw [request_of_unloaded unloaded, request_of_unloaded otherUnloaded]
    exact ⟨rfl, rfl, .intro whole writes stored⟩

end Document

/-! ## Stores -/

namespace Store

inductive Alike (store : Store Document) : Store Document → Prop
  | intro {engine : Document} {slot : Option Configuration} :
      store.engine.Alike engine → SlotsAlike store.slot slot →
      Alike store { store with engine, slot }

/-- The steps answer with configurations that are related, or are refused for the same
reason, and leave stores that are alike. -/
inductive StepsAlike (related : Configuration → Configuration → Prop) :
    StoreStep Document Configuration → StoreStep Document Configuration → Prop
  | answered {configuration otherConfiguration : Configuration} {store other : Store Document} :
      related configuration otherConfiguration → store.Alike other →
      StepsAlike related (.ok configuration, store) (.ok otherConfiguration, other)
  | refused {refusal : Refusal} {store other : Store Document} :
      store.Alike other → StepsAlike related (.error refusal, store) (.error refusal, other)

theorem StepsAlike.imp {related weaker : Configuration → Configuration → Prop}
    {step otherStep : StoreStep Document Configuration}
    (implied : ∀ configuration other, related configuration other → weaker configuration other)
    (steps : StepsAlike related step otherStep) : StepsAlike weaker step otherStep := by
  cases steps with
  | answered answers stores => exact .answered (implied _ _ answers) stores
  | refused stores => exact .refused stores

variable {device : Device} {store other : Store Document}
  {configuration otherConfiguration : Configuration}

namespace Alike

theorem writes_eq (alike : store.Alike other) : other.engine.writes = store.engine.writes := by
  rcases alike with ⟨⟨_, _⟩, _⟩
  rfl

theorem backups_eq (alike : store.Alike other) : other.backups = store.backups := by
  cases alike
  rfl

theorem draws_eq (alike : store.Alike other) : other.draws = store.draws := by
  cases alike
  rfl

theorem path_eq (alike : store.Alike other) : other.engine.path = store.engine.path := by
  rcases alike with ⟨⟨_, _⟩, _⟩
  rfl

theorem stored (alike : store.Alike other) :
    SlotsAlike store.engine.stored? other.engine.stored? := by
  rcases alike with ⟨⟨_, _, stored⟩, _⟩
  exact stored

theorem slots (alike : store.Alike other) : SlotsAlike store.slot other.slot := by
  rcases alike with ⟨_, slots⟩
  exact slots

theorem notify (alike : store.Alike other) : store.notify.Alike other.notify := by
  rcases alike with ⟨engines, slots⟩
  exact .intro engines slots

theorem withDraws (alike : store.Alike other) (draws : Draws) :
    Alike { store with draws } { other with draws } := by
  rcases alike with ⟨engines, slots⟩
  exact .intro engines slots

theorem request (alike : store.Alike other) :
    store.request.1 = other.request.1 ∧ store.request.2.Alike other.request.2 := by
  obtain @⟨engine, slot, engines, slots⟩ := alike
  rcases engines.request slots with ⟨outcome, taken, alike⟩
  rw [request_eq, request_eq]
  refine ⟨outcome, ?_⟩
  simp only [taken]
  exact .intro alike slots

theorem keep {related : Configuration → Configuration → Prop} (alike : store.Alike other)
    (same : configuration.Alike otherConfiguration)
    (answers : related configuration otherConfiguration) :
    StepsAlike related (store.keep configuration) (other.keep otherConfiguration) := by
  have holding : Alike { store with slot := some configuration, dirty := true }
      { other with slot := some otherConfiguration, dirty := true } := by
    rcases alike with ⟨engines, _⟩
    exact .intro engines (.some same)
  rcases holding.request with ⟨outcome, requested⟩
  rw [keep_eq, keep_eq]
  dsimp only
  rw [← outcome]
  cases (Store.request { store with slot := some configuration, dirty := true }).1 with
  | ok => exact .answered answers requested.notify
  | error refusal => exact .refused requested

theorem keepFresh (alike : store.Alike other) (device : Device) :
    StepsAlike Eq (store.keepFresh device) (other.keepFresh device) := by
  unfold Store.keepFresh
  rw [alike.draws_eq]
  exact (alike.withDraws _).keep (.refl _) rfl

theorem keepUsable (alike : store.Alike other) (device : Device)
    (same : configuration.Alike otherConfiguration) :
    StepsAlike Configuration.Alike (store.keepUsable device configuration)
      (other.keepUsable device otherConfiguration) := by
  unfold Store.keepUsable
  rw [same.band]
  dsimp only
  split
  · exact alike.keep (same.withPolicy _) (same.withPolicy _)
  · exact .answered same alike

theorem get (alike : store.Alike other) (device : Device) :
    StepsAlike Configuration.Alike (store.get device) (other.get device) := by
  have slots := alike.slots
  generalize held : store.slot = slot at slots
  generalize otherHeld : other.slot = otherSlot at slots
  cases slots with
  | none =>
    rw [get_of_none held, get_of_none otherHeld]
    apply (alike.keepFresh device).imp
    rintro configuration _ rfl
    exact .refl configuration
  | some same =>
    rw [get_of_some held, get_of_some otherHeld]
    exact alike.keepUsable device same

theorem set_some (alike : store.Alike other) (device : Device)
    (same : configuration.Alike otherConfiguration) :
    StepsAlike Configuration.Alike (store.set device (some configuration))
      (other.set device (some otherConfiguration)) := by
  have canonical := same.canonical device.capabilities
  exact alike.keep canonical canonical

theorem localOnly (alike : store.Alike other) (device : Device) (band : Band)
    (custom : Option Configuration) :
    (store.localOnly device band custom).1 = (other.localOnly device band custom).1 ∧
      (store.localOnly device band custom).2.Alike (other.localOnly device band custom).2 := by
  unfold Store.localOnly
  rw [alike.draws_eq]
  exact ⟨rfl, alike.withDraws _⟩

end Alike

end Store

end Hotspot
