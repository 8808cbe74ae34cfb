import Hotspot.Proofs.Service.StrictForms
import Hotspot.Proofs.Service.Serving
import Hotspot.Proofs.Store.Likeness

/-! Two services that differ in passphrases only cannot be told apart, except by a request
that is to show the passphrase. They may be asked different things only where a
configuration is set, and then only in the passphrase of that. -/

namespace Hotspot

namespace Request

variable {framework : Framework} {request : Request} {form otherForm : ConfigurationForm}
  {configuration other : Configuration} {fields : Fields}

def ShowsPassphrase (framework : Framework) (request : Request) : Prop :=
  request.route = .showConfiguration ∧ framework.includesPassphrase request = .ok true

structure Sets (framework : Framework) (request : Request) (form : ConfigurationForm)
    (configuration : Configuration) : Prop where
  route : request.route = .updateConfiguration
  read : framework.update request = .ok form
  usable : Service.usable form = .ok configuration

/-- The requests are the same, or both set a configuration and differ in the passphrase of it
at most: by what the framework has read, or by what the bodies spell. -/
inductive Alike (framework : Framework) (request : Request) : Request → Prop
  | same : Alike framework request request
  | forms {otherRequest : Request} {form otherForm : ConfigurationForm}
      {configuration other : Configuration} :
      request.Sets framework form configuration →
      otherRequest.Sets framework otherForm other →
      otherForm = { form with passphrase := otherForm.passphrase } →
      Alike framework request otherRequest
  | bodies {body : List UInt8} {fields others : Fields} {form otherForm : ConfigurationForm}
      {configuration other : Configuration} :
      request.object? = some fields → object? { request with body } = some others →
      Fields.AgreeExcept "passphrase" fields others →
      request.Sets framework form configuration →
      Sets framework { request with body } otherForm other →
      Alike framework request { request with body }

theorem object?_of_print {layout : Json.Layout} (blank : layout.IsBlank)
    (plain : (Value.object fields).IsPlain)
    (spells : (Json.decode? request.body).bind (List.mapM Text.character?) =
      some (Json.print layout (.object fields))) : request.object? = some fields := by
  rcases Option.bind_eq_some_iff.mp spells with ⟨points, decoded, characters⟩
  simp [object?, decoded, Json.ofPoints?, characters, Json.parse?_print blank plain]

theorem agreeExcept_toFields (form : ConfigurationForm) (passphrase : Option String) :
    Fields.AgreeExcept "passphrase" form.toFields
      (ConfigurationForm.toFields { form with passphrase }) := by
  intro name different
  have unequal : (name == "passphrase") = false := beq_eq_false_iff_ne.mpr different
  simp [ConfigurationForm.toFields, Fields.find?, List.lookup_cons, unequal]

/-- What is set is read from the form, and no other entry of it looks at the passphrase. -/
theorem Sets.alike {otherRequest : Request} (sets : request.Sets framework form configuration)
    (otherSets : otherRequest.Sets framework otherForm other)
    (agree : otherForm = { form with passphrase := otherForm.passphrase }) :
    configuration.Alike other := by
  have read := Configuration.ofFields_eq_ok_iff.mp (Service.usable_eq_ok sets.usable).1
  have otherRead := Configuration.ofFields_eq_ok_iff.mp (Service.usable_eq_ok otherSets.usable).1
  rw [agree] at otherRead
  have same := read.eq_of_agree otherRead (agreeExcept_toFields form _)
  rw [same]
  rfl

end Request

theorem Launch.alike_loadedStore {launch other : Launch} {files otherFiles : Disk} {draws : Draws}
    (samePath : other.documentPath = launch.documentPath)
    (writable : files.Writable launch.documentPath)
    (otherWritable : otherFiles.Writable other.documentPath)
    (slots : SlotsAlike (launch.loadedStore files draws).slot
      (other.loadedStore otherFiles draws).slot) :
    (launch.loadedStore files draws).Alike (other.loadedStore otherFiles draws) := by
  unfold loadedStore at slots ⊢
  rw [samePath] at otherWritable slots ⊢
  exact .intro (.intro (List.forall_mem_nil _) (.of_writable writable otherWritable) slots) slots

namespace Service

inductive Alike (service : Service) : Service → Prop
  | intro {store : Store Document} :
      service.store.Alike store → Alike service { service with store }

/-- The responses are the same, unless they show what differs, and the services are
alike afterwards. -/
structure AnswersAlike (shown : Prop) (answer otherAnswer : Response × Service) : Prop where
  response : ¬shown → otherAnswer.1 = answer.1
  after : answer.2.Alike otherAnswer.2

variable {framework : Framework} {service other next otherNext : Service}
  {request otherRequest : Request}
  {includes : Bool} {shown : Prop}

theorem answer_of_sets {form : ConfigurationForm} {configuration : Configuration}
    (sets : request.Sets framework form configuration) :
    service.answer framework request =
      service.answerWith false (service.store.set service.device (some configuration)) := by
  simp only [answer, sets.route, sets.read, sets.usable]

theorem Restarts.loaded (restarts : service.Restarts next) :
    ∃ launch files, next.store = Launch.loadedStore launch files next.store.draws ∧
      launch.documentPath = service.store.engine.path ∧
      files.Writable launch.documentPath ∧
      next.store.slot = service.store.engine.stored? := by
  cases restarts with
  | start starts onPath bare capabilities apart writable same =>
    rcases Launch.store_of_start bare starts writable.isUsable with ⟨files, store, _⟩
    have kept := Launch.document_of_start bare starts apart writable
    rw [store] at kept ⊢
    refine ⟨_, files, rfl, onPath, kept.1, ?_⟩
    exact congrArg Document.decodeFile? (kept.2.trans same)

namespace Alike

theorem store (alike : service.Alike other) : service.store.Alike other.store := by
  rcases alike with ⟨stores⟩
  exact stores

theorem device_eq (alike : service.Alike other) : other.device = service.device := by
  cases alike
  rfl

theorem of_store (device : other.device = service.device)
    (stores : service.store.Alike other.store) : service.Alike other := by
  rcases service with ⟨_, store⟩
  rcases other with ⟨_, otherStore⟩
  cases device
  exact .intro stores

/-! ## Single requests -/

theorem answerWith (alike : service.Alike other)
    {related : Configuration → Configuration → Prop}
    {step otherStep : StoreStep Document Configuration}
    (steps : Store.StepsAlike related step otherStep)
    (hides : ¬shown → ∀ configuration otherConfiguration,
      related configuration otherConfiguration →
        otherConfiguration.toValue includes = configuration.toValue includes) :
    AnswersAlike shown (service.answerWith includes step) (other.answerWith includes otherStep) := by
  cases steps with
  | answered answers stores =>
    refine ⟨?_, of_store alike.device_eq stores⟩
    intro hidden
    exact congrArg Response.success (hides hidden _ _ answers)
  | refused stores => exact ⟨fun _ => rfl, of_store alike.device_eq stores⟩

theorem offerLocalOnly (alike : service.Alike other) (band : Band)
    (custom : Option Configuration) :
    AnswersAlike shown (service.offerLocalOnly band custom) (other.offerLocalOnly band custom) := by
  rcases alike with ⟨stores⟩
  rcases stores.localOnly service.device band custom with ⟨offered, after⟩
  refine ⟨fun _ => ?_, .intro after⟩
  simp only [Service.offerLocalOnly, offered]

theorem update (alike : service.Alike other) {configuration otherConfiguration : Configuration}
    (same : configuration.Alike otherConfiguration) :
    AnswersAlike shown
      (service.answerWith false (service.store.set service.device (some configuration)))
      (other.answerWith false (other.store.set other.device (some otherConfiguration))) := by
  rw [alike.device_eq]
  apply alike.answerWith (alike.store.set_some service.device same)
  intro _ configuration otherConfiguration given
  exact given.toValue_false.symm

theorem answer_same (alike : service.Alike other) (framework : Framework) (request : Request) :
    AnswersAlike (request.ShowsPassphrase framework) (service.answer framework request)
      (other.answer framework request) := by
  cases route : request.route with
  | showConfiguration =>
    simp only [Service.answer, route]
    cases read : framework.includesPassphrase request with
    | error fault => exact ⟨fun _ => rfl, alike⟩
    | ok includes =>
      rw [alike.device_eq]
      apply alike.answerWith (alike.store.get service.device)
      intro hidden configuration otherConfiguration given
      cases includes with
      | false => exact given.toValue_false.symm
      | true => exact absurd ⟨route, read⟩ hidden
  | updateConfiguration =>
    simp only [Service.answer, route]
    split
    · exact ⟨fun _ => rfl, alike⟩
    · split
      · exact ⟨fun _ => rfl, alike⟩
      · exact alike.update (.refl _)
  | resetConfiguration =>
    simp only [Service.answer, route, alike.device_eq]
    apply alike.answerWith (alike.store.keepFresh service.device)
    rintro _ configuration _ rfl
    rfl
  | offerLocalOnly =>
    simp only [Service.answer, route]
    split
    · exact ⟨fun _ => rfl, alike⟩
    · split
      · exact ⟨fun _ => rfl, alike⟩
      · exact alike.offerLocalOnly _ _
  | showCapabilities =>
    simp only [Service.answer, route, alike.device_eq]
    exact ⟨fun _ => rfl, alike⟩

theorem answer (alike : service.Alike other) (fieldwise : framework.ReadsFieldwise)
    (requests : request.Alike framework otherRequest) :
    AnswersAlike (request.ShowsPassphrase framework) (service.answer framework request)
      (other.answer framework otherRequest) := by
  cases requests with
  | same => exact alike.answer_same framework request
  | forms sets otherSets agree =>
    rw [answer_of_sets sets, answer_of_sets otherSets]
    exact alike.update (sets.alike otherSets agree)
  | bodies object otherObject agree sets otherSets =>
    have forms := fieldwise _ _ _ _ _ _ object otherObject agree sets.read otherSets.read
    rw [answer_of_sets sets, answer_of_sets otherSets]
    exact alike.update (sets.alike otherSets forms)

/-! ## Restarts -/

theorem restarts (alike : service.Alike other) (restarts : service.Restarts next)
    (otherRestarts : other.Restarts otherNext) (device : otherNext.device = next.device)
    (draws : otherNext.store.draws = next.store.draws) : next.Alike otherNext := by
  rcases restarts.loaded with ⟨launch, files, store, onPath, writable, slot⟩
  rcases otherRestarts.loaded with
    ⟨otherLaunch, otherFiles, otherStore, otherOnPath, otherWritable, otherSlot⟩
  have samePath : otherLaunch.documentPath = launch.documentPath :=
    otherOnPath.trans (alike.store.path_eq.trans onPath.symm)
  have slots : SlotsAlike next.store.slot otherNext.store.slot := by
    rw [slot, otherSlot]
    exact alike.store.stored
  apply of_store device
  rw [store, otherStore, draws] at slots ⊢
  exact Launch.alike_loadedStore samePath writable otherWritable slots

end Alike

/-- Two services that begin alike, and then go through requests and restarts that are alike.
Both are restarted at once, as the same device and with the same numbers to draw. -/
inductive Together (framework : Framework) : Service → Service → Prop
  | start {service other : Service} : service.Alike other → Together framework service other
  | answer {service other : Service} {request otherRequest : Request} :
      Together framework service other → request.Alike framework otherRequest →
      Together framework (service.answer framework request).2
        (other.answer framework otherRequest).2
  | restart {service other next otherNext : Service} :
      Together framework service other → service.Restarts next → other.Restarts otherNext →
      otherNext.device = next.device → otherNext.store.draws = next.store.draws →
      Together framework next otherNext

theorem Together.alike (together : service.Together framework other)
    (fieldwise : framework.ReadsFieldwise) : service.Alike other := by
  induction together with
  | start alike => exact alike
  | answer _ requests before => exact (before.answer fieldwise requests).after
  | restart _ restarts otherRestarts device draws before =>
    exact before.restarts restarts otherRestarts device draws

/-- Where two services differ in passphrases only, and are given the same but for
passphrases, every response is the same that is not to show a passphrase, and so is the
number of writes and of backups. The framework reads the fields of a body one by one. -/
theorem Together.hides_passphrases (together : service.Together framework other)
    (fieldwise : framework.ReadsFieldwise) (requests : request.Alike framework otherRequest) :
    (¬request.ShowsPassphrase framework →
        (other.answer framework otherRequest).1 = (service.answer framework request).1) ∧
      (other.answer framework otherRequest).2.store.engine.writes =
        (service.answer framework request).2.store.engine.writes ∧
      (other.answer framework otherRequest).2.store.backups =
        (service.answer framework request).2.store.backups := by
  have answers := (together.alike fieldwise).answer fieldwise requests
  exact ⟨answers.response, answers.after.store.writes_eq, answers.after.store.backups_eq⟩

theorem hides_passphrases_of_update :
    let held (passphrase : String) : Configuration :=
      { ssid := some "AP", securityType := .wpa2Psk, passphrase := some passphrase }
    let path : Path := { parts := ["softap.json"] }
    let place : Place := { base := .above 0, names := ["softap.json"] }
    let disk (passphrase : String) : Disk :=
      { entries := [(place, .file (Document.encode (some (held passphrase))))] }
    let service (passphrase : String) : Service :=
      { device := {}
        store :=
          { engine := { disk := disk passphrase, path, hasStore := true, loaded := true }
            draws := .cycle []
            slot := some (held passphrase) } }
    let fields (passphrase : String) : Fields :=
      [("ssid", .text "AP"), ("passphrase", .text passphrase)]
    let update (passphrase : String) : Request :=
      { route := .updateConfiguration
        body := Text.encodeUtf8 (Json.print .compact (.object (fields passphrase))) }
    let showing : Request := { route := .showConfiguration }
    let answered (held given : String) : Service :=
      ((service held).answer Strict.framework (update given)).2
    let left : Service := answered "passphrase A" "passphrase C"
    let right : Service := answered "passphrase B" "passphrase D"
    left.store.slot = some (held "passphrase C") ∧ right.store.slot = some (held "passphrase D") ∧
      (right.answer Strict.framework showing).1 = (left.answer Strict.framework showing).1 ∧
      (right.answer Strict.framework showing).2.store.engine.writes =
        (left.answer Strict.framework showing).2.store.engine.writes ∧
      (right.answer Strict.framework showing).2.store.backups =
        (left.answer Strict.framework showing).2.store.backups := by
  intro held path place disk service fields update showing answered left right
  have stored (passphrase : String) :
      (service passphrase).store.engine.stored? = some (held passphrase) := by
    have named : Band.ghz2.IsNamed := by decide
    rw [Document.stored?_of_file rfl]
    apply Document.decode?_encode_of_isNamed
    rintro _ ⟨⟩
    exact named
  have start (passphrase other : String) : (service passphrase).Alike (service other) := by
    have whole : (service passphrase).store.engine.WritesWhole := List.forall_mem_nil _
    have documents := Document.Alike.of_stored whole (stored passphrase) (stored other) rfl
    apply Alike.of_store
    · rfl
    · exact .intro documents (.some rfl)
  have agree (passphrase other : String) :
      Fields.AgreeExcept "passphrase" (fields passphrase) (fields other) := by
    intro name different
    have unequal : (name == "passphrase") = false := beq_eq_false_iff_ne.mpr different
    simp [fields, Fields.find?, List.lookup_cons, unequal]
  have object {passphrase : String}
      (spells : (Json.decode? (update passphrase).body).bind (List.mapM Text.character?) =
        some (Json.print .compact (.object (fields passphrase)))) :
      (update passphrase).object? = some (fields passphrase) := by
    have plain : (Value.object (fields passphrase)).IsPlain := by
      simp [fields, Value.IsPlain, HavePlain]
    exact Request.object?_of_print Json.Layout.isBlank_compact plain spells
  let form (passphrase : String) : ConfigurationForm :=
    { ssid := "AP", passphrase := some passphrase }
  have sets {passphrase : String}
      (read : (Strict.framework.update (update passphrase)).toOption = some (form passphrase))
      (accepted : (usable (form passphrase)).toOption = some (held passphrase)) :
      (update passphrase).Sets Strict.framework (form passphrase) (held passphrase) :=
    ⟨rfl, Configuration.toOption_eq_some read, Configuration.toOption_eq_some accepted⟩
  have updates : (update "passphrase C").Alike Strict.framework (update "passphrase D") :=
    .bodies (object (by decide +kernel)) (object (by decide +kernel)) (agree _ _)
      (sets (by decide +kernel) (by decide +kernel)) (sets (by decide +kernel) (by decide +kernel))
  have together : left.Together Strict.framework right := .answer (.start (start _ _)) updates
  have again : showing.Alike Strict.framework showing := .same
  have hides := together.hides_passphrases Strict.readsFieldwise again
  have hidden : ¬showing.ShowsPassphrase Strict.framework := fun shows =>
    Bool.false_ne_true (Except.ok.inj shows.2)
  exact ⟨by decide +kernel, by decide +kernel, hides.1 hidden, hides.2⟩

end Service

end Hotspot
