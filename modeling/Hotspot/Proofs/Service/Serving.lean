import Hotspot.Proofs.Service.Starting
import Hotspot.Proofs.Service.StrictForms

/-! What the service answers, over requests and restarts. Every configuration that it
gives is one that an access point can run with, and the one that it was given last is
the one that it goes on giving. What a client sends is checked before the store changes
it, so both follow from what the store preserves, and from what the document holds at a
restart. -/

namespace Hotspot

/-- What the store of a service may be given: bands that have names, in a configuration
that an access point can run with. -/
def Configuration.IsProper (configuration : Configuration) : Prop :=
  configuration.band.IsNamed ∧ configuration.IsValid

inductive Request.Asks (framework : Framework) (request : Request) : Bool → Command → Prop
  | show {includes : Bool} : request.route = .showConfiguration →
      framework.includesPassphrase request = .ok includes → Asks framework request includes .get
  | update {form : ConfigurationForm} {configuration : Configuration} :
      request.route = .updateConfiguration → framework.update request = .ok form →
      Service.usable form = .ok configuration →
      Asks framework request false (.set (some configuration))
  | reset : request.route = .resetConfiguration → Asks framework request true (.set none)

def Request.IsChanging (request : Request) : Prop :=
  request.route = .updateConfiguration ∨ request.route = .resetConfiguration

def Response.text? (response : Response) (name : String) : Option String :=
  match response with
  | .success (.object fields) => (Fields.find? fields name).bind Strict.text?
  | _ => none

namespace Service

variable {framework : Framework} {service next : Service} {request : Request}
  {command : Command} {includes : Bool} {configuration : Configuration} {path : Path}

/-! ## Single requests -/

theorem usable_eq_ok {form : ConfigurationForm} (accepted : usable form = .ok configuration) :
    form.configuration = .ok configuration ∧ configuration.IsValid := by
  unfold usable at accepted
  split at accepted
  · rename_i candidate read
    split at accepted
    · rename_i sound
      cases accepted
      exact ⟨read, sound⟩
    · cases accepted
  · cases accepted

theorem isProper_of_usable {form : ConfigurationForm} (accepted : usable form = .ok configuration) :
    configuration.IsProper := by
  rcases usable_eq_ok accepted with ⟨read, valid⟩
  exact ⟨Configuration.isNamed_of_ofFields read, valid⟩

theorem isGiving_of_asks (asks : request.Asks framework includes command) : command.IsGiving := by
  cases asks <;> trivial

theorem isOwn_of_asks (asks : request.Asks framework includes command) :
    command.IsOwn Configuration.IsProper := by
  cases asks with
  | «show» => trivial
  | update _ _ accepted => exact isProper_of_usable accepted
  | reset => trivial

theorem answer_cases (framework : Framework) (service : Service) (request : Request) :
    (∃ includes command step, request.Asks framework includes command ∧
        service.store.run service.device command =
          Store.StoreStep.answer .configuration step ∧
        service.answer framework request = service.answerWith includes step) ∨
      (∃ band custom, request.route = .offerLocalOnly ∧
        service.answer framework request = service.offerLocalOnly band custom) ∨
      (service.answer framework request).2 = service ∧
        ∀ body, (service.answer framework request).1 = .success body →
          request.route = .showCapabilities := by
  unfold answer
  split
  · rename_i route
    split
    · exact .inr (.inr ⟨rfl, nofun⟩)
    · rename_i includes read
      exact .inl ⟨includes, .get, _, .show route read, rfl, rfl⟩
  · rename_i route
    split
    · exact .inr (.inr ⟨rfl, nofun⟩)
    · rename_i form read
      split
      · exact .inr (.inr ⟨rfl, nofun⟩)
      · rename_i configuration accepted
        exact .inl ⟨false, .set (some configuration), _, .update route read accepted, rfl, rfl⟩
  · rename_i route
    exact .inl ⟨true, .set none, _, .reset route, rfl, rfl⟩
  · rename_i route
    split
    · exact .inr (.inr ⟨rfl, nofun⟩)
    · split
      · exact .inr (.inr ⟨rfl, nofun⟩)
      · rename_i band custom _
        exact .inr (.inl ⟨band, custom, route, rfl⟩)
  · rename_i route
    exact .inr (.inr ⟨rfl, fun _ _ => route⟩)

/-! ## What the service holds -/

/-- The document of the service is settled, and what the store holds is valid. -/
structure Sound (path : Path) (service : Service) : Prop where
  settled : service.store.engine.Settled path service.store.slot
  valid : ∀ configuration ∈ service.store.slot, configuration.IsValid

theorem Sound.run (sound : service.Sound path) (own : command.IsOwn Configuration.IsProper) :
    Sound path { service with store := (service.store.run service.device command).2 } := by
  have named := own.imp fun _ proper => proper.1
  have valid := own.imp fun _ proper => proper.2
  let setup : Setup := { device := service.device, path }
  exact ⟨(Setup.invariant_settled setup path).toInvariant.run sound.settled named,
    (Store.invariant_isValid service.device).run sound.valid valid⟩

theorem Sound.answerWith (sound : service.Sound path) (giving : command.IsGiving)
    {step : StoreStep Document Configuration}
    (runs : service.store.run service.device command =
      Store.StoreStep.answer .configuration step) (includes : Bool) :
    ∃ configuration,
      (service.answerWith includes step).1 = .success (configuration.toValue includes) ∧
      step.2.slot = some configuration ∧
      service.device.capabilities.policy.changes configuration.band = false := by
  rcases Store.answer_of_settled service.device sound.settled giving with
    ⟨configuration, answer, held, unchanged⟩
  rw [runs] at answer held
  refine ⟨configuration, ?_, held, unchanged⟩
  rcases step with ⟨result, store⟩
  cases result with
  | ok given =>
    cases answer
    rfl
  | error refusal => cases answer

theorem Sound.answer (sound : service.Sound path) (framework : Framework) (request : Request) :
    (service.answer framework request).2.Sound path := by
  rcases answer_cases framework service request with
    ⟨includes, command, step, asks, runs, answers⟩ | ⟨band, custom, _, answers⟩ | ⟨same, _⟩
  · have after := sound.run (isOwn_of_asks asks)
    rw [runs] at after
    rw [answers]
    exact after
  · rw [answers]
    exact ⟨sound.settled, sound.valid⟩
  · rw [same]
    exact sound

theorem isValid_of_randomizeBssid {device : Device} {addressed : Configuration}
    (valid : configuration.IsValid)
    (result : (Store.randomizeBssid device configuration).result = .ok addressed) :
    addressed.IsValid := by
  unfold Store.randomizeBssid Bssid.randomize at result
  dsimp only at result
  cases resolved : (Bssid.resolve configuration device.capabilities.macRandomization.isOn
      device.source {}).result with
  | ok bssid =>
    rw [resolved] at result
    cases result
    exact valid.withBssid bssid
  | error error =>
    rw [resolved] at result
    cases result

theorem Sound.isValid_answer (sound : service.Sound path) {body : Value}
    (success : (service.answer framework request).1 = .success body)
    (other : request.route ≠ .showCapabilities) :
    ∃ (configuration : Configuration) (includes : Bool),
      body = configuration.toValue includes ∧ configuration.IsValid := by
  have after := sound.answer framework request
  rcases answer_cases framework service request with
    ⟨includes, command, step, asks, runs, answers⟩ | ⟨band, custom, _, answers⟩ | ⟨_, silent⟩
  · rcases sound.answerWith (isGiving_of_asks asks) runs includes with
      ⟨configuration, given, held, _⟩
    rw [answers] at success after
    rw [given] at success
    cases success
    exact ⟨configuration, includes, rfl, after.valid configuration held⟩
  · rw [answers] at success
    simp only [offerLocalOnly] at success
    split at success
    · rename_i addressed result
      cases success
      exact ⟨addressed, true, rfl, isValid_of_randomizeBssid
        (Defaults.isValid_localOnly _ band custom _) result⟩
    · cases success
  · exact absurd (silent body success) other

structure Gives (path : Path) (configuration : Configuration) (service : Service) : Prop
    extends service.Sound path where
  held : service.store.slot = some configuration
  unchanged : service.device.capabilities.policy.changes configuration.band = false

theorem Gives.get (gives : service.Gives path configuration) :
    service.store.get service.device = (.ok configuration, service.store) := by
  rw [Store.get_of_some gives.held, Store.keepUsable, if_neg (by simp [gives.unchanged])]

theorem Gives.answer (gives : service.Gives path configuration)
    (still : ¬request.IsChanging) :
    (service.answer framework request).2.Gives path configuration := by
  have after := gives.toSound.answer framework request
  rcases answer_cases framework service request with
    ⟨includes, command, step, asks, runs, answers⟩ | ⟨band, custom, _, answers⟩ | ⟨same, _⟩
  · cases asks with
    | «show» =>
      rw [Store.run, gives.get] at runs
      have same : service.store = step.2 := congrArg Prod.snd runs
      rw [answers, answerWith, ← same]
      exact gives
    | update route => exact absurd (.inl route) still
    | reset route => exact absurd (.inr route) still
  · rw [answers] at after ⊢
    exact ⟨after, gives.held, gives.unchanged⟩
  · rw [same]
    exact gives

theorem Sound.gives (sound : service.Sound path) (changing : request.IsChanging) {body : Value}
    (success : (service.answer framework request).1 = .success body) :
    ∃ configuration includes, body = configuration.toValue includes ∧
      (service.answer framework request).2.Gives path configuration := by
  have after := sound.answer framework request
  rcases answer_cases framework service request with
    ⟨includes, command, step, asks, runs, answers⟩ | ⟨_, _, route, _⟩ | ⟨_, silent⟩
  · rcases sound.answerWith (isGiving_of_asks asks) runs includes with
      ⟨configuration, given, held, unchanged⟩
    rw [answers] at success after ⊢
    rw [given] at success
    cases success
    exact ⟨configuration, includes, rfl, after, held, unchanged⟩
  · rcases changing with updates | resets
    · exact nomatch updates.symm.trans route
    · exact nomatch resets.symm.trans route
  · have route := silent body success
    rcases changing with updates | resets
    · exact nomatch updates.symm.trans route
    · exact nomatch resets.symm.trans route

theorem Gives.answer_show (gives : service.Gives path configuration)
    (route : request.route = .showConfiguration)
    (read : framework.includesPassphrase request = .ok includes) :
    (service.answer framework request).1 = .success (configuration.toValue includes) := by
  simp only [Service.answer, route, read, Service.answerWith, gives.get]

/-! ## Restarts -/

inductive Restarts (service : Service) : Service → Prop
  | start {launch : Launch} {disk : Disk} {draws : Draws} {next : Service} :
      (launch.start disk draws).1 = .ok next →
      launch.documentPath = service.store.engine.path →
      Legacy.IsBare launch.legacyPath disk →
      next.device.capabilities = service.device.capabilities →
      launch.KeepsApart next.device.capabilities → disk.Writable launch.documentPath →
      disk.named? launch.documentPath =
        service.store.engine.disk.named? service.store.engine.path →
      Restarts service next

theorem Sound.restarts (sound : service.Sound path) (restarts : service.Restarts next) :
    next.Sound path ∧ next.store.slot = service.store.slot ∧
      next.device.capabilities = service.device.capabilities := by
  cases restarts with
  | start starts onPath bare capabilities apart writable same =>
    rcases Launch.document_of_start bare starts apart writable with ⟨free, document⟩
    have settled := Launch.settled_of_start bare starts free
    have held : next.store.slot = service.store.slot := by
      rw [← settled.stored, ← sound.settled.stored, Document.stored?, Document.stored?,
        settled.onPath, document, same]
    rw [onPath, sound.settled.onPath] at settled
    refine ⟨⟨settled, ?_⟩, held, capabilities⟩
    rw [held]
    exact sound.valid

theorem Gives.restarts (gives : service.Gives path configuration)
    (restarts : service.Restarts next) : next.Gives path configuration := by
  rcases gives.toSound.restarts restarts with ⟨sound, held, capabilities⟩
  exact ⟨sound, held.trans gives.held, capabilities ▸ gives.unchanged⟩

/-- What a service can come to. It is first started without a legacy configuration, where
its document is missing or cannot be read, and goes on over requests and restarts. -/
inductive Reachable (framework : Framework) : Service → Prop
  | start {launch : Launch} {disk : Disk} {draws : Draws} {service : Service} :
      (launch.start disk draws).1 = .ok service → Legacy.IsBare launch.legacyPath disk →
      service.store.engine.disk.Writable launch.documentPath →
      service.store.engine.stored? = none → Reachable framework service
  | answer {service : Service} (request : Request) :
      Reachable framework service → Reachable framework (service.answer framework request).2
  | restart {service next : Service} :
      Reachable framework service → service.Restarts next → Reachable framework next

/-- What a service comes to without requests that are to give the store another
configuration. -/
inductive Continues (framework : Framework) (service : Service) : Service → Prop
  | here : Continues framework service service
  | answer {later : Service} {request : Request} :
      Continues framework service later → ¬request.IsChanging →
      Continues framework service (later.answer framework request).2
  | restart {later next : Service} :
      Continues framework service later → later.Restarts next → Continues framework service next

theorem Reachable.sound (reachable : service.Reachable framework) : ∃ path, service.Sound path := by
  induction reachable with
  | start starts bare writable missing =>
    have settled := Launch.settled_of_start bare starts writable
    refine ⟨_, settled, ?_⟩
    rw [← settled.stored, missing]
    exact nofun
  | answer request _ before =>
    rcases before with ⟨path, sound⟩
    exact ⟨path, sound.answer framework request⟩
  | restart _ restarts before =>
    rcases before with ⟨path, sound⟩
    exact ⟨path, (sound.restarts restarts).1⟩

theorem Gives.continues (gives : service.Gives path configuration)
    (continues : service.Continues framework next) : next.Gives path configuration := by
  induction continues with
  | here => exact gives
  | answer _ still before => exact before.answer still
  | restart _ restarts before => exact before.restarts restarts

/-- Whatever a service has been through, it gives only configurations that an access
point can run with. The answer to a request that gives the store another configuration
is, but for the passphrase, the answer that every later request for the configuration
gets, over restarts as well, until the store is given another one. -/
theorem Reachable.answers (reachable : service.Reachable framework) (request : Request)
    {body : Value} (success : (service.answer framework request).1 = .success body) :
    (request.route ≠ .showCapabilities →
        ∃ (configuration : Configuration) (includes : Bool),
          body = configuration.toValue includes ∧ configuration.IsValid) ∧
      (request.IsChanging →
        ∃ (configuration : Configuration) (includes : Bool),
          body = configuration.toValue includes ∧
            ∀ (later : Service) (again : Request) (includesAgain : Bool),
              (service.answer framework request).2.Continues framework later →
              again.route = .showConfiguration →
              framework.includesPassphrase again = .ok includesAgain →
              (later.answer framework again).1 =
                .success (configuration.toValue includesAgain)) := by
  rcases reachable.sound with ⟨path, sound⟩
  refine ⟨sound.isValid_answer success, fun changing => ?_⟩
  rcases sound.gives changing success with ⟨configuration, includes, same, gives⟩
  refine ⟨configuration, includes, same, ?_⟩
  intro later again includesAgain continues route read
  exact (gives.continues continues).answer_show route read

theorem answers_of_reset :
    let launch : Launch := { path := some "softap.json", capabilities := some {} }
    let reset : Request := { route := .resetConfiguration }
    let showing : Request := { route := .showConfiguration }
    ∃ service, (launch.start {} (.cycle [])).1 = .ok service ∧
      ∃ (configuration : Configuration) (includes : Bool),
        (service.answer Strict.framework reset).1 = .success (configuration.toValue includes) ∧
        ∃ next, (service.answer Strict.framework reset).2.Restarts next ∧
          (next.answer Strict.framework showing).1 = .success (configuration.toValue false) := by
  intro launch reset showing
  let path : Path := { parts := ["softap.json"] }
  let store : Store Document :=
    { engine := { disk := {}, path, hasStore := true, loaded := true }, draws := .cycle [] }
  let service : Service := { device := {}, store }
  have onPath : launch.documentPath = path := by decide +kernel
  have alone : launch.legacyPath = none := by decide +kernel
  have bare (disk : Disk) : Legacy.IsBare launch.legacyPath disk := by
    rw [alone]
    exact nofun
  have starts : (launch.start {} (.cycle [])).1 = .ok service := by
    simp only [Launch.start, Launch.deviceCapabilities, Launch.addressSource, Launch.startOn,
      onPath, alone]
    rfl
  have writable : Disk.Writable {} path := fun _ => ⟨_, rfl⟩
  have reachable : service.Reachable Strict.framework :=
    .start starts (bare _) (onPath ▸ writable) rfl
  have changing : reset.IsChanging := .inr rfl
  have success : (service.answer Strict.framework reset).1 = .success _ := rfl
  rcases (reachable.answers reset success).2 changing with ⟨configuration, includes, same, gives⟩
  let left : Service := (service.answer Strict.framework reset).2
  rcases (reachable.answer reset).sound with ⟨other, sound⟩
  have leftPath : launch.documentPath = left.store.engine.path := onPath
  have free : left.store.engine.disk.Writable launch.documentPath := by
    rw [leftPath, sound.settled.onPath]
    exact sound.settled.writable
  rcases Launch.start_of_writable rfl rfl alone free (.cycle []) with ⟨next, again, capabilities⟩
  have apart : launch.KeepsApart next.device.capabilities := by
    rw [capabilities]
    intro _ randomizes
    exact absurd randomizes (by decide)
  have restarts : left.Restarts next :=
    .start again leftPath (bare _) capabilities apart free (congrArg _ leftPath)
  refine ⟨service, starts, configuration, includes, success.trans (congrArg _ same), next,
    restarts, ?_⟩
  exact gives next showing false (.restart .here restarts) rfl rfl

/-- Under the name of the secret, the document is overwritten by each start, and the
service forgets what it has given. -/
theorem forgets_configuration_under_name_of_secret :
    let launch : Launch :=
      { path := some "softap_mac_secret", token := [0x00, 0xFF]
        capabilities := some { macRandomization := .ofSwitch true } }
    let fields : Fields := [("ssid", .text "AP"), ("security_type", .text "OPEN")]
    let update : Request :=
      { route := .updateConfiguration
        body := Text.encodeUtf8 (Json.print .compact (.object fields)) }
    let showing : Request := { route := .showConfiguration }
    let first : Option (Response × Service) :=
      (launch.start {} (.cycle [9, 88, 777])).1.toOption.map (·.answer Strict.framework update)
    let second : Option (Response × Service) := first.bind fun step =>
      (launch.start step.2.store.engine.disk step.2.store.draws).1.toOption.map
        (·.answer Strict.framework showing)
    first.map (fun step => (step.1.status, step.1.text? "ssid")) = some (200, some "AP") ∧
      second.map (fun step => (step.1.status, step.1.text? "ssid")) =
        some (200, some "AndroidAP_1009") := by
  decide +kernel

end Service

end Hotspot
