import Hotspot.Proofs.Service.Serving

/-! Requests that are turned down, and requests for a network without connection. Whether a
request is turned down is a matter of the request alone and settled before anything is done
for it, so it leaves the service as it was. A network without connection takes random numbers
and nothing else. -/

namespace Hotspot

def Response.IsRejection (response : Response) : Prop :=
  response.status = 400 ∨ response.status = 422

theorem Response.not_isRejection_success (body : Value) : ¬(success body).IsRejection := by
  simp [IsRejection, status]

theorem Response.not_isRejection_failure : ¬failure.IsRejection := by
  simp [IsRejection, status]

/-- The response to an update or to a request for a network without connection that is turned
down, whatever the service. -/
inductive Request.IsTurnedDown (framework : Framework) (request : Request) : Response → Prop
  | unfitUpdate {reason : Unfit} : request.route = .updateConfiguration →
      framework.update request = .error reason → IsTurnedDown framework request (.unfit reason)
  | unusable {form : ConfigurationForm} {complaint : Complaint} :
      request.route = .updateConfiguration → framework.update request = .ok form →
      Service.usable form = .error complaint → IsTurnedDown framework request (.rejected complaint)
  | unfitWish {reason : Unfit} : request.route = .offerLocalOnly →
      framework.localOnly request = .error reason → IsTurnedDown framework request (.unfit reason)
  | unwished {form : LocalOnlyForm} {complaint : Complaint} :
      request.route = .offerLocalOnly → framework.localOnly request = .ok form →
      Service.localOnlyWish form = .error complaint →
      IsTurnedDown framework request (.rejected complaint)

namespace Service

variable {framework : Framework} {service : Service} {request : Request} {response : Response}

def DiffersInDraws (service next : Service) : Prop :=
  ∃ draws, next = { service with store := { service.store with draws } }

theorem DiffersInDraws.refl (service : Service) : service.DiffersInDraws service :=
  ⟨service.store.draws, rfl⟩

/-! ## Single requests -/

theorem answer_of_isTurnedDown (turnedDown : request.IsTurnedDown framework response) :
    service.answer framework request = (response, service) := by
  cases turnedDown with
  | unfitUpdate route unfit => simp only [answer, route, unfit]
  | unusable route read refused => simp only [answer, route, read, refused]
  | unfitWish route unfit => simp only [answer, route, unfit]
  | unwished route read refused => simp only [answer, route, read, refused]

theorem not_isRejection_answerWith (includes : Bool) (step : StoreStep Document Configuration) :
    ¬(service.answerWith includes step).1.IsRejection := by
  rcases step with ⟨result, store⟩
  cases result with
  | ok configuration => exact Response.not_isRejection_success _
  | error refusal => exact Response.not_isRejection_failure

theorem not_isRejection_offerLocalOnly (band : Band) (custom : Option Configuration) :
    ¬(service.offerLocalOnly band custom).1.IsRejection := by
  unfold offerLocalOnly
  dsimp only
  split
  · exact Response.not_isRejection_success _
  · exact Response.not_isRejection_failure

theorem answer_update {form : ConfigurationForm} {configuration : Configuration}
    (route : request.route = .updateConfiguration)
    (read : framework.update request = .ok form)
    (judged : usable form = .ok configuration) :
    service.answer framework request =
      service.answerWith false (service.store.set service.device (some configuration)) := by
  simp only [answer, route, read, judged]

theorem answer_offer {form : LocalOnlyForm} {wish : Band × Option Configuration}
    (route : request.route = .offerLocalOnly) (read : framework.localOnly request = .ok form)
    (judged : localOnlyWish form = .ok wish) :
    service.answer framework request = service.offerLocalOnly wish.1 wish.2 := by
  simp only [answer, route, read, judged]

theorem isTurnedDown_or_not_isRejection (framework : Framework) (service : Service)
    (route : request.route = .updateConfiguration ∨ request.route = .offerLocalOnly) :
    (∃ response, request.IsTurnedDown framework response) ∨
      ¬(service.answer framework request).1.IsRejection := by
  rcases route with route | route
  · cases read : framework.update request with
    | error fault => exact .inl ⟨_, .unfitUpdate route read⟩
    | ok form =>
      cases judged : usable form with
      | error complaint => exact .inl ⟨_, .unusable route read judged⟩
      | ok configuration =>
        rw [answer_update route read judged]
        exact .inr (not_isRejection_answerWith false _)
  · cases read : framework.localOnly request with
    | error fault => exact .inl ⟨_, .unfitWish route read⟩
    | ok form =>
      cases judged : localOnlyWish form with
      | error complaint => exact .inl ⟨_, .unwished route read judged⟩
      | ok wish =>
        rw [answer_offer route read judged]
        exact .inr (not_isRejection_offerLocalOnly wish.1 wish.2)

theorem isTurnedDown_of_isRejection
    (route : request.route = .updateConfiguration ∨ request.route = .offerLocalOnly)
    (rejected : (service.answer framework request).1.IsRejection) :
    request.IsTurnedDown framework (service.answer framework request).1 := by
  rcases isTurnedDown_or_not_isRejection framework service route with
    ⟨response, turnedDown⟩ | accepted
  · rw [answer_of_isTurnedDown turnedDown]
    exact turnedDown
  · exact absurd rejected accepted

theorem differsInDraws_of_offerLocalOnly (route : request.route = .offerLocalOnly) :
    service.DiffersInDraws (service.answer framework request).2 := by
  rcases answer_cases framework service request with
    ⟨_, _, _, asks, _, _⟩ | ⟨band, custom, _, answers⟩ | ⟨same, _⟩
  · cases asks with
    | «show» other => exact nomatch route.symm.trans other
    | update other => exact nomatch route.symm.trans other
    | reset other => exact nomatch route.symm.trans other
  · rw [answers]
    exact ⟨_, rfl⟩
  · rw [same]
    exact .refl service

theorem exists_complaint_iff {form : ConfigurationForm} :
    (∃ complaint, usable form = .error complaint) ↔
      (∃ error, form.configuration = .error error) ∨
        ∃ configuration, form.configuration = .ok configuration ∧ configuration.flaw? ≠ none := by
  unfold usable
  cases form.configuration with
  | error error => simp
  | ok configuration => cases found : configuration.flaw? <;> simp [found]

theorem status_update_iff {form : ConfigurationForm} (route : request.route = .updateConfiguration)
    (read : framework.update request = .ok form) :
    (service.answer framework request).1.status = 400 ↔
      ∃ complaint, usable form = .error complaint := by
  cases judged : usable form with
  | error complaint =>
    rw [answer_of_isTurnedDown (.unusable route read judged)]
    exact iff_of_true rfl ⟨complaint, rfl⟩
  | ok configuration =>
    rw [answer_update route read judged]
    exact iff_of_false (fun status => not_isRejection_answerWith false _ (.inl status)) nofun

/-- An update or a request for a network without connection that is rejected leaves the service
exactly as it was, and every other service rejects it in the same way. A request for a network
without connection leaves all but the random numbers, whatever comes of it. An update whose
form is read is rejected exactly if it spells no configuration, or one that an access point
cannot run with. -/
theorem rejects_before_acting (framework : Framework) (service : Service) (request : Request) :
    (request.route = .updateConfiguration ∨ request.route = .offerLocalOnly →
        (service.answer framework request).1.status = 400 ∨
          (service.answer framework request).1.status = 422 →
        (service.answer framework request).2 = service ∧
          ∀ other : Service,
            other.answer framework request = ((service.answer framework request).1, other)) ∧
      (request.route = .offerLocalOnly → ∃ draws,
        (service.answer framework request).2 =
          { service with store := { service.store with draws } }) ∧
      ∀ form, request.route = .updateConfiguration → framework.update request = .ok form →
        ((service.answer framework request).1.status = 400 ↔
          (∃ error, form.configuration = .error error) ∨
            ∃ configuration, form.configuration = .ok configuration ∧
              configuration.flaw? ≠ none) := by
  refine ⟨fun route rejected => ?_, fun route => differsInDraws_of_offerLocalOnly route,
    fun form route read => ?_⟩
  · have turnedDown := isTurnedDown_of_isRejection route rejected
    exact ⟨congrArg Prod.snd (answer_of_isTurnedDown turnedDown),
      fun other => answer_of_isTurnedDown turnedDown⟩
  · rw [status_update_iff route read, exists_complaint_iff]

end Service

end Hotspot
