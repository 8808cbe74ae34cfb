import Hotspot.Service.Response
import Hotspot.Store.Document

namespace Hotspot

/-! The service, which answers requests from a store on a JSON document. A
request that is unfit or turned down leaves the store as it is. -/

structure Service where
  device : Device
  store : Store Document

namespace Service

def title : String := "SoftAP configuration"

def version : String := "0.1.0"

def answerWith (service : Service) (includePassphrase : Bool)
    (step : StoreStep Document Configuration) : Response × Service :=
  let response :=
    match step.1 with
    | .ok configuration => .success (configuration.toValue includePassphrase)
    | .error _ => .failure
  (response, { service with store := step.2 })

def usable (form : ConfigurationForm) : Except Complaint Configuration :=
  match form.configuration with
  | .ok configuration =>
    match configuration.flaw? with
    | none => .ok configuration
    | some flaw => .error (.flaw flaw)
  | .error error => .error (.configuration error)

def localOnlyWish (form : LocalOnlyForm) : Except Complaint (Band × Option Configuration) := do
  let band ← (Band.ofValue form.band.toValue).mapError Complaint.band
  let custom ← form.custom.mapError Complaint.configuration
  if band = .any then .error .everyBand else .ok (band, custom)

def offerLocalOnly (service : Service) (band : Band) (custom : Option Configuration) :
    Response × Service :=
  let (configuration, store) := service.store.localOnly service.device band custom
  let response :=
    match (Store.randomizeBssid service.device configuration).result with
    | .ok addressed => .success (addressed.toValue true)
    | .error _ => .failure
  (response, { service with store })

def answer (service : Service) (framework : Framework) (request : Request) :
    Response × Service :=
  match request.route with
  | .showConfiguration =>
    match framework.includesPassphrase request with
    | .error reason => (.unfit reason, service)
    | .ok includes => service.answerWith includes (service.store.get service.device)
  | .updateConfiguration =>
    match framework.update request with
    | .error reason => (.unfit reason, service)
    | .ok form =>
      match usable form with
      | .error complaint => (.rejected complaint, service)
      | .ok configuration =>
        service.answerWith false (service.store.set service.device (some configuration))
  | .resetConfiguration =>
    service.answerWith true (service.store.set service.device none)
  | .offerLocalOnly =>
    match framework.localOnly request with
    | .error reason => (.unfit reason, service)
    | .ok form =>
      match localOnlyWish form with
      | .error complaint => (.rejected complaint, service)
      | .ok (band, custom) => service.offerLocalOnly band custom
  | .showCapabilities => (.success service.device.capabilities.toValue, service)

end Service

end Hotspot
