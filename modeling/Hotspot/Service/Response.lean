import Hotspot.Configuration.Validation
import Hotspot.Service.Framework

namespace Hotspot

/-! Responses of the service. -/

inductive Complaint where
  | configuration (error : Configuration.ReadError)
  | flaw (flaw : Flaw)
  | band (error : Band.Error)
  | everyBand

def Complaint.message : Complaint → String
  | .configuration error => error.message
  | .flaw found => "Invalid configuration: " ++ found.message
  | .band error => error.message
  | .everyBand => "Local-only hotspots need a concrete band"

inductive Response where
  | success (body : Value)
  | rejected (complaint : Complaint)
  | unfit (reason : Unfit)
  | failure

def Response.status : Response → Nat
  | .success _ => 200
  | .rejected _ => 400
  | .unfit reason => reason.status
  | .failure => 500

end Hotspot
