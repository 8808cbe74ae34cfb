import Hotspot.Service.Form

namespace Hotspot

/-! Requests, and the web framework between the clients and the service. The framework finds
the route and reads the query and the body. How it does that is not the business of the service,
which gets a form, or nothing at all where the framework answers for itself. -/

inductive Route where
  | showConfiguration
  | updateConfiguration
  | resetConfiguration
  | offerLocalOnly
  | showCapabilities
deriving DecidableEq, Repr

def Route.find? (method path : String) : Option Route :=
  match method, path with
  | "GET", "config" => some .showConfiguration
  | "PUT", "config" => some .updateConfiguration
  | "POST", "config/reset" => some .resetConfiguration
  | "POST", "local-only" => some .offerLocalOnly
  | "GET", "capabilities" => some .showCapabilities
  | _, _ => none

structure Request where
  route : Route
  query : List (String × String) := []
  body : List UInt8 := []

/-- What the framework says to a request that it does not hand on. -/
inductive Unfit where
  | malformed (detail : String)
  | unprocessable (names : List String)
  | failed

def Unfit.status : Unfit → Nat
  | .malformed _ => 400
  | .unprocessable _ => 422
  | .failed => 500

structure Framework where
  update : Request → Except Unfit ConfigurationForm
  localOnly : Request → Except Unfit LocalOnlyForm
  includesPassphrase : Request → Except Unfit Bool

end Hotspot
