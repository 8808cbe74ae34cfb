import Hotspot.Json.Encoding
import Hotspot.Proofs.Configuration.Mapping
import Hotspot.Service.Framework

/-! What is relied on in a framework, and a framework of that kind, which takes a field only as
the very type of its entry. What the service does is the same under every framework, so the runs
on requests that are written out use this one. -/

namespace Hotspot

def Request.object? (request : Request) : Option Fields :=
  match (Json.decode? request.body).bind Json.ofPoints? with
  | some (.object fields) => some fields
  | _ => none

/-- Each entry of a form is read from the field of its name alone. So bodies that agree but for
the passphrase fill in forms that agree but for it. -/
def Framework.ReadsFieldwise (framework : Framework) : Prop :=
  ∀ (request : Request) (body : List UInt8) (fields others : Fields)
      (form otherForm : ConfigurationForm),
    request.object? = some fields → Request.object? { request with body } = some others →
    Fields.AgreeExcept "passphrase" fields others →
    framework.update request = .ok form →
    framework.update { request with body } = .ok otherForm →
    otherForm = { form with passphrase := otherForm.passphrase }

namespace Strict

variable {α : Type}

def text? : Value → Option String
  | .text text => some text
  | _ => none

def optionalText? : Value → Option (Option String)
  | .null => some none
  | value => (text? value).map some

def count? : Value → Option Nat
  | .integer number => number.toNat?
  | _ => none

def switch? : Value → Option Bool
  | .bool value => some value
  | _ => none

def band? : Value → Option BandSpelling
  | .integer mask => some (.mask mask)
  | .text text => some (.text text)
  | .list items => (items.mapM text?).map .texts
  | _ => none

def entry (fields : Fields) (name : String) (read? : Value → Option α) (usual? : Option α) :
    Option α :=
  match fields.find? name with
  | some value => read? value
  | none => usual?

def configurationForm? (fields : Fields) : Option ConfigurationForm := do
  let usual : ConfigurationForm := { ssid := "" }
  let ssid ← entry fields "ssid" text? none
  let passphrase ← entry fields "passphrase" optionalText? (some usual.passphrase)
  let securityType ← entry fields "security_type" text? (some usual.securityType)
  let band ← entry fields "band" band? (some usual.band)
  let channel ← entry fields "channel" count? (some usual.channel)
  let hiddenSsid ← entry fields "hidden_ssid" switch? (some usual.hiddenSsid)
  let bssid ← entry fields "bssid" optionalText? (some usual.bssid)
  let maxClients ← entry fields "max_number_of_clients" count? (some usual.maxClients)
  let clientControl ←
    entry fields "client_control_by_user_enabled" switch? (some usual.clientControl)
  return {
    ssid, passphrase, securityType, band, channel, hiddenSsid, bssid, maxClients, clientControl }

def localOnlyForm? (fields : Fields) : Option LocalOnlyForm := do
  let usual : LocalOnlyForm := {}
  let band ← entry fields "band" band? (some usual.band)
  let bssid ← entry fields "bssid" optionalText? (some usual.bssid)
  return { band, bssid }

def orRefuse (names : List String) : Option α → Except Unfit α
  | some read => .ok read
  | none => .error (.unprocessable names)

def framework : Framework where
  update request := orRefuse ["<body>"] (request.object?.bind configurationForm?)
  localOnly request := orRefuse ["<body>"] (request.object?.bind localOnlyForm?)
  includesPassphrase request :=
    match request.query with
    | [] => .ok false
    | [("include_passphrase", "true")] => .ok true
    | [("include_passphrase", "false")] => .ok false
    | _ => .error (.unprocessable ["include_passphrase"])

theorem form_of_update {request : Request} {fields : Fields} {form : ConfigurationForm}
    (object : request.object? = some fields) (read : framework.update request = .ok form) :
    configurationForm? fields = some form := by
  simp only [framework, object, Option.bind_some] at read
  cases filled : configurationForm? fields with
  | none =>
    rw [filled] at read
    cases read
  | some other =>
    rw [filled] at read
    cases read
    rfl

theorem entry_of_agree {fields others : Fields} {name except : String}
    {read? : Value → Option α} {usual? : Option α}
    (agree : Fields.AgreeExcept except fields others) (different : name ≠ except) :
    entry others name read? usual? = entry fields name read? usual? := by
  rw [entry, entry, agree name different]

theorem readsFieldwise : framework.ReadsFieldwise := by
  intro request body fields others form otherForm object otherObject agree read otherRead
  have filled := form_of_update object read
  have otherFilled := form_of_update otherObject otherRead
  simp only [configurationForm?, Option.bind_eq_bind, Option.bind_eq_some_iff] at filled otherFilled
  simp (disch := decide) only [entry_of_agree agree] at otherFilled
  obtain ⟨ssid, hasSsid, passphrase, _, security, hasSecurity, band, hasBand, channel, hasChannel,
    hidden, hasHidden, bssid, hasBssid, clients, hasClients, control, hasControl, ⟨⟩⟩ := filled
  obtain ⟨_, otherSsid, other, _, _, otherSecurity, _, otherBand, _, otherChannel, _, otherHidden,
    _, otherBssid, _, otherClients, _, otherControl, ⟨⟩⟩ := otherFilled
  obtain rfl := Option.some.inj (hasSsid.symm.trans otherSsid)
  obtain rfl := Option.some.inj (hasSecurity.symm.trans otherSecurity)
  obtain rfl := Option.some.inj (hasBand.symm.trans otherBand)
  obtain rfl := Option.some.inj (hasChannel.symm.trans otherChannel)
  obtain rfl := Option.some.inj (hasHidden.symm.trans otherHidden)
  obtain rfl := Option.some.inj (hasBssid.symm.trans otherBssid)
  obtain rfl := Option.some.inj (hasClients.symm.trans otherClients)
  obtain rfl := Option.some.inj (hasControl.symm.trans otherControl)
  rfl

end Strict

end Hotspot
