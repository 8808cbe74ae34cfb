import Hotspot.Binary64.Basic
import Hotspot.Text.Numeral

namespace Hotspot

/-! Values without a fixed shape, as they arrive in documents, requests and
resource files before anything is known about them. An object keeps its fields
in the order in which their names first appeared. -/

inductive Value where
  | null
  | bool (value : Bool)
  | integer (value : Int)
  | float (value : Binary64)
  | text (value : String)
  | bytes (value : List UInt8)
  | list (items : List Value)
  | object (fields : List (String × Value))
deriving Inhabited, Repr

/-- Give a name a value. A name that is already there keeps its place. -/
def putEntry {α β : Type} [DecidableEq α] (entries : List (α × β)) (name : α) (value : β) :
    List (α × β) :=
  match entries with
  | [] => [(name, value)]
  | entry :: rest =>
    if entry.1 = name then (name, value) :: rest else entry :: putEntry rest name value

abbrev Fields := List (String × Value)

namespace Fields

def find? (fields : Fields) (name : String) : Option Value :=
  fields.lookup name

def put (fields : Fields) (name : String) (value : Value) : Fields :=
  putEntry fields name value

theorem find?_put (fields : Fields) (name : String) (value : Value) :
    (fields.put name value).find? name = some value := by
  unfold put
  induction fields with
  | nil => simp [putEntry, find?]
  | cons field rest induction =>
    obtain ⟨label, held⟩ := field
    by_cases same : label = name
    · simp [putEntry, same, find?]
    · have different : (name == label) = false := by simp [Ne.symm same]
      simpa [putEntry, same, find?, List.lookup_cons, different] using induction

theorem find?_put_of_ne (fields : Fields) {name other : String} (value : Value)
    (different : other ≠ name) :
    (fields.put name value).find? other = fields.find? other := by
  have unequal : (other == name) = false := by simp [different]
  unfold put
  induction fields with
  | nil => simp [putEntry, find?, List.lookup_cons, unequal]
  | cons field rest induction =>
    obtain ⟨label, held⟩ := field
    by_cases same : label = name
    · simp [putEntry, same, find?, List.lookup_cons, unequal]
    · cases found : other == label
      · simpa [putEntry, same, find?, List.lookup_cons, found] using induction
      · simp [putEntry, same, find?, List.lookup_cons, found]

end Fields

namespace Value

/-- The value counts as true: it is neither null, nor false, nor zero, nor
empty. -/
def isTrue : Value → Bool
  | .null => false
  | .bool value => value
  | .integer value => value ≠ 0
  | .float value => !value.isZero
  | .text value => !value.isEmpty
  | .bytes value => !value.isEmpty
  | .list items => !items.isEmpty
  | .object fields => !fields.isEmpty

example : isTrue (.text "false") = true ∧ isTrue (.list []) = false := by decide +kernel

end Value

inductive IntegerError where
  | malformed (value : Value)
  | nan
  | infinite
  | otherKind

/-- The integer that a value denotes. A fraction is cut off, a text or byte
string is read as a numeral, and truth values count as one and zero. -/
def Value.toInteger : Value → Except IntegerError Int
  | .bool value => .ok (if value then 1 else 0)
  | .integer value => .ok value
  | .float .nan => .error .nan
  | .float (.infinite _) => .error .infinite
  | .float (.finite negative significand exponent) =>
    .ok (Text.withSign negative (Binary64.wholePart significand exponent))
  | .text value =>
    match Text.integer? value.toList with
    | some number => .ok number
    | none => .error (.malformed (.text value))
  | .bytes value =>
    match Text.integerOfBytes? value with
    | some number => .ok number
    | none => .error (.malformed (.bytes value))
  | .null | .list _ | .object _ => .error .otherKind

end Hotspot
