import Hotspot.Json.Node
import Hotspot.Json.Token

namespace Hotspot.Json

/-! From tokens to what they spell, by a machine with a stack of the lists and objects that
are still open. Of two fields with one name the later value counts. -/

/-- An open list or object that waits for a value. Items are kept backwards. -/
inductive Frame where
  | item (before : List Node)
  | member (before : Members) (name : List Nat)

/-- What has to come next, with the open lists and objects, innermost first. -/
inductive Parsing where
  | awaitValue (frames : List Frame)
  | awaitFirstItem (frames : List Frame)
  | awaitFirstName (frames : List Frame)
  | awaitName (before : Members) (frames : List Frame)
  | awaitColon (before : Members) (name : List Nat) (frames : List Frame)
  | complete (node : Node) (frames : List Frame)

namespace Parsing

def start (frames : List Frame) : Token → Option Parsing
  | .atom value => some (.complete (.value value) frames)
  | .text points => some (.complete (.text points) frames)
  | .openList => some (.awaitFirstItem frames)
  | .openObject => some (.awaitFirstName frames)
  | _ => none

def step (parsing : Parsing) (token : Token) : Option Parsing :=
  match parsing, token with
  | .awaitValue frames, token => start frames token
  | .awaitFirstItem frames, .closeList => some (.complete (.list []) frames)
  | .awaitFirstItem frames, token => start (.item [] :: frames) token
  | .awaitFirstName frames, .closeObject => some (.complete (.object []) frames)
  | .awaitFirstName frames, .text name => some (.awaitColon [] name frames)
  | .awaitName before frames, .text name => some (.awaitColon before name frames)
  | .awaitColon before name frames, .colon => some (.awaitValue (.member before name :: frames))
  | .complete node (.item before :: frames), .comma =>
    some (.awaitValue (.item (node :: before) :: frames))
  | .complete node (.item before :: frames), .closeList =>
    some (.complete (.list (node :: before).reverse) frames)
  | .complete node (.member before name :: frames), .comma =>
    some (.awaitName (putEntry before name node) frames)
  | .complete node (.member before name :: frames), .closeObject =>
    some (.complete (.object (putEntry before name node)) frames)
  | _, _ => none

def finish : Parsing → Option Node
  | .complete node [] => some node
  | _ => none

end Parsing

def ofTokens? (tokens : List Token) : Option Node := do
  (← tokens.foldlM Parsing.step (.awaitValue [])).finish

def node? (text : List Char) : Option Node := do
  ofTokens? (← tokens? text)

def nodeOfUtf8? (bytes : List UInt8) : Option Node := do
  node? (← Text.decodeUtf8? bytes)

/-- The value of a JSON text. A text with a surrogate without its partner has none. -/
def parse? (text : List Char) : Option Value := do
  (← node? text).value?

def ofUtf8? (bytes : List UInt8) : Option Value := do
  (← nodeOfUtf8? bytes).value?

end Hotspot.Json
