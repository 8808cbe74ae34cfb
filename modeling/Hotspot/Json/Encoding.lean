import Hotspot.Json.Parser
import Hotspot.Text.Surrogates

namespace Hotspot.Json

/-! How a JSON text is encoded. It begins with ASCII characters, so where no
byte order mark says it, the zeros among its first four bytes tell UTF-8,
UTF-16 and UTF-32 apart. -/

inductive ByteOrder where
  | mostSignificantFirst
  | leastSignificantFirst
deriving DecidableEq, Repr

def ByteOrder.number (order : ByteOrder) (bytes : List UInt8) : Nat :=
  let ordered :=
    match order with
    | .mostSignificantFirst => bytes
    | .leastSignificantFirst => bytes.reverse
  ordered.foldl (fun number byte => 256 * number + byte.toNat) 0

inductive Encoding where
  | utf8
  | utf16 (order : ByteOrder)
  | utf32 (order : ByteOrder)
deriving DecidableEq, Repr

namespace Encoding

def marked? : List UInt8 → Option (Encoding × List UInt8)
  | 0x00 :: 0x00 :: 0xFE :: 0xFF :: rest => some (.utf32 .mostSignificantFirst, rest)
  | 0xFF :: 0xFE :: 0x00 :: 0x00 :: rest => some (.utf32 .leastSignificantFirst, rest)
  | 0xFE :: 0xFF :: rest => some (.utf16 .mostSignificantFirst, rest)
  | 0xFF :: 0xFE :: rest => some (.utf16 .leastSignificantFirst, rest)
  | 0xEF :: 0xBB :: 0xBF :: rest => some (.utf8, rest)
  | _ => none

def ofZeros : List UInt8 → Encoding
  | first :: second :: third :: fourth :: _ =>
    if first = 0 then
      if second = 0 then .utf32 .mostSignificantFirst else .utf16 .mostSignificantFirst
    else if second = 0 then
      if third = 0 ∧ fourth = 0 then .utf32 .leastSignificantFirst
      else .utf16 .leastSignificantFirst
    else
      .utf8
  | [first, second] =>
    if first = 0 then .utf16 .mostSignificantFirst
    else if second = 0 then .utf16 .leastSignificantFirst
    else .utf8
  | _ => .utf8

def detect (bytes : List UInt8) : Encoding × List UInt8 :=
  (marked? bytes).getD (ofZeros bytes, bytes)

def doubleBytes? (order : ByteOrder) : List UInt8 → Option (List Nat)
  | [] => some []
  | first :: second :: rest =>
    (doubleBytes? order rest).map (order.number [first, second] :: ·)
  | [_] => none

def quadrupleBytes? (order : ByteOrder) : List UInt8 → Option (List Nat)
  | [] => some []
  | first :: second :: third :: fourth :: rest =>
    (quadrupleBytes? order rest).map (order.number [first, second, third, fourth] :: ·)
  | _ => none

def points? : Encoding → List UInt8 → Option (List Nat)
  | .utf8, bytes => Text.points? bytes
  | .utf16 order, bytes => (doubleBytes? order bytes).map Text.pointsOfUnits
  | .utf32 order, bytes =>
    (quadrupleBytes? order bytes).filter fun points => points.all (· < 0x110000)

end Encoding

def decode? (bytes : List UInt8) : Option (List Nat) :=
  let (encoding, bytes) := Encoding.detect bytes
  encoding.points? bytes

def ofPoints? (points : List Nat) : Option Value := do
  parse? (← points.mapM Text.character?)

example : decode? [0xEF, 0xBB, 0xBF, 0x31] = some [0x31] := by decide +kernel

example :
    decode? [0x22, 0x00, 0x3D, 0xD8, 0x00, 0xDE, 0x22, 0x00] = some [0x22, 0x1F600, 0x22] := by
  decide +kernel

end Hotspot.Json
