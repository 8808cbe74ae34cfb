import Hotspot.Legacy.Record
import Hotspot.Text.ModifiedUtf8

namespace Hotspot.Legacy

/-! The binary format of legacy records. Integers have four bytes in two's
complement, texts are modified UTF-8 behind a length of two bytes, and the most
significant byte comes first. The second version added the band and the
channel, the third whether the network is hidden; the passphrase is there only
with authentication. -/

/-- Read from the front of a byte string: a value and the bytes behind it. -/
abbrev Reader (value : Type) := List UInt8 → Except Error (value × List UInt8)

def readBytes (count : Nat) : Reader (List UInt8) := fun bytes =>
  if bytes.length < count then .error .truncated
  else .ok (bytes.take count, bytes.drop count)

def natural (bytes : List UInt8) : Nat :=
  bytes.foldl (fun number byte => 256 * number + byte.toNat) 0

def signed (number : Nat) : Int :=
  if number < 0x80000000 then number else (number : Int) - 0x100000000

def readInteger : Reader Int := fun bytes => do
  let (field, rest) ← readBytes 4 bytes
  return (signed (natural field), rest)

def readSwitch : Reader Bool := fun bytes => do
  let (field, rest) ← readBytes 1 bytes
  return (field ≠ [0], rest)

def readText : Reader String := fun bytes => do
  let (length, rest) ← readBytes 2 bytes
  let (field, rest) ← readBytes (natural length) rest
  match Text.decodeModified? field with
  | some text => return (String.ofList text, rest)
  | none => .error .malformedText

def readIf {value : Type} (there : Bool) (absent : value) (reader : Reader value) :
    Reader value := fun bytes =>
  if there then reader bytes else .ok (absent, bytes)

def readRecord : Reader Record := fun bytes => do
  let (version, rest) ← readInteger bytes
  if version < 1 ∨ 3 < version then
    .error (.badVersion version)
  else
    let (ssid, rest) ← readText rest
    let (band, rest) ← readIf (2 ≤ version) 0 readInteger rest
    let (channel, rest) ← readIf (2 ≤ version) 0 readInteger rest
    let (hidden, rest) ← readIf (3 ≤ version) false readSwitch rest
    let (authType, rest) ← readInteger rest
    let (passphrase, rest) ←
      readIf (authType ≠ 0) none (fun bytes => do
        let (text, rest) ← readText bytes
        return (some text, rest)) rest
    return ({ version, ssid, band, channel, hidden, authType, passphrase }, rest)

inductive WriteError where
  | textTooLong
  | numberTooLarge
deriving DecidableEq

def WriteError.message? : WriteError → Option String
  | .textTooLong => some "Legacy strings are limited to 65535 encoded bytes"
  | .numberTooLarge => none

def bytesOf (count number : Nat) : List UInt8 :=
  match count with
  | 0 => []
  | count + 1 => bytesOf count (number / 256) ++ [UInt8.ofNat (number % 256)]

def writeInteger (number : Int) : Except WriteError (List UInt8) :=
  if -0x80000000 ≤ number ∧ number < 0x80000000 then
    .ok (bytesOf 4 (number % 0x100000000).toNat)
  else
    .error .numberTooLarge

def writeText (text : String) : Except WriteError (List UInt8) :=
  let encoded := Text.encodeModified text.toList
  if 65535 < encoded.length then .error .textTooLong
  else .ok (bytesOf 2 encoded.length ++ encoded)

def writeSwitch (switch : Bool) : Except WriteError (List UInt8) :=
  .ok [if switch then 1 else 0]

def writeIf (there : Bool) (field : Except WriteError (List UInt8)) :
    Except WriteError (List UInt8) :=
  if there then field else .ok []

def fieldForms (record : Record) : List (Except WriteError (List UInt8)) :=
  [writeInteger record.version,
   writeText record.ssid,
   writeIf (2 ≤ record.version) (writeInteger record.band),
   writeIf (2 ≤ record.version) (writeInteger record.channel),
   writeIf (3 ≤ record.version) (writeSwitch record.hidden),
   writeInteger record.authType,
   writeIf (record.authType ≠ 0) (writeText (record.passphrase.getD ""))]

/-- The binary form of a record, or the error of its first field that has
none. -/
def writeRecord (record : Record) : Except WriteError (List UInt8) := do
  return (← (fieldForms record).mapM id).flatten

example : (writeInteger (-1)).toOption = some [0xFF, 0xFF, 0xFF, 0xFF] := by decide

example : (readInteger [0xFF, 0xFF, 0xFF, 0xFE, 0x07]).toOption = some (-2, [0x07]) := by decide

end Hotspot.Legacy
