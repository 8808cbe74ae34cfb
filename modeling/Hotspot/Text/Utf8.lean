namespace Hotspot.Text

/-! UTF-8, generalised to all code points. Sequences of one to four bytes stand
for the code points below U+110000, the surrogates among them, each in its
shortest form. A text in proper UTF-8 is such a row of sequences without
surrogates. -/

def encodePoint (point : Nat) : List UInt8 :=
  if point < 0x80 then
    [UInt8.ofNat point]
  else if point < 0x800 then
    [UInt8.ofNat (0xC0 + point / 0x40), UInt8.ofNat (0x80 + point % 0x40)]
  else if point < 0x10000 then
    [UInt8.ofNat (0xE0 + point / 0x1000), UInt8.ofNat (0x80 + point / 0x40 % 0x40),
     UInt8.ofNat (0x80 + point % 0x40)]
  else
    [UInt8.ofNat (0xF0 + point / 0x40000), UInt8.ofNat (0x80 + point / 0x1000 % 0x40),
     UInt8.ofNat (0x80 + point / 0x40 % 0x40), UInt8.ofNat (0x80 + point % 0x40)]

def encodeUtf8 (text : List Char) : List UInt8 :=
  text.flatMap fun character => encodePoint character.toNat

def continuation? (byte : UInt8) : Option Nat :=
  if 0x80 ≤ byte.toNat ∧ byte.toNat < 0xC0 then some (byte.toNat - 0x80) else none

/-- The point, if it is large enough to need a sequence of its length. -/
def shortest? (least point : Nat) : Option Nat :=
  if least ≤ point ∧ point < 0x110000 then some point else none

def twoBytePoint? (first second : UInt8) : Option Nat := do
  shortest? 0x80 ((first.toNat - 0xC0) * 0x40 + (← continuation? second))

def threeBytePoint? (first second third : UInt8) : Option Nat := do
  shortest? 0x800
    (((first.toNat - 0xE0) * 0x40 + (← continuation? second)) * 0x40 + (← continuation? third))

def fourBytePoint? (first second third fourth : UInt8) : Option Nat := do
  shortest? 0x10000
    ((((first.toNat - 0xF0) * 0x40 + (← continuation? second)) * 0x40 + (← continuation? third))
      * 0x40 + (← continuation? fourth))

/-- The code points of a row of sequences, behind those `seen`, the last of
which comes first. -/
def pointsAfter (seen : List Nat) : List UInt8 → Option (List Nat)
  | [] => some seen.reverse
  | first :: rest =>
    if first.toNat < 0x80 then
      pointsAfter (first.toNat :: seen) rest
    else if first.toNat < 0xC0 then
      none
    else
      match rest with
      | [] => none
      | second :: rest =>
        if first.toNat < 0xE0 then
          match twoBytePoint? first second with
          | none => none
          | some point => pointsAfter (point :: seen) rest
        else
          match rest with
          | [] => none
          | third :: rest =>
            if first.toNat < 0xF0 then
              match threeBytePoint? first second third with
              | none => none
              | some point => pointsAfter (point :: seen) rest
            else
              match rest with
              | [] => none
              | fourth :: rest =>
                match fourBytePoint? first second third fourth with
                | none => none
                | some point => pointsAfter (point :: seen) rest

def points? (bytes : List UInt8) : Option (List Nat) :=
  pointsAfter [] bytes

def character? (point : Nat) : Option Char :=
  if h : point.isValidChar then some (Char.ofNatAux point h) else none

def decodeUtf8? (bytes : List UInt8) : Option (List Char) := do
  (← points? bytes).mapM character?

example : encodeUtf8 ['é', '€', '😀'] =
    [0xC3, 0xA9, 0xE2, 0x82, 0xAC, 0xF0, 0x9F, 0x98, 0x80] := by decide

example : decodeUtf8? [0xC3, 0xA9, 0x41] = some ['é', 'A'] := by decide

/-- An overlong form, a lone continuation and an encoded surrogate are
refused. -/
example :
    decodeUtf8? [0xC0, 0x80] = none ∧ decodeUtf8? [0x80] = none ∧
      decodeUtf8? [0xED, 0xA0, 0x80] = none := by decide

end Hotspot.Text
