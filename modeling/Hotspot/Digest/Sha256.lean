namespace Hotspot.Digest

/-! SHA-256. The message schedule is a window of sixteen words that moves along
with the rounds, so a block is one fold over the round constants. -/

def roundConstants : List UInt32 :=
  [0x428a2f98, 0x71374491, 0xb5c0fbcf, 0xe9b5dba5, 0x3956c25b, 0x59f111f1, 0x923f82a4, 0xab1c5ed5,
   0xd807aa98, 0x12835b01, 0x243185be, 0x550c7dc3, 0x72be5d74, 0x80deb1fe, 0x9bdc06a7, 0xc19bf174,
   0xe49b69c1, 0xefbe4786, 0x0fc19dc6, 0x240ca1cc, 0x2de92c6f, 0x4a7484aa, 0x5cb0a9dc, 0x76f988da,
   0x983e5152, 0xa831c66d, 0xb00327c8, 0xbf597fc7, 0xc6e00bf3, 0xd5a79147, 0x06ca6351, 0x14292967,
   0x27b70a85, 0x2e1b2138, 0x4d2c6dfc, 0x53380d13, 0x650a7354, 0x766a0abb, 0x81c2c92e, 0x92722c85,
   0xa2bfe8a1, 0xa81a664b, 0xc24b8b70, 0xc76c51a3, 0xd192e819, 0xd6990624, 0xf40e3585, 0x106aa070,
   0x19a4c116, 0x1e376c08, 0x2748774c, 0x34b0bcb5, 0x391c0cb3, 0x4ed8aa4a, 0x5b9cca4f, 0x682e6ff3,
   0x748f82ee, 0x78a5636f, 0x84c87814, 0x8cc70208, 0x90befffa, 0xa4506ceb, 0xbef9a3f7, 0xc67178f2]

structure Chain where
  a : UInt32
  b : UInt32
  c : UInt32
  d : UInt32
  e : UInt32
  f : UInt32
  g : UInt32
  h : UInt32

namespace Chain

def initial : Chain where
  a := 0x6a09e667
  b := 0xbb67ae85
  c := 0x3c6ef372
  d := 0xa54ff53a
  e := 0x510e527f
  f := 0x9b05688c
  g := 0x1f83d9ab
  h := 0x5be0cd19

def add (chain other : Chain) : Chain where
  a := chain.a + other.a
  b := chain.b + other.b
  c := chain.c + other.c
  d := chain.d + other.d
  e := chain.e + other.e
  f := chain.f + other.f
  g := chain.g + other.g
  h := chain.h + other.h

def words (chain : Chain) : List UInt32 :=
  [chain.a, chain.b, chain.c, chain.d, chain.e, chain.f, chain.g, chain.h]

end Chain

def rotateRight (word amount : UInt32) : UInt32 :=
  (word >>> amount) ||| (word <<< (32 - amount))

def wordOfBytes (first second third fourth : UInt8) : UInt32 :=
  (first.toUInt32 <<< 24) ||| (second.toUInt32 <<< 16) ||| (third.toUInt32 <<< 8) |||
    fourth.toUInt32

def wordsOfBytes : List UInt8 → List UInt32
  | first :: second :: third :: fourth :: rest =>
    wordOfBytes first second third fourth :: wordsOfBytes rest
  | _ => []

def bytesOfWord (word : UInt32) : List UInt8 :=
  [(word >>> 24).toUInt8, (word >>> 16).toUInt8, (word >>> 8).toUInt8, word.toUInt8]

/-- The window of the schedule one word further on. -/
def slide (window : List UInt32) : List UInt32 :=
  let early := window.getD 1 0
  let late := window.getD 14 0
  let low := rotateRight early 7 ^^^ rotateRight early 18 ^^^ (early >>> 3)
  let high := rotateRight late 17 ^^^ rotateRight late 19 ^^^ (late >>> 10)
  window.tail ++ [window.headD 0 + low + window.getD 9 0 + high]

def round (chain : Chain) (constant word : UInt32) : Chain :=
  let high := rotateRight chain.e 6 ^^^ rotateRight chain.e 11 ^^^ rotateRight chain.e 25
  let choice := (chain.e &&& chain.f) ^^^ ((~~~chain.e) &&& chain.g)
  let first := chain.h + high + choice + constant + word
  let low := rotateRight chain.a 2 ^^^ rotateRight chain.a 13 ^^^ rotateRight chain.a 22
  let majority :=
    (chain.a &&& chain.b) ^^^ (chain.a &&& chain.c) ^^^ (chain.b &&& chain.c)
  { a := first + (low + majority)
    b := chain.a
    c := chain.b
    d := chain.c
    e := chain.d + first
    f := chain.e
    g := chain.f
    h := chain.g }

def block (chain : Chain) (words : List UInt32) : Chain :=
  let (mixed, _) := roundConstants.foldl
    (fun (mixed, window) constant => (round mixed constant (window.headD 0), slide window))
    (chain, words)
  chain.add mixed

def blocks (chain : Chain) (words : List UInt32) : (count : Nat) → Chain
  | 0 => chain
  | count + 1 => blocks (block chain (words.take 16)) (words.drop 16) count

def lengthBytes (bits : Nat) : List UInt8 :=
  [7, 6, 5, 4, 3, 2, 1, 0].map fun place => UInt8.ofNat (bits / Nat.pow 256 place)

/-- A message with a set bit, zeros and its length, which fill whole blocks of
sixty-four bytes. -/
def pad (message : List UInt8) : List UInt8 :=
  message ++ 0x80 :: List.replicate ((119 - message.length % 64) % 64) 0 ++
    lengthBytes (8 * message.length)

def sha256 (message : List UInt8) : List UInt8 :=
  let padded := pad message
  (blocks .initial (wordsOfBytes padded) (padded.length / 64)).words.flatMap bytesOfWord

theorem length_sha256 (message : List UInt8) : (sha256 message).length = 32 := by
  simp [sha256, Chain.words, bytesOfWord]

/-- The digest of the empty message begins with these bytes. -/
example : (sha256 []).take 4 = [0xe3, 0xb0, 0xc4, 0x42] := by decide +kernel

end Hotspot.Digest
