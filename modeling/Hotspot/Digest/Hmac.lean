import Hotspot.Digest.Sha256

namespace Hotspot.Digest

/-! The keyed digest HMAC over SHA-256. -/

/-- A key of sixty-four bytes: a longer key is digested first, and zeros follow
a shorter one. -/
def keyBlock (key : List UInt8) : List UInt8 :=
  let short := if 64 < key.length then sha256 key else key
  short ++ List.replicate (64 - short.length) 0

def hmac (key message : List UInt8) : List UInt8 :=
  let block := keyBlock key
  sha256 (block.map (· ^^^ 0x5c) ++ sha256 (block.map (· ^^^ 0x36) ++ message))

theorem length_hmac (key message : List UInt8) : (hmac key message).length = 32 :=
  length_sha256 _

end Hotspot.Digest
