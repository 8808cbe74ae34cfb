namespace Hotspot

/-! Radio bands. A selection of bands is a bit mask; bits that stand for no
band may be set and are kept, but only the three bands have a name. -/

inductive Radio where
  | ghz2
  | ghz5
  | ghz6
deriving DecidableEq, Repr

namespace Radio

def all : List Radio := [.ghz2, .ghz5, .ghz6]

def bit : Radio → Nat
  | .ghz2 => 0
  | .ghz5 => 1
  | .ghz6 => 2

def name : Radio → String
  | .ghz2 => "2ghz"
  | .ghz5 => "5ghz"
  | .ghz6 => "6ghz"

end Radio

structure Band where
  mask : Nat
deriving DecidableEq, Repr

namespace Band

def ghz2 : Band := ⟨1⟩

def ghz5 : Band := ⟨2⟩

def ghz6 : Band := ⟨4⟩

def any : Band := ⟨7⟩

def none : Band := ⟨0⟩

def includes (band : Band) (radio : Radio) : Bool :=
  band.mask.testBit radio.bit

def radios (band : Band) : List Radio :=
  Radio.all.filter band.includes

def count (band : Band) : Nat :=
  band.radios.length

def isSingle (band : Band) : Bool :=
  band.count = 1

def names (band : Band) : List String :=
  band.radios.map Radio.name

def union (band other : Band) : Band :=
  ⟨band.mask ||| other.mask⟩

@[simp] theorem isSingle_ghz2 : ghz2.isSingle = true := by decide

@[simp] theorem isSingle_ghz5 : ghz5.isSingle = true := by decide

example : (Band.mk 9).isSingle = true ∧ (Band.mk 8).count = 0 := by decide

end Band

end Hotspot
