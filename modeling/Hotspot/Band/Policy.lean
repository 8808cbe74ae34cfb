import Hotspot.Band.Basic

namespace Hotspot

/-! Which of the requested bands a device can honour. -/

inductive RadioPolicy where
  /-- One band at a time: a selection with 5 GHz becomes 5 GHz, and any other
  becomes 2.4 GHz. -/
  | restricted
  /-- 2.4 GHz and 5 GHz together: 5 GHz alone becomes both. -/
  | concurrent
deriving DecidableEq, Repr

namespace RadioPolicy

def ofWidening (widens : Bool) : RadioPolicy :=
  if widens then .concurrent else .restricted

def name : RadioPolicy → String
  | .restricted => "restricted"
  | .concurrent => "concurrent"

def convert : RadioPolicy → Band → Band
  | .restricted, band => if band.includes .ghz5 then .ghz5 else .ghz2
  | .concurrent, band => if band = .ghz5 then Band.ghz2.union .ghz5 else band

def changes (policy : RadioPolicy) (band : Band) : Bool :=
  policy.convert band ≠ band

theorem convert_convert (policy : RadioPolicy) (band : Band) :
    policy.convert (policy.convert band) = policy.convert band := by
  cases policy
  · by_cases selected : band.includes .ghz5
    · simp [convert, selected, show Band.ghz5.includes .ghz5 = true from by decide]
    · simp [convert, selected, show Band.ghz2.includes .ghz5 = false from by decide]
  · by_cases alone : band = .ghz5
    · simp [convert, alone, show Band.ghz2.union .ghz5 ≠ .ghz5 from by decide]
    · simp [convert, alone]

theorem changes_convert (policy : RadioPolicy) (band : Band) :
    policy.changes (policy.convert band) = false := by
  simp [changes, convert_convert]

theorem includes_ghz5_convert (policy : RadioPolicy) (band : Band) :
    (policy.convert band).includes .ghz5 = band.includes .ghz5 := by
  cases policy
  · by_cases selected : band.includes .ghz5
    · simp [convert, selected, show Band.ghz5.includes .ghz5 = true from by decide]
    · simp [convert, selected, show Band.ghz2.includes .ghz5 = false from by decide]
  · by_cases alone : band = .ghz5
    · subst alone
      decide
    · simp [convert, alone]

end RadioPolicy

end Hotspot
