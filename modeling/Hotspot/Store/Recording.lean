import Hotspot.Store.Basic

namespace Hotspot

/-! An engine that keeps a record of what it was asked, and writes to memory. -/

structure Recording where
  /-- The engine takes the configuration with every request that it accepts. -/
  takes : Bool := false
  refusing : Bool := false
  registrations : Nat := 0
  requests : Nat := 0
  written : List (Option Configuration) := []
deriving DecidableEq

namespace Recording

def request (recording : Recording) (slot : Option Configuration) : Reply Recording :=
  if recording.refusing then
    { engine := recording, outcome := .error .refused }
  else
    let recording := { recording with requests := recording.requests + 1 }
    if recording.takes then
      { engine := { recording with written := recording.written ++ [slot] }, taken := true }
    else
      { engine := recording }

instance : Engine Recording where
  register recording := { recording with registrations := recording.registrations + 1 }
  request := request

end Recording

end Hotspot
