import ThreadPlatform.Status

/-!
# Reset reason and power state

The device always reports that it came up from power-on. The MCU may be put in
its `on` or `lowPower` state; it cannot be turned `off` from here.
-/

namespace ThreadPlatform

/-- The MCU's power state. -/
inductive PowerState where
  | on
  | lowPower
  | off
  deriving DecidableEq, Repr, Inhabited

/-- The name of the state. -/
def PowerState.name : PowerState → String
  | .on => "On"
  | .lowPower => "LowPower"
  | .off => "Off"

/-- Power state and reset reason. -/
structure Misc where
  power : PowerState
  deriving DecidableEq, Repr, Inhabited

namespace Misc

/-- Powered on. -/
def new : Misc := ⟨.on⟩

/-- Why the device last came up. -/
def resetReason : String := "PowerOn"

/-- Moves to a power state; `off` is refused. -/
def setPower (m : Misc) (s : PowerState) : Except ThreadError Misc :=
  match s with
  | .off => .error .failed
  | s => .ok { m with power := s }

end Misc

end ThreadPlatform
