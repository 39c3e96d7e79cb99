/-!
# Device errors and readiness

A device behind a descriptor either completes an operation, reports that it
cannot make progress yet (`IoFailure.wouldBlock`), or fails with a
`DeviceError`. `Readiness` is what a device reports when asked whether reading,
writing or an error condition would be noticed now.
-/

namespace ThreadPlatform

/-- Failures a device reports. -/
inductive DeviceError where
  | interrupted
  | closed
  | alreadyOpen
  | notInstalled
  | fault
  deriving DecidableEq, Repr, Inhabited

namespace DeviceError

/-- The name of the failure. -/
def name : DeviceError → String
  | .interrupted => "Interrupted"
  | .closed => "Closed"
  | .alreadyOpen => "AlreadyOpen"
  | .notInstalled => "NotInstalled"
  | .fault => "Fault"

/-- The message of the failure. -/
def message : DeviceError → String
  | .interrupted => "operation interrupted"
  | .closed => "device is not open"
  | .alreadyOpen => "device is already open"
  | .notInstalled => "driver is not installed"
  | .fault => "hardware fault"

end DeviceError

/-- A non-blocking operation that did not complete: it would block, or it failed. -/
inductive IoFailure (ε : Type) where
  | wouldBlock
  | error (e : ε)
  deriving DecidableEq, Repr

namespace IoFailure

/-- The same outcome with the failure mapped. -/
def map {ε ε' : Type} (f : ε → ε') : IoFailure ε → IoFailure ε'
  | .wouldBlock => .wouldBlock
  | .error e => .error (f e)

end IoFailure

/-- What a device could do right now. -/
structure Readiness where
  readable : Bool
  writable : Bool
  error : Bool
  deriving DecidableEq, Repr, Inhabited

end ThreadPlatform
