import ThreadPlatform.Device.Basic

/-!
# The wake event device

An `EventLine` lets any thread end the mainloop's wait. Signalling it while it
is open makes it pending; signals coalesce, so at most one is pending, and a
read consumes it and reports how many there were (0 or 1) without filling the
buffer. The device is readable while a signal is pending. A signal that comes
while no `select` waits stays pending, so the next wait ends at once.
-/

namespace ThreadPlatform

/-- The wake event device. -/
structure EventLine where
  isOpen : Bool
  pending : Bool
  watched : Bool
  deriving DecidableEq, Repr, Inhabited

namespace EventLine

/-- A closed device with nothing pending. -/
def new : EventLine := ⟨false, false, false⟩

/-- Opens the device with nothing pending. -/
def openDevice (e : EventLine) : Except DeviceError EventLine :=
  if e.isOpen then .error .alreadyOpen else .ok { e with isOpen := true, pending := false }

/-- Makes a signal pending; a closed device refuses it. -/
def signal (e : EventLine) : Except DeviceError EventLine :=
  if e.isOpen then .ok { e with pending := true } else .error .closed

/-- The number of pending signals, consumed. -/
def read (e : EventLine) : Except (IoFailure DeviceError) Nat × EventLine :=
  if e.isOpen then (.ok (if e.pending then 1 else 0), { e with pending := false })
  else (.error (.error .closed), e)

/-- Readable while a signal is pending, never writable or in error. -/
def readiness (e : EventLine) : Readiness := ⟨e.pending, false, false⟩

/-- Closes the device, dropping a pending signal. -/
def closeDevice (e : EventLine) : EventLine :=
  { e with isOpen := false, pending := false, watched := false }

end EventLine

end ThreadPlatform
