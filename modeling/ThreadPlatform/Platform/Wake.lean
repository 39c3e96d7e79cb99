import ThreadPlatform.Machine.Devices
import ThreadPlatform.Core.PollContext
import ThreadPlatform.Platform.Error

/-!
# The wake source

`WakeSource` is the mainloop source owning the wake event: while it is up, the
event device is open at the reserved descriptor 8, the mainloop waits for it to
be readable, and a readable event is consumed by a read. Activating the device
(`Machine.activate`) therefore ends the mainloop's wait.
-/

namespace ThreadPlatform

/-- The mainloop source of the wake event device. -/
structure WakeSource where
  device : DeviceId
  fd : Option Fd
  deriving DecidableEq, Repr

namespace WakeSource

/-- The source of an event device, not yet up. -/
def new (device : DeviceId) : WakeSource := ⟨device, none⟩

/-- The source's name. -/
def name : String := "event"

/-- Opens the device at the reserved descriptor; the device is closed again if that fails. -/
def init (w : WakeSource) : MachineM (Except BringUpError WakeSource) := do
  match ← Machine.openEvent w.device with
  | .error e => return .error (.table (.device e))
  | .ok () =>
    match ← Machine.openReserved Fd.reservedMin w.device with
    | .ok fd => return .ok { w with fd := some fd }
    | .error e =>
      Machine.deviceClose w.device
      return .error (.table e)

/-- Frees the descriptor; a failure to close is only noted. -/
def deinit (w : WakeSource) : MachineM WakeSource := do
  match w.fd with
  | some fd =>
    match ← Machine.closeFd fd with
    | .ok () => pure ()
    | .error e => Machine.log .warn s!"closing event {fd.display} failed: {e.message}"
    return { w with fd := none }
  | none => return w

/-- Waits for the wake descriptor to be readable. -/
def update (w : WakeSource) (ctx : PollContext) : PollContext :=
  match w.fd with
  | some fd => ctx.addRead fd
  | none => ctx

/-- Consumes a readable wake event; failures are only noted. -/
def process (w : WakeSource) (ctx : PollContext) : MachineM Unit := do
  if let some fd := w.fd then
    if ctx.isReadable fd then
      match ← Machine.readFd fd 0 with
      | .ok r => Machine.log .debug s!"wake event count {r.count}"
      | .error .wouldBlock => pure ()
      | .error (.error e) => Machine.log .warn s!"reading wake event failed: {e.message}"

end WakeSource

end ThreadPlatform
