import ThreadPlatform.Device.Uart
import ThreadPlatform.Device.EventLine
import ThreadPlatform.Device.Table
import ThreadPlatform.Log

/-!
# The machine

A `Machine` is everything below the platform: its devices, the descriptor
table naming them, and the wire side working concurrently with the mainloop.

Time is modelled, not measured. `now` is the real time in nanoseconds; it moves
only while the mainloop waits. The wire side is a list of `WireThread`s, each
sleeping until a due time and then acting on one device (`WireAction`); a
`drain` keeps collecting transmitted bytes until it has enough or two seconds
have passed. While the mainloop waits, the due events run in order of their
time, earlier spawned first, so any interleaving the waits allow is one where
every wire action happens at its due time.

`signal` is the flag a waiting `select` sleeps on: a device watched by the
`select` raises it when what it could do may have changed. `journal` collects
the log records in the order they were emitted.
-/

namespace ThreadPlatform

/-- A device behind a descriptor. -/
inductive Device where
  | uart (u : Uart)
  | event (e : EventLine)
  deriving DecidableEq, Repr, Inhabited

namespace Device

/-- What the device could do right now. -/
def readiness : Device → Readiness
  | .uart u => u.readiness
  | .event e => e.readiness

/-- Whether a `select` in progress waits on the device. -/
def watched : Device → Bool
  | .uart u => u.watched
  | .event e => e.watched

/-- The device with its `select` registration set. -/
def setWatched (on : Bool) : Device → Device
  | .uart u => .uart { u with watched := on }
  | .event e => .event { e with watched := on }

end Device

/-- What a wire thread does once it is due. -/
inductive WireAction where
  | receive (bytes : List UInt8)
  | interrupt
  | fault (on : Bool)
  | takeTx
  | drain (untilLen : Nat)
  | activate
  deriving DecidableEq, Repr

/-- What a wire thread reports when joined. -/
inductive WireResult where
  | accepted (n : Nat)
  | done
  | data (bytes : List UInt8)
  deriving DecidableEq, Repr

/-- Where a wire thread is: asleep until a time, draining until a time, or finished. -/
inductive WirePhase where
  | sleeping (wake : Nat)
  | draining (collected : List UInt8) (stop : Nat)
  | finished (result : WireResult)
  deriving DecidableEq, Repr

/-- The time of the phase's next event, if it has one. -/
def WirePhase.due : WirePhase → Option Nat
  | .sleeping t => some t
  | .draining _ t => some t
  | .finished _ => none

/-- Events still ahead in the phase: a start and a stop for a sleeper. -/
def WirePhase.eventsLeft : WirePhase → Nat
  | .sleeping _ => 2
  | .draining _ _ => 1
  | .finished _ => 0

/-- One thread of the wire side. -/
structure WireThread where
  device : DeviceId
  action : WireAction
  phase : WirePhase
  deriving DecidableEq, Repr

/-- Devices, descriptors, the wire side, real time and the log. -/
structure Machine where
  devices : Array Device
  table : DescriptorTable
  now : Nat
  threads : List WireThread
  signal : Bool
  journal : Array LogRecord

/-- Work on the machine. -/
abbrev MachineM := StateM Machine

namespace Machine

/-- Nanoseconds per millisecond of real time. -/
def nanosPerMilli : Nat := 1000000

/-- How long a drain keeps collecting: two seconds. -/
def drainLimit : Nat := 2000 * nanosPerMilli

/-- No devices, an empty table, time zero. -/
def empty : Machine := ⟨#[], DescriptorTable.empty, 0, [], false, #[]⟩

/-- Emits a log record. -/
def log (level : Level) (text : String) : MachineM Unit :=
  modify fun m => { m with journal := m.journal.push ⟨level, text⟩ }

/-- The records emitted so far, which are then forgotten. -/
def takeJournal : MachineM (List LogRecord) :=
  modifyGet fun m => (m.journal.toList, { m with journal := #[] })

/-- Adds a device and returns its id. -/
def addDevice (d : Device) : MachineM DeviceId :=
  modifyGet fun m => (m.devices.size, { m with devices := m.devices.push d })

/-- The device with id `id`. -/
def device? (id : DeviceId) : MachineM (Option Device) :=
  return (← get).devices[id]?

/-- Replaces the device with id `id`. -/
def setDevice (id : DeviceId) (d : Device) : MachineM Unit :=
  modify fun m => { m with devices := m.devices.modify id fun _ => d }

/-- Wakes a waiting `select` if it watches the device. -/
def wake (watched : Bool) : MachineM Unit :=
  if watched then modify fun m => { m with signal := true } else pure ()

/-- Events still ahead on the wire side. -/
def eventsLeft (m : Machine) : Nat :=
  m.threads.foldr (fun th n => th.phase.eventsLeft + n) 0

end Machine

end ThreadPlatform
