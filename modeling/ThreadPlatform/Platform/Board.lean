import ThreadPlatform.Machine.Select
import ThreadPlatform.Platform.Clock
import ThreadPlatform.Platform.Partition
import ThreadPlatform.Platform.Settings
import ThreadPlatform.Config.Platform

/-!
# The board

A `Board` is what outlives a platform: the machine with its three devices (the
wake event, the console UART and the radio UART), the manual clock, the flash
partitions, the settings store, the pseudo-reset flag, and the trace in which
the stack and any extra sources note what they were told. The host's local time
of day (`wallMillis`) is kept apart from the platform clock; nothing here moves
it.

Work on the board (`BoardM`) may end in a fatal condition: it is logged as
`fatal: message` at error level and nothing runs after it. Everything done
before it, the log included, stays on the board. A panic of the runtime ends
work the same way but logs nothing: the panics here are a deadline the clock
cannot name (`deadlineAfter`) and a 32-bit counter stepped past its largest
value (`increment`).
-/

namespace ThreadPlatform

/-- A condition the platform cannot go on from: what it says and, for a panic the runtime raises
itself, the source position its report names. -/
structure Fatal where
  message : String
  site : Option String
  deriving DecidableEq, Repr

/-- Hardware and state that outlive a platform instance. -/
structure Board where
  machine : Machine
  clock : ManualClock
  event : DeviceId
  cli : DeviceId
  radio : DeviceId
  partitions : Array RamPartition
  settings : SettingsStore
  resetRequested : Bool
  trace : Array String
  wallMillis : Nat

/-- Work on the board that may end in a fatal condition. -/
abbrev BoardM := ExceptT Fatal (StateM Board)

namespace Board

/-- A board for `p`: devices on the configured ports and one erased partition
holding the flash swap region. -/
def new (p : PlatformParams) : Board :=
  let build : MachineM (DeviceId × DeviceId × DeviceId) := do
    let event ← Machine.addDevice (.event EventLine.new)
    let cli ← Machine.addDevice (.uart (Uart.new p.console.port))
    let radio ← Machine.addDevice (.uart (Uart.new p.radio.port))
    return (event, cli, radio)
  let ((event, cli, radio), m) := build.run Machine.empty
  ⟨m, ManualClock.zero, event, cli, radio, #[RamPartition.new p.flash.partition p.flash.swapSize],
    SettingsStore.empty, false, #[], 0⟩

/-- Runs machine work on the board. -/
def onMachine {α : Type} (act : MachineM α) : BoardM α :=
  modifyGet fun b =>
    let (a, m) := act.run b.machine
    (a, { b with machine := m })

/-- Emits a log record. -/
def log (level : Level) (text : String) : BoardM Unit := onMachine (Machine.log level text)

/-- Logs a fatal condition and stops. -/
def fatal {α : Type} (message : String) : BoardM α := do
  log .error s!"fatal: {message}"
  throw ⟨message, none⟩

/-- Notes a call in the trace. -/
def note (text : String) : BoardM Unit :=
  modify fun b => { b with trace := b.trace.push text }

/-- Notes a call `n` times. -/
def noteTimes (text : String) : Nat → BoardM Unit
  | 0 => pure ()
  | n + 1 => do
    note text
    noteTimes text n

/-- The calls noted so far, which are then forgotten. -/
def takeTrace : BoardM (List String) :=
  modifyGet fun b => (b.trace.toList, { b with trace := #[] })

/-- Real time on the machine, in nanoseconds. -/
def now : BoardM Nat := return (← get).machine.now

/-- The clock reading `span` from now; a reading past the clock's range is a
panic, reported at the caller's `site`. -/
def deadlineAfter (site : String) (span : Span) : BoardM Nat := do
  match span.after? (← get).machine.now with
  | some deadline => return deadline
  | none => throw ⟨Span.overflowMessage, some site⟩

/-- One more than `n` on one of the platform's 32-bit counters; stepping a counter past its
largest value is the add overflow panic, reported at the increment's `site`. -/
def increment (site : String) (n : UInt32) : BoardM UInt32 :=
  if n < 4294967295 then pure (n + 1) else throw ⟨addOverflow, some site⟩

/-- Platform time in microseconds. -/
def micros : BoardM UInt64 := return (← get).clock.micros

/-- Platform time on the wrapping millisecond counter. -/
def millis : BoardM UInt32 := return (← get).clock.nowMillis

/-- Asks for a pseudo-reset. -/
def requestReset : BoardM Unit := modify fun b => { b with resetRequested := true }

/-- Forgets a pending pseudo-reset request. -/
def clearReset : BoardM Unit := modify fun b => { b with resetRequested := false }

/-- Lets the settings store be used, or not. -/
def setSettingsUp (up : Bool) : BoardM Unit :=
  modify fun b => { b with settings := { b.settings with initialized := up } }

/-- Breaks the mainloop's wait; ignored, with a note, while the wake event is closed. -/
def activate : BoardM Unit := do onMachine (Machine.activate (← get).event)

end Board

end ThreadPlatform
