import ThreadPlatform.Platform.Console
import ThreadPlatform.Platform.Radio
import ThreadPlatform.Platform.Source
import ThreadPlatform.Platform.Wake
import ThreadPlatform.Platform.Alarm
import ThreadPlatform.Platform.Flash
import ThreadPlatform.Platform.Misc

/-!
# Bringing the platform up and down

A `Platform` runs on a board: it owns the wake source, the alarm, the console
port, the radio link, the flash swap pages, the power state and any extra
sources, and shares the board's settings store and reset flag.

`Platform.init` checks the parameters, clears a pending pseudo-reset and brings
the parts up in order: wake event, console, radio, flash, settings. When a part
fails, what came up before it is released again (`deinit` on the partial
platform), and the failure is the answer. `deinit` releases the parts in the
reverse order; it can run any number of times, and it takes the shared settings
store down even when another platform is using it.
-/

namespace ThreadPlatform

/-- A platform instance on a board. -/
structure Platform where
  params : PlatformParams
  wake : WakeSource
  alarm : Alarm
  console : ConsolePort
  radio : RadioLink
  flash : Flash
  misc : Misc
  sources : List ScriptedSource

/-- Work on a platform and its board. -/
abbrev PlatformM := StateT Platform BoardM

namespace Platform

/-- The parts of a platform for `p` on the board's devices, none of them up. -/
def build (b : Board) (p : PlatformParams) : Platform :=
  ⟨p, WakeSource.new b.event, Alarm.new,
    ConsolePort.new b.cli p.console p.rxBufferSize p.txFifoSize p.radioMaxWait,
    RadioLink.new b.radio p.radio p.rxBufferSize p.txFifoSize p.radioMaxWait,
    Flash.new p.flash, Misc.new, []⟩

/-- Works on the console port. -/
def onConsole {α : Type} (act : StateT ConsolePort BoardM α) : PlatformM α := do
  let (a, c) ← act.run (← get).console
  modify fun p => { p with console := c }
  return a

/-- Works on the radio link. -/
def onRadio {α : Type} (act : StateT RadioLink BoardM α) : PlatformM α := do
  let (a, r) ← act.run (← get).radio
  modify fun p => { p with radio := r }
  return a

/-- Releases every part, in the reverse order of bringing them up. -/
def deinit : PlatformM Unit := do
  Board.setSettingsUp false
  modify fun p => { p with flash := p.flash.deinit }
  onRadio RadioLink.deinit
  onConsole ConsolePort.deinit
  let w ← Board.onMachine (← get).wake.deinit
  modify fun p => { p with wake := w }

/-- Brings the parts up in order, stopping at the first failure. -/
def bringUp : PlatformM (Except BringUpError Unit) := do
  match ← Board.onMachine (← get).wake.init with
  | .error e => return .error e
  | .ok w =>
    modify fun p => { p with wake := w }
    match ← onConsole ConsolePort.init with
    | .error e => return .error e
    | .ok () =>
      match ← onRadio RadioLink.init with
      | .error e => return .error e
      | .ok () =>
        match (← get).flash.init (← getThe Board).partitions with
        | .error e => return .error e
        | .ok f =>
          modify fun p => { p with flash := f }
          Board.setSettingsUp true
          Board.log .info "platform initialized"
          return .ok ()

/-- Brings a platform for `p` up on the board; a partial bring-up is released again. -/
def init (p : PlatformParams) : BoardM (Except BringUpError Platform) := do
  match p.validate with
  | .error e => return .error (.config e)
  | .ok () =>
    Board.clearReset
    let (r, plat) ← bringUp.run (build (← get) p)
    match r with
    | .ok () => return .ok plat
    | .error e =>
      let _ ← deinit.run plat
      return .error e

/-- Platform time in microseconds. -/
def timeMicros : PlatformM UInt64 := Board.micros

/-- The alarm's clock, on the wrapping millisecond counter. -/
def alarmNow : PlatformM UInt32 := Board.millis

/-- Arms the alarm to be due `dt` milliseconds after `t0`. -/
def alarmStart (t0 dt : UInt32) : PlatformM Unit := do
  modify fun p => { p with alarm := Alarm.startAt t0 dt }
  let note := Alarm.startNote t0 dt
  Board.log note.level note.text

/-- Asks for a pseudo-reset. -/
def reset : PlatformM Unit := do
  Board.log .info "pseudo reset requested"
  Board.requestReset

/-- Appends a source; it runs after the built-in ones, in the order added. -/
def addSource (s : ScriptedSource) : PlatformM Unit :=
  modify fun p => { p with sources := p.sources ++ [s] }

end Platform

end ThreadPlatform
