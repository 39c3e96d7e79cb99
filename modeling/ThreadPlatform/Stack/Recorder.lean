import ThreadPlatform.Platform.Mainloop
import ThreadPlatform.Hex

/-!
# The recording stack

`Recorder` is a stack that notes in the board's trace every call the platform
makes on it, each note preceded by its `tag`, and reacts the way its options
say:

* `tasklets` is the pending-tasklets flag, cleared by running them;
* `diag` sends alarm expiry to the diagnostics handler;
* with `echo`, received console bytes are sent back and the outcome is noted;
* `sendOnDone` completions are each answered with a send of `.`;
* console bytes starting with `resetOn` ask for a pseudo-reset.

Frames the radio completes are noted as `frame`, once each.
-/

namespace ThreadPlatform

/-- A stack that notes what it is told. -/
structure Recorder where
  tag : String
  tasklets : Bool
  diag : Bool
  echo : Bool
  sendOnDone : Nat
  resetOn : Option String
  deriving DecidableEq, Repr

namespace Recorder

/-- Notes a call, after the tag. -/
def note (r : Recorder) (text : String) : PlatformM Unit := Board.note (r.tag ++ text)

/-- How the outcome of a send is noted. -/
def outcome : Except ThreadError Unit → String
  | .ok () => "ok"
  | .error e => e.name

/-- Received console bytes: noted, echoed, and checked for the reset prefix. -/
def received (r : Recorder) (data : List UInt8) : PlatformM Recorder := do
  r.note s!"uart:{Hex.encode data}"
  if r.echo then
    let sent ← Platform.onConsole (ConsolePort.send data)
    r.note s!"echo:{outcome sent}"
  if let some p := r.resetOn then
    if p.toUTF8.toList.isPrefixOf data then
      Platform.reset
      r.note "reset"
  return r

/-- A completed send: noted, and answered with a send of `.` while any are left. -/
def sendDone (r : Recorder) : PlatformM Recorder := do
  r.note "send-done"
  if 0 < r.sendOnDone then
    let sent ← Platform.onConsole (ConsolePort.send [46])
    r.note s!"send:{outcome sent}"
    return { r with sendOnDone := r.sendOnDone - 1 }
  return r

instance : Stack Recorder where
  taskletsPending r := r.tasklets
  processTasklets r := do
    r.note "tasklets"
    return { r with tasklets := false }
  diagMode r := r.diag
  alarmFired r := do
    r.note s!"alarm@{← Platform.alarmNow}"
    return r
  diagAlarmFired r := do
    r.note s!"diag-alarm@{← Platform.alarmNow}"
    return r
  uartReceived := received
  uartSendDone := sendDone
  finalize r := do
    r.note "finalize"
    return r
  framesReceived r n := do
    Board.noteTimes (r.tag ++ "frame") n
    return r

end Recorder

end ThreadPlatform
