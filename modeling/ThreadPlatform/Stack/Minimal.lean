import ThreadPlatform.Stack.Recorder

/-!
# The minimal stack

`Minimal` implements only what every stack must: it never has tasklets, notes
alarm expiry and received console bytes in the board's trace (after its
`tag`), and reacts to the bytes: `reset` asks for a pseudo-reset, `send` sends
`ok` on the console, and `alarm` arms the alarm to be due at once. Diagnostic
alarms, completed sends, finalizing and frames the radio completes are
ignored.
-/

namespace ThreadPlatform

/-- A stack with only the calls every stack must answer. -/
structure Minimal where
  tag : String
  diag : Bool
  deriving DecidableEq, Repr

namespace Minimal

/-- Notes a call, after the tag. -/
def note (m : Minimal) (text : String) : PlatformM Unit := Board.note (m.tag ++ text)

/-- Received console bytes: noted, then acted on by their first word. -/
def received (m : Minimal) (data : List UInt8) : PlatformM Minimal := do
  m.note s!"uart:{Hex.encode data}"
  if "reset".toUTF8.toList.isPrefixOf data then Platform.reset
  else if "send".toUTF8.toList.isPrefixOf data then
    let _ ← Platform.onConsole (ConsolePort.send "ok".toUTF8.toList)
  else if "alarm".toUTF8.toList.isPrefixOf data then
    Platform.alarmStart (← Platform.alarmNow) 0
  return m

instance : Stack Minimal where
  taskletsPending _ := false
  processTasklets m := return m
  diagMode m := m.diag
  alarmFired m := do
    m.note s!"alarm@{← Platform.alarmNow}"
    return m
  diagAlarmFired m := return m
  uartReceived := received
  uartSendDone m := return m
  finalize m := return m
  framesReceived m _ := return m

end Minimal

end ThreadPlatform
