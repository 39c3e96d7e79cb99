import ThreadPlatform.Bench.Descriptors
import ThreadPlatform.Bench.Session
import ThreadPlatform.Machine.Basic
import ThreadPlatform.Platform.Error
import ThreadPlatform.Status

/-!
# Answers for devices and the platform

How the bench writes the errors and states of devices, the descriptor table and
the platform: every error is an object with its kind and its message, and a
would-block is the kind `WouldBlock` with an empty message.
-/

namespace ThreadPlatform.Bench

/-- A device failure. -/
def deviceErrorJson (e : DeviceError) : Json := errorJson e.name e.message

/-- A descriptor table failure. -/
def tableErrorJson (e : TableError) : Json := errorJson e.kind e.message

/-- A configuration that cannot work. -/
def configErrorJson (e : ConfigError) : Json := errorJson e.kind e.message

/-- A failed bring-up. -/
def bringUpJson (e : BringUpError) : Json := errorJson e.kind e.message

/-- A stack error code. -/
def statusJson (e : ThreadError) : Json := errorJson e.name e.message

/-- A non-blocking operation that did not complete. -/
def ioJson {ε : Type} (f : ε → Json) : IoFailure ε → Json
  | .wouldBlock => errorJson "WouldBlock" ""
  | .error e => f e

/-- `{"ok": true}`, or the error. -/
def unitJson {ε : Type} (f : ε → Json) : Except ε Unit → Json
  | .ok () => okJson
  | .error e => f e

/-- What a device could do. -/
def readinessJson (r : Readiness) : Json := flagsJson r.readable r.writable r.error

/-- What a wire thread reports. -/
def wireResultJson : WireResult → Json
  | .accepted n => .obj [("accepted", .nat n)]
  | .done => okJson
  | .data bytes => .obj [("data", hexJson bytes)]

/-- The line endings named in a request; a present `line_endings` must be a
string, while any other key may be null. -/
def lineEndingsArg (item : Json) (key : String) : Read (Option LineEndings) := do
  let name ← if key == "line_endings" then strictStr item key else optStr item key
  match name with
  | none => return none
  | some "Lf" => return some .lf
  | some "CrLf" => return some .crLf
  | some other => bad s!"unknown line endings '{other}'"

/-- The wire action a spawn step names; `uart` tells whether its target is a UART. -/
def wireActionArg (item : Json) (uart : Bool) : Read WireAction := do
  let action ← match ← needStr item "action" with
    | "receive" => pure (WireAction.receive (← octets item))
    | "interrupt" => pure .interrupt
    | "fault" => pure (.fault (← boolOr item "on" true))
    | "take_tx" => pure .takeTx
    | "drain" => pure (.drain (← natOr item "until_len" u64Max 0))
    | "activate" => pure .activate
    | other => bad s!"unknown action '{other}'"
  match action, uart with
  | .activate, true => bad "action needs an event device"
  | .activate, false => return action
  | _, false => bad "action needs a uart"
  | _, true => return action

/-- The delay of a spawned wire thread, in milliseconds: 5 unless given, and
at most 500. -/
def afterArg (item : Json) : Read Nat := do
  return min 500 (← natOr item "after_ms" u64Max 5)

end ThreadPlatform.Bench
