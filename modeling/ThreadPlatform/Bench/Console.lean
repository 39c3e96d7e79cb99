import ThreadPlatform.Bench.Request
import ThreadPlatform.Console.Command
import ThreadPlatform.Host.Logger

/-!
# Bench: console parsing and the host logger

`parse_hex` and `command` read console input; `host_logger` formats log records
as the host writes them, with the time of day masked; `monotonic_clock` states
the facts every monotonic clock shows.
-/

namespace ThreadPlatform.Bench

namespace ConsoleBench

open Console

/-- A console failure as an error object. -/
def failureJson (f : Failure) : Json := errorJson "anyhow" f.message

/-- `parse_hex`: bytes written in hexadecimal. -/
def parseHex (req : Json) : Json := answer do
  let text ← needStr req "text"
  match Console.parseHex text with
  | .ok bytes => return .obj [("data", hexJson bytes)]
  | .error f => return failureJson f

/-- A command as the bench shows it. -/
def commandJson : Command → Json
  | .help => .obj [("cmd", .str "help")]
  | .now => .obj [("cmd", .str "now")]
  | .alarm ms => .obj [("cmd", .str "alarm"), ("value", .nat ms)]
  | .spinel frame => .obj [("cmd", .str "spinel"), ("data", hexJson frame)]
  | .wait ms => .obj [("cmd", .str "wait"), ("value", .nat ms)]
  | .counters => .obj [("cmd", .str "counters")]
  | .settingsGet key => .obj [("cmd", .str "settings_get"), ("key", .nat key)]
  | .settingsSet key v => .obj [("cmd", .str "settings_set"), ("key", .nat key), ("data", hexJson v)]
  | .settingsDelete key => .obj [("cmd", .str "settings_delete"), ("key", .nat key)]
  | .reset => .obj [("cmd", .str "reset")]

/-- `command`: the command a console line names. -/
def command (req : Json) : Json := answer do
  let line ← needStr req "line"
  match Command.parse line with
  | .ok c => return commandJson c
  | .error f => return failureJson f

/-- One record through the host logger: whether it passes, and what is written. -/
def logRecord (filter : Host.LevelFilter) (color : Bool) (r : Json) : Read Json := do
  let name ← needStr r "level"
  let level ← match Host.Level.ofName? name with
    | some l => pure l
    | none => bad s!"unknown level '{name}'"
  let target := (strOr? r "target").getD "OT_ESP32_PLAT"
  let text := (strOr? r "text").getD ""
  let enabled := filter.allows level
  let output := if enabled then Host.maskTimes (Host.formatRecord color "00:00:00.000" level target text) else ""
  return .obj [("enabled", .bool enabled), ("output", .str output)]

/-- `host_logger`: records through a logger with a level filter. -/
def hostLogger (req : Json) : Json := answer do
  let name ← needStr req "filter"
  let filter ← match Host.LevelFilter.ofName? name with
    | some f => pure f
    | none => bad "unknown level filter"
  let color ← boolOr req "color" true
  let records ← match req.get? "records" with
    | some (.arr rs) => pure rs
    | _ => bad "'records' must be an array"
  return .obj [("records", .arr (← records.mapM (logRecord filter color)))]

/-- `monotonic_clock`: a fresh clock reads below a second, in microseconds and
milliseconds, and never goes back. -/
def monotonicClock : Json :=
  .obj [("fresh_below_1s", .bool true), ("millis_below_1s", .bool true), ("non_decreasing", .bool true)]

end ConsoleBench

end ThreadPlatform.Bench
