import ThreadPlatform.Bench.Board
import ThreadPlatform.Stack.Recorder
import ThreadPlatform.Config.Write

/-!
# Bench: the platform

A board, the platform held on it (if any), and a recording stack. The first
bring-up is answered as `init`; then the steps run. Board steps work with or
without a platform; platform steps need one, and most read their arguments
before they look for it. The stack outlives the platforms brought up on it,
and its options may be set with or without one. `update` keeps the context it
built for a later `poll` and `process`; `iterate` keeps the context it polled,
once its arguments are read. The trace the stack and the extra sources keep
is drained by every step that answers `calls`.
-/

namespace ThreadPlatform.Bench

/-- The board, the held platform, the stack, the parameters and the kept context. -/
structure PlatformBench where
  board : Board
  platform : Option Platform
  stack : Recorder
  params : PlatformParams
  ctx : Option PollContext

namespace PlatformBench

/-- A step of the platform bench. -/
abbrev BenchM := StepM PlatformBench

/-- Runs board work. -/
def onBoard {α : Type} (act : BoardM α) : BenchM α :=
  BoardBench.onBoard (·.board) (fun s b => { s with board := b }) act

/-- Runs work on the held platform; without one the step is refused. -/
def onPlatform {α : Type} (act : PlatformM α) : BenchM α := do
  match (← get).platform with
  | none => throw (.bench .noPlatform)
  | some p =>
    let (a, p') ← onBoard (act.run p)
    modify fun s => { s with platform := some p' }
    return a

/-- Lets the stack handle something on the held platform. -/
def onStack (act : Recorder → PlatformM Recorder) : BenchM Unit := do
  let r ← onPlatform (act (← get).stack)
  modify fun s => { s with stack := r }

/-- The held platform; without one the step is refused. -/
def held : BenchM Platform := do
  match (← get).platform with
  | some p => return p
  | none => throw (.bench .noPlatform)

/-- The trace, drained. -/
def calls : BenchM Json := do
  return .arr ((← onBoard Board.takeTrace).map Json.str)

/-- Releases a platform that is let go. -/
def drop (p : Option Platform) : BenchM Unit := do
  if let some p := p then
    let _ ← onBoard (Platform.deinit.run p)

/-- Brings a platform up; it replaces the held one, which is then released. -/
def bringUp : BenchM Json := do
  match ← onBoard (Platform.init (← get).params) with
  | .ok p =>
    let old := (← get).platform
    modify fun s => { s with platform := some p }
    drop old
    return okJson
  | .error e => return bringUpJson e

/-- The stack's options with those a step gives changed. -/
def retune (r : Recorder) (item : Json) : Read Recorder := do
  return { r with tasklets := ← boolOr item "tasklets" r.tasklets, diag := ← boolOr item "diag" r.diag,
                  echo := ← boolOr item "echo" r.echo,
                  sendOnDone := ← natOr item "send_on_done" u32Max r.sendOnDone }

/-- The event an extra source hands out. -/
def emitArg (item : Json) : Read (Option PlatformEvent) := do
  match strOr? item "emit" with
  | none => return none
  | some "alarm" => return some .alarmFired
  | some "send_done" => return some .uartSendDone
  | some "uart" =>
    let data ← octets item
    if ConsolePort.readSize < data.length then bad "uart event above 256 bytes"
    return some (.uartReceived data)
  | some other => bad s!"unknown event '{other}'"

/-- A context about to be polled: no wait, or the wait a step asks for, at most a second. -/
def pollContext (ctx : PollContext) (item : Json) : Read PollContext := do
  match ← optNat item "wait_ms" u64Max with
  | some ms => return ctx.tighten (Span.ofMillis (min ms 1000))
  | none => return ctx.setImmediate

/-- The answer of a poll. -/
def countJson : Except TableError PollContext → Json
  | .ok ready => .nat ready.readyCount
  | .error e => tableErrorJson e

/-- The mainloop's update pass with the held stack. -/
def update : BenchM PollContext := do
  let s := (← get).stack
  let ctx ← onPlatform (do Platform.mainloopUpdate s (Platform.mainloopInit (← get)))
  modify fun b => { b with ctx := some ctx }
  return ctx

/-- The context kept by the last update, or the step is refused as `what`. -/
def keptContext (what : String) : BenchM PollContext := do
  match (← get).ctx with
  | some ctx => return ctx
  | none => throw (.bench (.badInput s!"{what} before update"))

/-- A flash access through the platform, with the record a partition failure writes. -/
def flashAccess {α : Type} (r : Except FlashFault α) (ok : α → Json) : BenchM Json := do
  match r with
  | .ok a => return ok a
  | .error .addressOverflow => throw (.fatal addOverflow)
  | .error f =>
    if let some n := f.note then onBoard (Board.log n.level n.text)
    return statusJson f.toStatus

/-- One step that needs the platform. -/
def platformStep (op : String) (item : Json) : BenchM Json := do
  match op with
  | "deinit" =>
    onPlatform Platform.deinit
    return okJson
  | "set_instance" =>
    let r ← retune (← get).stack item
    modify fun s => { s with stack := r }
    return okJson
  | "add_source" =>
    let name ← needStr item "name"
    let timeout ← optNat item "timeout_ms" u64Max
    let emit ← emitArg item
    let every ← boolOr item "every" false
    onPlatform (Platform.addSource ⟨name, timeout.map fun ms => [.tighten (Span.ofMillis ms)], emit, every, false⟩)
    return okJson
  | "tasklets" =>
    onStack Stack.processTasklets
    return .obj [("calls", ← calls)]
  | "update" =>
    let ctx ← update
    return .obj [("ctx", ctxJson ctx), ("calls", ← calls)]
  | "poll" =>
    let ctx ← pollContext (← keptContext "poll") item
    let _ ← held
    let outcome ← onPlatform (Platform.mainloopPoll ctx)
    match outcome with
    | .ok ready =>
      modify fun s => { s with ctx := some ready }
      return .obj [("count", .nat ready.readyCount), ("ctx", ctxJson ready)]
    | .error e =>
      modify fun s => { s with ctx := some ctx }
      return tableErrorJson e
  | "process" =>
    let ctx ← keptContext "process"
    let _ ← held
    onStack fun r => Platform.mainloopProcess r ctx
    return .obj [("calls", ← calls)]
  | "iterate" =>
    let s := (← get).stack
    let ctx ← onPlatform (do Platform.mainloopUpdate s (Platform.mainloopInit (← get)))
    let polled ← pollContext ctx item
    let outcome ← onPlatform (Platform.mainloopPoll polled)
    let ready := match outcome with
      | .ok r => r
      | .error _ => polled
    modify fun s => { s with ctx := some ready }
    onStack fun r => Platform.mainloopProcess r ready
    return .obj [("update", ctxJson ctx), ("count", countJson outcome), ("ready", ctxJson ready),
      ("calls", ← calls)]
  | "break" =>
    onPlatform Platform.mainloopBreak
    return .obj [("pending", BoardBench.eventPending (← get).board)]
  | "time" =>
    let us ← onPlatform Platform.timeMicros
    let ms ← onPlatform Platform.alarmNow
    return .obj [("us", .nat us.toNat), ("ms", .nat ms.toNat)]
  | "alarm_start" =>
    let _ ← held
    let t0 ← needNat item "t0" u32Max
    let dt ← needNat item "dt" u32Max
    onPlatform (Platform.alarmStart t0.toUInt32 dt.toUInt32)
    return okJson
  | "alarm_stop" =>
    onPlatform (modify fun p => { p with alarm := p.alarm.stop })
    return okJson
  | "alarm_state" =>
    let p ← held
    let now ← onPlatform Platform.alarmNow
    return .obj [("running", .bool p.alarm.running),
      ("remaining", .optNat ((p.alarm.remaining now).map UInt32.toNat))]
  | "cli_send" =>
    let data ← octets item
    let _ ← held
    let sent ← onPlatform (Platform.onConsole (ConsolePort.send data))
    return .obj [("result", unitJson statusJson sent),
      ("pending_send_done", .nat (← held).console.sendsDone.toNat)]
  | "cli_enable" =>
    let _ ← held
    return .obj [("enable", okJson), ("disable", okJson), ("flush", okJson)]
  | "cli_fd" => return .obj [("fd", .optNat ((← held).console.fd.map Fd.toNat))]
  | "radio_send" =>
    let data ← octets item
    let _ ← held
    return unitJson statusJson (← onPlatform (Platform.onRadio (RadioLink.sendFrame data)))
  | "radio_wait" =>
    let ms ← natOr item "timeout_ms" u64Max 0
    let _ ← held
    let waited ← onPlatform (Platform.onRadio (RadioLink.waitForFrame (Span.ofMillis (min ms 500))))
    let result ← match waited with
      | .ok n =>
        onStack fun r => Stack.framesReceived r n
        pure okJson
      | .error e => pure (statusJson e)
    return .obj [("result", result), ("calls", ← calls)]
  | "radio_fd" => return .obj [("fd", .optNat ((← held).radio.fd.map Fd.toNat))]
  | "take_frame" =>
    let frame ← onPlatform (Platform.onRadio RadioLink.takeFrame)
    return .obj [("frame", match frame with
      | some f => hexJson f
      | none => .null)]
  | "radio_state" =>
    let r := (← held).radio
    return .obj [("pending", .nat r.frames.length), ("tx_frames", .nat r.counters.txFrames.toNat),
      ("rx_frames", .nat r.counters.rxFrames.toNat), ("rx_dropped", .nat r.counters.rxDropped.toNat)]
  | "radio_process" =>
    let p ← held
    let ctx := p.radio.update (PollContext.new Span.zero)
    match ← onPlatform (Platform.mainloopPoll ctx) with
    | .error e => return tableErrorJson e
    | .ok ready =>
      let n ← onPlatform (Platform.onRadio (RadioLink.process ready))
      onStack fun r => Stack.framesReceived r n
      return .obj [("count", .nat ready.readyCount), ("event", .bool false), ("calls", ← calls)]
  | "flash_erase" =>
    let p ← held
    let index ← needNat item "index" u8Max
    let r := p.flash.erase (← get).board.partitions index
    if let .ok parts := r then modify fun s => { s with board := { s.board with partitions := parts } }
    flashAccess r fun _ => okJson
  | "flash_read" =>
    let len ← needNat item "len" u64Max
    let p ← held
    let index ← needNat item "index" u8Max
    let offset ← needNat item "offset" u32Max
    flashAccess (p.flash.read (← get).board.partitions index offset len) fun d => .obj [("data", hexJson d)]
  | "flash_write" =>
    let data ← octets item
    let p ← held
    let index ← needNat item "index" u8Max
    let offset ← needNat item "offset" u32Max
    let r := p.flash.write (← get).board.partitions index offset data
    if let .ok parts := r then modify fun s => { s with board := { s.board with partitions := parts } }
    flashAccess r fun _ => okJson
  | "swap_size" => return .obj [("size", .nat (← held).flash.layout.swapSize)]
  | "misc_reset" =>
    onPlatform Platform.reset
    return .obj [("requested", .bool true)]
  | "misc_state" =>
    let p ← held
    return .obj [("power", .str p.misc.power.name), ("reason", .str Misc.resetReason)]
  | "power_set" =>
    let power ← powerArg item
    let p ← held
    match p.misc.setPower power with
    | .ok m =>
      modify fun s => { s with platform := some { p with misc := m } }
      return okJson
    | .error e => return statusJson e
  | "assert_fail" =>
    let file ← needStr item "file"
    let line ← needNat item "line" u32Max
    let _ ← held
    onBoard (Board.fatal s!"assert failed at {file}:{line}")
  | "p_settings_get" =>
    let _ ← held
    match ← settingsStep (← get).board.settings "settings_get" item with
    | some (j, _) => return j
    | none => return okJson
  | "config" => return Config.platformJson (← held).params
  | "reset_handle" =>
    let _ ← held
    onBoard Board.requestReset
    return .obj [("requested", .bool true)]
  | "names" =>
    let _ ← held
    return .arr [.str Alarm.name, .str ConsolePort.name, .str RadioLink.name]
  | "breaker_activate" =>
    let _ ← held
    onBoard Board.activate
    return .obj [("pending", BoardBench.eventPending (← get).board)]
  | other => refuse s!"unknown platform op '{other}'"

/-- One step of the platform bench. -/
def step (op : String) (item : Json) : BenchM Json := do
  let s ← get
  let (r, b) := (BoardBench.step op item).run s.board
  set { s with board := b }
  match r with
  | .error h => throw h
  | .ok (some j) => return j
  | .ok none =>
    match op with
    | "init" => bringUp
    | "drop" =>
      let old := (← get).platform
      modify fun s => { s with platform := none }
      drop old
      return okJson
    | _ => platformStep op item

/-- The records logged since the last look. -/
def journal : StateM PlatformBench (List LogRecord) :=
  modifyGet fun s =>
    let (records, m) := Machine.takeJournal.run s.board.machine
    (records, { s with board := { s.board with machine := m } })

/-- The stack a request describes. -/
def stackArg (req : Json) : Read Recorder := do
  let opts := (req.get? "instance").getD (.obj [])
  return ⟨"", ← boolOr opts "tasklets" false, ← boolOr opts "diag" false, ← boolOr opts "echo" false,
    ← natOr opts "send_on_done" u32Max 0, strOr? opts "reset_on"⟩

/-- `platform`: a board and a platform brought up on it, then the steps. -/
def run (req : Json) : Json :=
  match BoardBench.paramsArg req with
  | .error j => j
  | .ok params => answer do
    let board ← BoardBench.boardArg req params
    let stack ← stackArg req
    let items ← steps req
    let logs ← boolOr req "logs" false
    let start : PlatformBench := ⟨board, none, stack, params, none⟩
    let (init, s) := (runStep logs journal (fun _ _ => bringUp) (.obj [("op", .str "init")])).run start
    let (out, _) := (runAll logs journal step items).run s
    return .obj [("init", init.1), ("steps", .arr out)]

end PlatformBench

end ThreadPlatform.Bench
