import ThreadPlatform.Bench.Answers
import ThreadPlatform.Platform.Alarm
import ThreadPlatform.Platform.Flash
import ThreadPlatform.Platform.Settings
import ThreadPlatform.Platform.Misc

/-!
# Bench: alarm, flash, settings, reset and power

Steps on the platform's smaller parts, each on its own: the alarm on a manual
clock, the flash swap pages over a list of partitions, the settings store, and
the reset flag with the power state.
-/

namespace ThreadPlatform.Bench

/-- The settings store a step works on, and what the step answers; `none` when the
step is not a settings step. -/
def settingsStep (s : SettingsStore) (op : String) (item : Json) :
    Read (Option (Json × SettingsStore)) := do
  let done (r : Except ThreadError SettingsStore) : Json × SettingsStore :=
    match r with
    | .ok s' => (okJson, s')
    | .error e => (statusJson e, s)
  match op with
  | "settings_init" => return some (okJson, { s with initialized := true })
  | "settings_deinit" => return some (okJson, { s with initialized := false })
  | "settings_get" =>
    let key ← needNat item "key" u16Max
    let index ← natOr item "index" u64Max 0
    let len ← natOr item "len" u64Max 256
    match s.get key index len with
    | .ok (full, v) => return some (.obj [("len", .nat full), ("value", hexJson v)], s)
    | .error e => return some (statusJson e, s)
  | "settings_set" =>
    let key ← needNat item "key" u16Max
    return some (done (s.set key (← octets item)))
  | "settings_add" =>
    let key ← needNat item "key" u16Max
    return some (done (s.add key (← octets item)))
  | "settings_delete" =>
    let key ← needNat item "key" u16Max
    return some (done (s.delete key (← optNat item "index" u64Max)))
  | "settings_wipe" => return some (okJson, s.wipe)
  | _ => return none

/-- The power state a step names. -/
def powerArg (item : Json) : Read PowerState := do
  match ← needStr item "state" with
  | "On" => return .on
  | "LowPower" => return .lowPower
  | "Off" => return .off
  | other => bad s!"unknown power state '{other}'"

/-- A step's journal of log records. -/
structure Noted (α : Type) where
  val : α
  journal : Array LogRecord

namespace Noted

/-- Writes a record. -/
def note {α : Type} (r : LogRecord) : StepM (Noted α) Unit :=
  modify fun s => { s with journal := s.journal.push r }

/-- The records written since the last look. -/
def take {α : Type} : StateM (Noted α) (List LogRecord) :=
  modifyGet fun s => (s.journal.toList, { s with journal := #[] })

/-- Logs a fatal condition and ends the step list. -/
def die {α β : Type} (message : String) : StepM (Noted α) β := do
  note ⟨.error, s!"fatal: {message}"⟩
  throw (.fatal message)

end Noted

/-- Runs a step list over a state with a journal; each answer shows the
records of its step when the request asks for logs and `shown` allows it. -/
def runNoted {α : Type} (shown : Bool) (req : Json) (init : α)
    (step : String → Json → StepM (Noted α) Json) : Json :=
  answer do
    let items ← steps req
    let logs := shown && (← boolOr req "logs" false)
    let (out, _) := (runAll logs Noted.take step items).run ⟨init, #[]⟩
    return .obj [("steps", .arr out)]

namespace Parts

/-- The alarm and the clock it reads. -/
structure AlarmBench where
  clock : ManualClock
  alarm : Alarm

/-- One step on the alarm. -/
def alarmStep (op : String) (item : Json) : StepM (Noted AlarmBench) Json := do
  let b := (← get).val
  let now := b.clock.nowMillis
  let put (b' : AlarmBench) : StepM (Noted AlarmBench) Unit := modify fun s => { s with val := b' }
  match op with
  | "clock_set" =>
    let ms ← needNat item "ms" u64Max
    -- the clock counts microseconds in 64 bits
    if u64Max < ms * 1000 then throw (.fatal multiplyOverflow)
    let c := b.clock.setMillis ms
    put { b with clock := c }
    return .obj [("now", .nat c.nowMillis.toNat)]
  | "clock_advance" =>
    let us ← needNat item "us" u64Max
    let c := b.clock.advance us
    put { b with clock := c }
    return .obj [("now", .nat c.nowMillis.toNat)]
  | "start" =>
    let t0 ← needNat item "t0" u32Max
    let dt ← needNat item "dt" u32Max
    put { b with alarm := Alarm.startAt t0.toUInt32 dt.toUInt32 }
    Noted.note (Alarm.startNote t0.toUInt32 dt.toUInt32)
    return .obj [("running", .bool true)]
  | "stop" =>
    put { b with alarm := b.alarm.stop }
    return .obj [("running", .bool false)]
  | "state" =>
    return .obj [("running", .bool b.alarm.running),
      ("remaining", .optNat ((b.alarm.remaining now).map UInt32.toNat)), ("now", .nat now.toNat)]
  | "name" => return .obj [("name", .str Alarm.name)]
  | "update" =>
    let ms ← natOr item "timeout_ms" u64Max 10000
    let ctx := b.alarm.update now (PollContext.new (Span.ofMillis ms))
    return .obj [("timeout_ms", .nat ctx.timeout.toMillis64)]
  | "process" =>
    let (fired, a) := b.alarm.process now
    put { b with alarm := a }
    if fired then Noted.note Alarm.firedNote
    return .obj [("fired", .bool fired), ("running", .bool a.running)]
  | other => refuse s!"unknown alarm op '{other}'"

/-- `alarm`: steps on one alarm over a manual clock at zero. -/
def alarm (req : Json) : Json :=
  runNoted true req ⟨ManualClock.zero, Alarm.new⟩ alarmStep

/-- The swap pages and the partitions they may live in. -/
structure FlashBench where
  parts : Array RamPartition
  flash : Flash

/-- The flash layout a request asks for, from the standard one. -/
def layoutArg (req : Json) : Read FlashLayout := do
  let cfg := (req.get? "config").getD (.obj [])
  let std := FlashLayout.standard
  return ⟨(← strictStr cfg "partition").getD std.partition, ← natOr cfg "page_num" u32Max std.pageNum,
    ← natOr cfg "page_size" u32Max std.pageSize⟩

/-- The most bytes the bench's partitions may hold together. -/
def partitionLimit : Nat := 1048576

/-- The partitions a request lists, erased; one `ot_storage` of 8192 bytes when
it lists none, or gives something other than a list. -/
def partitionsArg (req : Json) : Read (Array RamPartition) := do
  match req.get? "partitions" with
  | some (.arr items) =>
    let parts ← items.mapM fun p => do
      return RamPartition.new (← needStr p "label") (← needNat p "size" u32Max)
    return parts.toArray
  | _ => return #[RamPartition.new "ot_storage" 8192]

/-- The answer of a flash access, with the record a partition failure writes. -/
def flashOutcome {α : Type} (r : Except FlashFault α) (ok : α → Json) : StepM (Noted FlashBench) Json := do
  match r with
  | .ok a => return ok a
  | .error .addressOverflow => throw (.fatal addOverflow)
  | .error f =>
    if let some n := f.note then Noted.note n
    return statusJson f.toStatus

/-- The partition a step names. -/
def partArg (b : FlashBench) (item : Json) : StepM (Noted FlashBench) (Nat × RamPartition) := do
  let i ← needNat item "part" u64Max
  match b.parts[i]? with
  | some p => return (i, p)
  | none => refuse "no such partition"

/-- A partition's own answer. -/
def partOutcome {α : Type} (r : Except FlashError α) (ok : α → Json) : Json :=
  match r with
  | .ok a => ok a
  | .error e => errorJson e.kind e.message

/-- One step on the swap pages or a partition. -/
def flashStep (op : String) (item : Json) : StepM (Noted FlashBench) Json := do
  let b := (← get).val
  let put (b' : FlashBench) : StepM (Noted FlashBench) Unit := modify fun s => { s with val := b' }
  match op with
  | "init" =>
    if b.flash.layout.swapOverflows then throw (.fatal multiplyOverflow)
    match b.flash.init b.parts with
    | .ok f => put { b with flash := f }; return okJson
    | .error e => return bringUpJson e
  | "deinit" => put { b with flash := b.flash.deinit }; return okJson
  | "swap_size" =>
    if b.flash.layout.swapOverflows then throw (.fatal multiplyOverflow)
    return .obj [("size", .nat b.flash.layout.swapSize)]
  | "erase" =>
    let index ← needNat item "index" u8Max
    let r := b.flash.erase b.parts index
    if let .ok parts := r then put { b with parts := parts }
    flashOutcome r fun _ => okJson
  | "read" =>
    let index ← needNat item "index" u8Max
    let offset ← needNat item "offset" u32Max
    let len ← needNat item "len" u64Max
    flashOutcome (b.flash.read b.parts index offset len) fun d => .obj [("data", hexJson d)]
  | "write" =>
    let index ← needNat item "index" u8Max
    let offset ← needNat item "offset" u32Max
    let data ← octets item
    let r := b.flash.write b.parts index offset data
    if let .ok parts := r then put { b with parts := parts }
    flashOutcome r fun _ => okJson
  | "part_info" =>
    let (_, p) ← partArg b item
    return .obj [("label", .str p.label), ("size", .nat p.size)]
  | "part_read" =>
    let (_, p) ← partArg b item
    let offset ← needNat item "offset" u32Max
    let len ← needNat item "len" u64Max
    return partOutcome (p.read offset len) fun d => .obj [("data", hexJson d)]
  | "part_write" =>
    let (i, p) ← partArg b item
    let offset ← needNat item "offset" u32Max
    let data ← octets item
    let r := p.write offset data
    if let .ok p' := r then put { b with parts := b.parts.set! i p' }
    return partOutcome r fun _ => okJson
  | "part_erase" =>
    let (i, p) ← partArg b item
    let offset ← needNat item "offset" u32Max
    let len ← needNat item "len" u32Max
    let r := p.erase offset len
    if let .ok p' := r then put { b with parts := b.parts.set! i p' }
    return partOutcome r fun _ => okJson
  | other => refuse s!"unknown flash op '{other}'"

/-- `flash`: steps on the swap pages over a list of partitions. -/
def flash (req : Json) : Json := answer do
  let layout ← layoutArg req
  let parts ← partitionsArg req
  if partitionLimit < parts.foldl (fun n p => n + p.size) 0 then bad "partitions above 1 MiB"
  return runNoted true req ⟨parts, Flash.new layout⟩ flashStep

/-- One step on the settings store. -/
def settingsOnly (op : String) (item : Json) : StepM (Noted SettingsStore) Json := do
  match ← settingsStep (← get).val op item with
  | some (j, s') => modify (fun n => { n with val := s' }); return j
  | none => refuse s!"unknown settings op '{op}'"

/-- `settings`: steps on one settings store. -/
def settings (req : Json) : Json := runNoted false req SettingsStore.empty settingsOnly

/-- The reset flag and the power state. -/
structure MiscBench where
  requested : Bool
  misc : Misc

/-- One step on the reset flag and the power state. -/
def miscStep (op : String) (item : Json) : StepM (Noted MiscBench) Json := do
  let b := (← get).val
  let put (b' : MiscBench) : StepM (Noted MiscBench) Unit := modify fun s => { s with val := b' }
  match op with
  | "reset" =>
    Noted.note ⟨.info, "pseudo reset requested"⟩
    put { b with requested := true }
    return .obj [("requested", .bool true)]
  | "request" =>
    put { b with requested := true }
    return .obj [("requested", .bool true)]
  | "state" =>
    return .obj [("requested", .bool b.requested), ("reason", .str Misc.resetReason),
      ("power", .str b.misc.power.name)]
  | "power_set" =>
    match b.misc.setPower (← powerArg item) with
    | .ok m => put { b with misc := m }; return okJson
    | .error e => return statusJson e
  | "wake_host" => return okJson
  | "assert_fail" =>
    let file ← needStr item "file"
    let line ← needNat item "line" u32Max
    Noted.die s!"assert failed at {file}:{line}"
  | other => refuse s!"unknown misc op '{other}'"

/-- `misc`: steps on the reset flag and the power state. -/
def misc (req : Json) : Json := runNoted true req ⟨false, Misc.new⟩ miscStep

end Parts

end ThreadPlatform.Bench
