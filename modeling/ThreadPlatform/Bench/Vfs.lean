import ThreadPlatform.Bench.Answers
import ThreadPlatform.Machine.Select
import ThreadPlatform.Platform.Wake

/-!
# Bench: the descriptor layer

Steps on one machine with named devices: UARTs and event devices are created
by name, installed, opened in the descriptor table, read, written and waited
on, and wake sources are built over event devices. The wire side is played by
spawned threads, joined in spawn order.
-/

namespace ThreadPlatform.Bench

/-- The machine, its devices by name, and the wake sources by name. -/
structure VfsBench where
  machine : Machine
  names : List (String × DeviceId)
  sources : List (String × WakeSource)

namespace Vfs

/-- A step of the descriptor-layer bench. -/
abbrev VfsM := StepM VfsBench

/-- Runs machine work within a step. -/
def onMachine {α : Type} (act : MachineM α) : VfsM α :=
  modifyGet fun b =>
    let (a, m) := act.run b.machine
    (a, { b with machine := m })

/-- The device a step names under `key`. -/
def deviceArg (item : Json) (key : String) : VfsM DeviceId := do
  let name ← needStr item key
  match (← get).names.lookup name with
  | some id => return id
  | none => refuse s!"unknown device '{name}'"

/-- The UART a step names. -/
def uartArg (item : Json) : VfsM (DeviceId × Uart) := do
  let id ← deviceArg item "name"
  let name ← needStr item "name"
  match ← onMachine (Machine.uart? id) with
  | some u => return (id, u)
  | none => refuse s!"device '{name}' is not a uart"

/-- The event device a step names. -/
def eventArg (item : Json) : VfsM (DeviceId × EventLine) := do
  let id ← deviceArg item "name"
  let name ← needStr item "name"
  match ← onMachine (Machine.eventLine? id) with
  | some e => return (id, e)
  | none => refuse s!"device '{name}' is not an event device"

/-- The wake source a step names. -/
def sourceArg (item : Json) : VfsM (String × WakeSource) := do
  let name ← needStr item "name"
  match (← get).sources.lookup name with
  | some w => return (name, w)
  | none => refuse s!"unknown source '{name}'"

/-- Keeps a wake source under its name. -/
def keepSource (name : String) (w : WakeSource) : VfsM Unit :=
  modify fun b => { b with sources := (name, w) :: b.sources.filter (·.1 != name) }

/-- A read's answer: the count and the first bytes of the buffer it filled. -/
def readJson (len : Nat) (r : ReadOut) : Json :=
  let k := min r.count len
  .obj [("count", .nat r.count), ("data", hexJson ((r.bytes ++ List.replicate (k - r.bytes.length) 0).take k))]

/-- A poll context over the descriptors a step lists. -/
def contextArg (item : Json) (timeoutMs : Nat) : Read PollContext := do
  let reads ← fdListArg item "read"
  let writes ← fdListArg item "write"
  let errors ← fdListArg item "error"
  let ctx := PollContext.new (Span.ofMillis timeoutMs)
  let ctx := reads.foldl PollContext.addRead ctx
  let ctx := writes.foldl PollContext.addWrite ctx
  return errors.foldl PollContext.addError ctx

/-- A `select` outcome: the count and the rewritten context, or the error and the context as it was. -/
def selectJson (ctx : PollContext) : Except TableError PollContext → Json
  | .ok ready => .obj [("count", .nat ready.readyCount), ("ctx", ctxJson ready)]
  | .error e => withMember (tableErrorJson e) "ctx" (ctxJson ctx)

/-- One step of the descriptor-layer bench. -/
def step (op : String) (item : Json) : VfsM Json := do
  match op with
  | "uart_new" =>
    let name ← needStr item "name"
    let port ← natOr item "port" u8Max 0
    let id ← onMachine (Machine.addDevice (.uart (Uart.new port)))
    modify fun b => { b with names := (name, id) :: b.names }
    return okJson
  | "event_new" =>
    let name ← needStr item "name"
    let id ← onMachine (Machine.addDevice (.event EventLine.new))
    modify fun b => { b with names := (name, id) :: b.names }
    return okJson
  | "install" =>
    let (id, _) ← uartArg item
    let rx ← needNat item "rx" u64Max
    let tx ← needNat item "tx" u64Max
    let port ← natOr item "port" u8Max 0
    let le := (← lineEndingsArg item "line_endings").getD .crLf
    let p := { UartParams.console with port := port, lineEndings := le }
    return unitJson deviceErrorJson (← onMachine (Machine.install id p rx tx))
  | "uninstall" =>
    let (id, _) ← uartArg item
    onMachine (Machine.uninstall id)
    return okJson
  | "event_open" =>
    let (id, _) ← eventArg item
    return unitJson deviceErrorJson (← onMachine (Machine.openEvent id))
  | "event_pending" =>
    let (_, e) ← eventArg item
    return .obj [("pending", .nat (if e.pending then 1 else 0)), ("open", .bool e.isOpen)]
  | "activate" =>
    let (id, _) ← eventArg item
    onMachine (Machine.activate id)
    let pending := ((← onMachine (Machine.eventLine? id)).map (·.pending)).getD false
    return .obj [("pending", .nat (if pending then 1 else 0))]
  | "open" =>
    let id ← deviceArg item "name"
    match ← onMachine (Machine.openFd id) with
    | .ok fd => return .obj [("fd", .nat fd.toNat)]
    | .error e => return tableErrorJson e
  | "open_reserved" =>
    let fd ← fdArg item
    let id ← deviceArg item "name"
    match ← onMachine (Machine.openReserved fd id) with
    | .ok fd => return .obj [("fd", .nat fd.toNat)]
    | .error e => return tableErrorJson e
  | "close" =>
    let fd ← fdArg item
    return unitJson tableErrorJson (← onMachine (Machine.closeFd fd))
  | "is_open" =>
    let fd ← fdArg item
    return .obj [("open", .bool (← onMachine (Machine.isOpen fd)))]
  | "read" =>
    let len ← needNat item "len" u64Max
    let fd ← fdArg item
    match ← onMachine (Machine.readFd fd len) with
    | .ok r => return readJson len r
    | .error e => return ioJson tableErrorJson e
  | "write" =>
    let fd ← fdArg item
    let data ← octets item
    match ← onMachine (Machine.writeFd fd data) with
    | .ok n => return .obj [("count", .nat n)]
    | .error e => return ioJson tableErrorJson e
  | "dev_read" =>
    let id ← deviceArg item "name"
    let len ← needNat item "len" u64Max
    match ← onMachine (Machine.deviceRead id len) with
    | .ok r => return readJson len r
    | .error e => return ioJson deviceErrorJson e
  | "dev_write" =>
    let id ← deviceArg item "name"
    let data ← octets item
    match ← onMachine (Machine.deviceWrite id data) with
    | .ok n => return .obj [("count", .nat n)]
    | .error e => return ioJson deviceErrorJson e
  | "dev_close" =>
    let id ← deviceArg item "name"
    onMachine (Machine.deviceClose id)
    return okJson
  | "select" =>
    let ms := min 1000 (← natOr item "timeout_ms" u64Max 0)
    let ctx ← contextArg item ms
    return selectJson ctx (← onMachine (Machine.select ctx))
  | "wait_tx" =>
    let (id, _) ← uartArg item
    let ms := min 50 (← natOr item "timeout_ms" u64Max 0)
    return .obj [("data", hexJson (← onMachine (Machine.waitTx id (ms * Machine.nanosPerMilli))))]
  | "spawn" =>
    let id ← deviceArg item "name"
    let isUart := (← onMachine (Machine.uart? id)).isSome
    let action ← wireActionArg item isUart
    let after ← afterArg item
    onMachine (Machine.spawn id action after)
    return okJson
  | "join" =>
    return .obj [("results", .arr ((← onMachine Machine.join).map wireResultJson))]
  | "vevent_new" =>
    let name ← needStr item "name"
    let id ← deviceArg item "event"
    if (← onMachine (Machine.eventLine? id)).isNone then refuse "not an event device"
    keepSource name (WakeSource.new id)
    return okJson
  | "vevent_init" =>
    let (name, w) ← sourceArg item
    match ← onMachine w.init with
    | .ok w' => keepSource name w'; return okJson
    | .error e => return bringUpJson e
  | "vevent_deinit" =>
    let (name, w) ← sourceArg item
    keepSource name (← onMachine w.deinit)
    return okJson
  | "vevent_fd" =>
    let (_, w) ← sourceArg item
    return .obj [("fd", .optNat (w.fd.map Fd.toNat)), ("name", .str WakeSource.name)]
  | "vevent_activate" =>
    let (_, w) ← sourceArg item
    onMachine (Machine.activate w.device)
    return okJson
  | "vevent_poll" =>
    let (_, w) ← sourceArg item
    let ms := min 1000 (← natOr item "timeout_ms" u64Max 0)
    let ctx := w.update (PollContext.new (Span.ofMillis ms))
    let outcome ← onMachine (Machine.select ctx)
    let ready := match outcome with
      | .ok r => r
      | .error _ => ctx
    onMachine (w.process ready)
    let count := match outcome with
      | .ok r => Json.nat r.readyCount
      | .error e => tableErrorJson e
    return .obj [("interest", ctxJson ctx), ("count", count), ("ready", ctxJson ready),
      ("event", .bool false)]
  | "vevent_process" =>
    let (_, w) ← sourceArg item
    let reads ← fdListArg item "read"
    let ctx := reads.foldl PollContext.addRead (PollContext.new PollContext.defaultTimeout)
    onMachine (w.process ctx)
    return .obj [("event", .bool false)]
  | "receive" =>
    let (id, _) ← uartArg item
    let data ← octets item
    return .obj [("accepted", .nat (← onMachine (Machine.receive id data)))]
  | "take_tx" =>
    let (id, _) ← uartArg item
    return .obj [("data", hexJson (← onMachine (Machine.takeTx id)))]
  | "interrupt" =>
    let (id, _) ← uartArg item
    onMachine (Machine.interrupt id)
    return okJson
  | "fault" =>
    let (id, _) ← uartArg item
    let on ← boolOr item "on" true
    onMachine (Machine.setFault id on)
    return okJson
  | "set_line_endings" =>
    let (id, _) ← uartArg item
    match ← lineEndingsArg item "value" with
    | some le => onMachine (Machine.setLineEndings id le); return okJson
    | none => refuse "missing field 'value'"
  | "readiness" =>
    let id ← deviceArg item "name"
    return readinessJson (← onMachine (Machine.readiness id))
  | "uart_info" =>
    let (_, u) ← uartArg item
    return .obj [("port", .nat u.port), ("installed", .bool u.installed),
      ("config_port", .optNat (u.params.map (·.port))), ("line_endings", .str u.lineEndings.name)]
  | other => refuse s!"unknown vfs op '{other}'"

/-- The records logged since the last look. -/
def journal : StateM VfsBench (List LogRecord) :=
  modifyGet fun b =>
    let (records, m) := Machine.takeJournal.run b.machine
    (records, { b with machine := m })

/-- `vfs`: steps on one machine with named devices. -/
def run (req : Json) : Json := answer do
  let items ← steps req
  let logs ← boolOr req "logs" false
  let (out, _) := (runAll logs journal step items).run ⟨Machine.empty, [], []⟩
  return .obj [("steps", .arr out)]

end Vfs

end ThreadPlatform.Bench
