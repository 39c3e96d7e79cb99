import ThreadPlatform.Bench.Answers
import ThreadPlatform.Bench.Parts
import ThreadPlatform.Platform.Board
import ThreadPlatform.Host.Logger
import ThreadPlatform.Config.Tree

/-!
# Bench: the board

Steps that work on a board whether or not a platform runs on it: the manual
clock, the wire side of the UARTs, the wake event, the reset flag, the
descriptor table and the settings store, plus wire threads. Both the platform
and the runner bench take these steps.

A fatal condition on the board ends the step list; the log records written
before it stay on the board and are reported with the step.
-/

namespace ThreadPlatform.Bench

namespace BoardBench

/-- Runs board work within a step on a state holding the board. -/
def onBoard {σ α : Type} (view : σ → Board) (put : σ → Board → σ) (act : BoardM α) : StepM σ α := do
  let s ← get
  let (r, b) := act.run.run (view s)
  set (put s b)
  match r with
  | .ok a => return a
  | .error f => throw (.fatal f.message)

/-- The parameters a request asks for: a base with both waits zero, with the
members of the request's `config` object put over it, read as a configuration
document; a `config` that is not an object adds nothing. -/
def paramsArg (req : Json) : Except Json PlatformParams := do
  let base : List (String × Json) :=
    [("radio_max_wait", .obj [("secs", .nat 0), ("nanos", .nat 0)]),
     ("mainloop_timeout", .obj [("secs", .nat 0), ("nanos", .nat 0)])]
  let given := match req.get? "config" with
    | some (.obj ms) => ms
    | _ => []
  let merged := base.filter (fun m => !(given.any (·.1 == m.1))) ++ given
  match Config.Tree.treePlatform (.obj merged) with
  | .ok p =>
    if Span.ofMillis 200 < p.radioMaxWait then
      throw (BenchError.badInput "radio_max_wait above 200 ms").toJson
    if p.flash.swapOverflows then
      throw (BenchError.badInput "flash swap size overflows").toJson
    return p
  | .error m => throw (errorJson "serde" m)

/-- The partitions a request lists, erased, if it gives a list. -/
def partitionsArg (req : Json) : Read (Option (Array RamPartition)) := do
  match req.get? "partitions" with
  | some (.arr _) => return some (← Parts.partitionsArg req)
  | _ => return none

/-- A board for a request. -/
def boardArg (req : Json) (p : PlatformParams) : Read Board := do
  let b := Board.new p
  match ← partitionsArg req with
  | some parts => return { b with partitions := parts }
  | none => return b

/-- The UART a step names, the console when it names none. -/
def uartArg (b : Board) (item : Json) : Read DeviceId := do
  match (strOr? item "uart").getD "cli" with
  | "cli" => return b.cli
  | "radio" => return b.radio
  | other => bad s!"unknown uart '{other}'"

/-- Runs machine work within a board step. -/
def machine {α : Type} (act : MachineM α) : StepM Board α :=
  modifyGet fun b =>
    let (a, m) := act.run b.machine
    (a, { b with machine := m })

/-- Whether the wake event is pending, as a count. -/
def eventPending (b : Board) : Json :=
  let pending := match b.machine.devices[b.event]? with
    | some (.event e) => e.pending
    | _ => false
  .nat (if pending then 1 else 0)

/-- The characters after the next quote, if a quote follows; they are fewer
than the characters searched. -/
def afterQuote? : (cs : List Char) → Option {rest : List Char // rest.length < cs.length}
  | [] => none
  | c :: cs =>
    if c = '"' then some ⟨cs, by simp⟩
    else (afterQuote? cs).map fun r => ⟨r.1, by have := r.2; simp; omega⟩

/-- Console text with the host's times of day in JSON lines masked: a closed
string value of a member named time becomes TIME, an unclosed one is kept. -/
def maskStamps : List Char → List Char
  | [] => []
  | c :: cs =>
    let key := "\"time\":\"".toList
    if key.isPrefixOf (c :: cs) then
      match afterQuote? (cs.drop 7) with
      | some rest => key ++ "TIME\"".toList ++ maskStamps rest.1
      | none => c :: cs
    else c :: maskStamps cs
termination_by cs => cs.length
decreasing_by
  all_goals simp_wf
  · have := rest.2
    simp only [List.length_drop] at this
    omega

/-- Console text with every bracketed time of day `[dd:dd:dd.ddd]` written
`[HH:MM:SS.mmm]`; times of day standing alone are kept. -/
def maskBracketed : List Char → List Char
  | [] => []
  | c :: cs =>
    if c = '[' ∧ Host.startsWithClock cs ∧ (cs.drop 12).head? = some ']' then
      "[HH:MM:SS.mmm]".toList ++ maskBracketed (cs.drop 13)
    else c :: maskBracketed cs
termination_by cs => cs.length
decreasing_by all_goals simp_wf <;> omega

/-- Transmitted bytes as the bench shows them: radio bytes as hexadecimal,
console bytes as text when they are UTF-8, with the times of day of log lines
and JSON lines masked. -/
def txJson (radio : Bool) (data : List UInt8) : Json :=
  if radio then .obj [("data", hexJson data)]
  else
    match String.fromUTF8? ⟨data.toArray⟩ with
    | some text => .obj [("text", .str (String.ofList (maskBracketed (maskStamps text.toList))))]
    | none => .obj [("hex", hexJson data)]

/-- The wire device a spawn step names. -/
def spawnTarget (b : Board) (item : Json) : Read DeviceId := do
  match (strOr? item "uart").getD "cli" with
  | "cli" => return b.cli
  | "radio" => return b.radio
  | "event" => return b.event
  | other => bad s!"unknown uart '{other}'"

/-- A board step, or `none` when `op` is not one. -/
def step (op : String) (item : Json) : StepM Board (Option Json) := do
  let b ← get
  match op with
  | "clock_set" =>
    let ms ← needNat item "ms" u64Max
    -- the clock counts microseconds in 64 bits
    if u64Max < ms * 1000 then throw (.fatal multiplyOverflow)
    modify fun b => { b with clock := b.clock.setMillis ms }
    return some (.obj [("us", .nat (← get).clock.micros.toNat)])
  | "clock_advance" =>
    let us ← needNat item "us" u64Max
    modify fun b => { b with clock := b.clock.advance us }
    return some (.obj [("us", .nat (← get).clock.micros.toNat)])
  | "rx" =>
    let id ← uartArg b item
    let data ← octets item
    return some (.obj [("accepted", .nat (← machine (Machine.receive id data)))])
  | "tx" =>
    let id ← uartArg b item
    let data ← machine (Machine.takeTx id)
    return some (txJson (id == b.radio) data)
  | "interrupt" =>
    let id ← uartArg b item
    machine (Machine.interrupt id)
    return some okJson
  | "fault" =>
    let id ← uartArg b item
    let on ← boolOr item "on" true
    machine (Machine.setFault id on)
    return some okJson
  | "uart_state" =>
    let id ← uartArg b item
    let u := ((← machine (Machine.uart? id))).getD (Uart.new 0)
    let r := u.readiness
    return some (.obj [("installed", .bool u.installed), ("line_endings", .str u.lineEndings.name),
      ("readable", .bool r.readable), ("writable", .bool r.writable), ("error", .bool r.error)])
  | "activate" =>
    machine (Machine.activate b.event)
    return some (.obj [("pending", eventPending (← get))])
  | "reset_request" =>
    set { b with resetRequested := true }
    return some okJson
  | "reset_requested" => return some (.obj [("requested", .bool b.resetRequested)])
  | "is_open" =>
    let fd ← fdArg item
    return some (.obj [("open", .bool (← machine (Machine.isOpen fd)))])
  | "vfs_close" =>
    let fd ← fdArg item
    return some (unitJson tableErrorJson (← machine (Machine.closeFd fd)))
  | "vfs_occupy" =>
    let port ← natOr item "port" u8Max 99
    let count := min 64 (← natOr item "count" u32Max 1)
    -- the descriptor is checked when it is first opened
    let fd ← match item.get? "fd", count with
      | none, _ | some .null, _ | _, 0 => pure none
      | some _, _ => do pure (some (← fdArg item))
    let id ← machine (Machine.addDevice (.uart (Uart.new port)))
    let opened ← (List.range count).mapM fun _ => do
      let r ← match fd with
        | some fd => machine (Machine.openReserved fd id)
        | none => machine (Machine.openFd id)
      return match r with
        | .ok fd => Json.nat fd.toNat
        | .error e => tableErrorJson e
    return some (.obj [("fds", .arr opened)])
  | "spawn" =>
    let id ← spawnTarget b item
    let isUart := (← machine (Machine.uart? id)).isSome
    let action ← wireActionArg item isUart
    let after ← afterArg item
    machine (Machine.spawn id action after)
    return some okJson
  | "join" =>
    return some (.obj [("results", .arr ((← machine Machine.join).map wireResultJson))])
  | _ =>
    match ← settingsStep b.settings op item with
    | some (j, s) =>
      set { b with settings := s }
      return some j
    | none => return none

end BoardBench

end ThreadPlatform.Bench
