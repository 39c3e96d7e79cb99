import ThreadPlatform.Bench.Platform
import ThreadPlatform.Platform.Runner
import ThreadPlatform.Stack.Minimal
import ThreadPlatform.Host.Shell

/-!
# Bench: the runner

A board and a runner on it. The stack is a recorder, a minimal stack or the
host shell; the factory builds a fresh one at every bring-up, and the notes of
a recorder or a minimal stack carry the number of the bring-up that built it
(`1:`, `2:`, ...). Board steps work as in the platform bench. A step asks
for at most 50 runner steps.
-/

namespace ThreadPlatform.Bench

/-- The stacks a runner may drive. -/
inductive HostStack where
  | recorder (r : Recorder)
  | minimal (m : Minimal)
  | shell (s : Shell)

namespace HostStack

/-- Lets the stack handle a call, each kind as its own instance says. -/
def handle (s : HostStack) (onRecorder : Recorder → PlatformM Recorder)
    (onMinimal : Minimal → PlatformM Minimal) (onShell : Shell → PlatformM Shell) : PlatformM HostStack :=
  match s with
  | .recorder r => recorder <$> onRecorder r
  | .minimal m => minimal <$> onMinimal m
  | .shell sh => shell <$> onShell sh

instance : Stack HostStack where
  taskletsPending
    | .recorder r => Stack.taskletsPending r
    | .minimal m => Stack.taskletsPending m
    | .shell sh => Stack.taskletsPending sh
  processTasklets s := s.handle Stack.processTasklets Stack.processTasklets Stack.processTasklets
  diagMode
    | .recorder r => Stack.diagMode r
    | .minimal m => Stack.diagMode m
    | .shell sh => Stack.diagMode sh
  alarmFired s := s.handle Stack.alarmFired Stack.alarmFired Stack.alarmFired
  diagAlarmFired s := s.handle Stack.diagAlarmFired Stack.diagAlarmFired Stack.diagAlarmFired
  uartReceived s data :=
    s.handle (Stack.uartReceived · data) (Stack.uartReceived · data) (Stack.uartReceived · data)
  uartSendDone s := s.handle Stack.uartSendDone Stack.uartSendDone Stack.uartSendDone
  finalize s := s.handle Stack.finalize Stack.finalize Stack.finalize
  framesReceived s n :=
    s.handle (Stack.framesReceived · n) (Stack.framesReceived · n) (Stack.framesReceived · n)

end HostStack

/-- What the factory builds at each bring-up. -/
inductive StackKind where
  | recorder (options : Recorder)
  | minimal (diag : Bool)
  | shell (json : Bool)

/-- A fresh stack for bring-up `n`. -/
def StackKind.build (k : StackKind) (n : Nat) : PlatformM HostStack :=
  match k with
  | .recorder options => return .recorder { options with tag := s!"{n}:" }
  | .minimal diag => return .minimal ⟨s!"{n}:", diag⟩
  | .shell json => HostStack.shell <$> Shell.start json

/-- The board, the runner on it and the kind of stack its factory builds. -/
structure RunnerBench where
  board : Board
  runner : Runner HostStack
  kind : StackKind

namespace RunnerBench

/-- A step of the runner bench. -/
abbrev BenchM := StepM RunnerBench

/-- Runs board work. -/
def onBoard {α : Type} (act : BoardM α) : BenchM α :=
  BoardBench.onBoard (·.board) (fun s b => { s with board := b }) act

/-- Runs work on the runner. -/
def onRunner {α : Type} (act : StateT (Runner HostStack) BoardM α) : BenchM α := do
  let (a, r) ← onBoard (act.run (← get).runner)
  modify fun s => { s with runner := r }
  return a

/-- Runner steps, `n` of them; the phase after the last. -/
def steps (kind : StackKind) : Nat → StateT (Runner HostStack) BoardM RunnerState
  | 0 => return (← get).state
  | 1 => Runner.step kind.build
  | n + 1 => do
    let _ ← Runner.step kind.build
    steps kind n

/-- The trace, drained. -/
def calls : BenchM Json := do
  return .arr ((← onBoard Board.takeTrace).map Json.str)

/-- Whether the held stack has tasklets pending, if there is a stack. -/
def taskletsJson (s : Option HostStack) : Json :=
  match s with
  | some s => .bool (Stack.taskletsPending s)
  | none => .null

/-- One runner step. -/
def runnerStep (op : String) (item : Json) : BenchM Json := do
  match op with
  | "step" =>
    let times := min 50 (← natOr item "times" u32Max 1)
    let state ← onRunner (steps (← get).kind times)
    let r := (← get).runner
    return .obj [("state", .str state.name), ("starts", .nat r.starts.toNat), ("calls", ← calls)]
  | "state" =>
    let r := (← get).runner
    return .obj [("state", .str r.state.name), ("starts", .nat r.starts.toNat),
      ("platform", .bool r.platform.isSome), ("tasklets_pending", taskletsJson r.stack)]
  | "api_lock" => return .obj [("reentrant", .bool true)]
  | "set_instance" =>
    let r := (← get).runner
    match r.stack with
    | none => throw (.bench .noPlatform)
    | some (.recorder old) =>
      let tasklets ← boolOr item "tasklets" old.tasklets
      let diag ← boolOr item "diag" old.diag
      let fresh := { old with tasklets := tasklets, diag := diag }
      modify fun s => { s with runner := { r with stack := some (.recorder fresh) } }
      return okJson
    | some _ => refuse "instance is not a recorder"
  | "board" =>
    let b := (← get).board
    return .obj [("event_pending", BoardBench.eventPending b), ("requested", .bool b.resetRequested)]
  | other => refuse s!"unknown runner op '{other}'"

/-- One step of the runner bench. -/
def step (op : String) (item : Json) : BenchM Json := do
  let s ← get
  let (r, b) := (BoardBench.step op item).run s.board
  set { s with board := b }
  match r with
  | .error h => throw h
  | .ok (some j) => return j
  | .ok none => runnerStep op item

/-- The records logged since the last look. -/
def journal : StateM RunnerBench (List LogRecord) :=
  modifyGet fun s =>
    let (records, m) := Machine.takeJournal.run s.board.machine
    (records, { s with board := { s.board with machine := m } })

/-- The kind of stack a request asks for. -/
def kindArg (req : Json) : Read StackKind := do
  let opts := (req.get? "instance").getD (.obj [])
  -- the recorder's options are read whatever the kind
  let recorder ← PlatformBench.stackArg req
  match (strOr? opts "kind").getD "recorder" with
  | "recorder" => return .recorder recorder
  | "minimal" => return .minimal (← boolOr opts "diag" false)
  | "shell" => return .shell (← boolOr opts "json" false)
  | other => bad s!"unknown instance kind '{other}'"

/-- `runner`: a board and a runner on it, then the steps. -/
def run (req : Json) : Json :=
  match BoardBench.paramsArg req with
  | .error j => j
  | .ok params => answer do
    if Span.ofMillis 20 < params.mainloopTimeout then bad "mainloop_timeout above 20 ms"
    let board ← BoardBench.boardArg req params
    let kind ← kindArg req
    let items ← Bench.steps req
    let logs ← boolOr req "logs" false
    let (out, _) := (runAll logs journal step items).run ⟨board, Runner.new params, kind⟩
    return .obj [("steps", .arr out)]

end RunnerBench

end ThreadPlatform.Bench
