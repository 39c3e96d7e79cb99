import ThreadPlatform.Platform.Lifecycle

/-!
# The mainloop

One iteration of the mainloop is four passes over the platform's sources, in a
fixed order: the wake source, the alarm, the console, the radio, then the extra
sources in the order they were added.

1. `mainloopInit`: nothing of interest yet, waiting at most the configured timeout;
2. `mainloopUpdate`: every source adds interest and may shorten the wait; pending
   tasklets or console sends the stack has not heard of make the wait zero;
3. `mainloopPoll`: `select` on the result;
4. `mainloopProcess`: every source there is when the pass starts handles what
   is ready, and each event it hands out is dispatched to the stack before the
   next source runs.

The stack is anything with a `Stack` instance. Completed console sends counted
before the console's process pass are dispatched right after it; sends made
while they are dispatched are reported in the next iteration. Frames the radio
completes are reported to the stack's receive callback as they arrive.
-/

namespace ThreadPlatform

/-- The protocol stack as the platform sees it. -/
class Stack (σ : Type) where
  /-- Whether the stack has tasklets to run. -/
  taskletsPending : σ → Bool
  /-- Runs the pending tasklets. -/
  processTasklets : σ → PlatformM σ
  /-- Whether alarm expiry goes to `diagAlarmFired`. -/
  diagMode : σ → Bool
  /-- The alarm expired. -/
  alarmFired : σ → PlatformM σ
  /-- The alarm expired in diagnostics mode. -/
  diagAlarmFired : σ → PlatformM σ
  /-- Bytes arrived on the console. -/
  uartReceived : σ → List UInt8 → PlatformM σ
  /-- One console send completed. -/
  uartSendDone : σ → PlatformM σ
  /-- The last call before the platform goes down for a pseudo-reset. -/
  finalize : σ → PlatformM σ
  /-- The radio completed this many frames. -/
  framesReceived : σ → Nat → PlatformM σ

namespace Platform

/-- Nothing of interest yet, waiting at most the configured timeout. -/
def mainloopInit (p : Platform) : PollContext := PollContext.new p.params.mainloopTimeout

/-- Collects interest from every source. -/
def mainloopUpdate {σ : Type} [Stack σ] (s : σ) (ctx : PollContext) : PlatformM PollContext := do
  let p ← get
  let now ← alarmNow
  let ctx := p.radio.update (p.console.update (p.alarm.update now (p.wake.update ctx)))
  let ctx ← p.sources.foldlM (fun ctx src => src.update ctx) ctx
  if Stack.taskletsPending s || decide (0 < p.console.sendsDone) then return ctx.setImmediate
  else return ctx

/-- Waits on the collected interest. -/
def mainloopPoll (ctx : PollContext) : PlatformM (Except TableError PollContext) :=
  Board.onMachine (Machine.select ctx)

/-- Hands one event to the stack. -/
def dispatch {σ : Type} [Stack σ] (s : σ) : PlatformEvent → PlatformM σ
  | .alarmFired => if Stack.diagMode s then Stack.diagAlarmFired s else Stack.alarmFired s
  | .uartReceived data => Stack.uartReceived s data
  | .uartSendDone => Stack.uartSendDone s

/-- Dispatches `n` send-done notifications. -/
def dispatchSendsDone {σ : Type} [Stack σ] : Nat → σ → PlatformM σ
  | 0, s => return s
  | n + 1, s => do dispatchSendsDone n (← dispatch s .uartSendDone)

/-- The alarm's process pass: stops a due alarm and tells whether it fired. -/
def processAlarm : PlatformM Bool := do
  let (fired, a) := (← get).alarm.process (← alarmNow)
  modify fun p => { p with alarm := a }
  if fired then Board.log Alarm.firedNote.level Alarm.firedNote.text
  return fired

/-- The process pass of extra source `i`. -/
def processSource (i : Nat) : PlatformM (Option PlatformEvent) := do
  match (← get).sources[i]? with
  | none => return none
  | some src =>
    let (e, src') ← src.process
    modify fun p => { p with sources := p.sources.set i src' }
    return e

/-- Runs every source's process pass, dispatching each event as it comes. The pass covers the
sources there are when it starts: one an upcall adds meanwhile waits for the next pass. -/
def mainloopProcess {σ : Type} [Stack σ] (s : σ) (ctx : PollContext) : PlatformM σ := do
  let count := (← get).sources.length
  Board.onMachine ((← get).wake.process ctx)
  let s ← if ← processAlarm then dispatch s .alarmFired else pure s
  let s ← match ← onConsole (ConsolePort.process ctx) with
    | some data => dispatch s (.uartReceived data)
    | none => pure s
  let s ← dispatchSendsDone (← onConsole ConsolePort.takeSendDone).toNat s
  let s ← Stack.framesReceived s (← onRadio (RadioLink.process ctx))
  (List.range count).foldlM (fun s i => do
    match ← processSource i with
    | some e => dispatch s e
    | none => pure s) s

/-- Makes a waiting or upcoming poll return at once. -/
def mainloopBreak : PlatformM Unit := Board.activate

end Platform

end ThreadPlatform
