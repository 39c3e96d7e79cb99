import ThreadPlatform.Machine.Devices

/-!
# The wire side and the passing of time

Wire threads are spawned with a delay, act when due, and are joined in the
order they were spawned. Time passes only in the waits below; each wait runs
the wire events due before its deadline, earliest first.

Every wait is bounded by the number of events still ahead (`eventsLeft`): each
event runs once, and a thread has at most two (its start, and the end of a
drain).
-/

namespace ThreadPlatform

namespace Machine

/-- The earliest time a wire event is due. -/
def nextDue (threads : List WireThread) : Option Nat :=
  threads.foldl (fun acc th =>
    match th.phase.due, acc with
    | some t, some a => some (min a t)
    | some t, none => some t
    | none, acc => acc) none

/-- Starts a thread's action at time `t` and returns its next phase. -/
def start (th : WireThread) (t : Nat) : MachineM WirePhase :=
  match th.action with
  | .receive bytes => return .finished (.accepted (← receive th.device bytes))
  | .interrupt => do interrupt th.device; return .finished .done
  | .fault on => do setFault th.device on; return .finished .done
  | .takeTx => return .finished (.data (← takeTx th.device))
  | .activate => do activate th.device; return .finished .done
  | .drain want =>
    if want = 0 then return .finished (.data [])
    else do
      let got ← takeTx th.device
      return if want ≤ got.length then .finished (.data got) else .draining got (t + drainLimit)

/-- Runs the next wire event; `false` when none is left. -/
def fireNext : MachineM Bool := do
  let m ← get
  match nextDue m.threads with
  | none => return false
  | some t =>
    match m.threads.findIdx? (fun th => th.phase.due == some t) with
    | none => return false
    | some i =>
      match m.threads[i]? with
      | none => return false
      | some th =>
        modify fun m => { m with now := max m.now t }
        let phase ← match th.phase with
          | .sleeping _ => start th t
          | .draining got _ => pure (.finished (.data got))
          | .finished r => pure (.finished r)
        modify fun m => { m with threads := m.threads.set i { th with phase := phase } }
        return true

/-- Real time reaches `deadline`, if it has not already. -/
def passTo (deadline : Nat) : MachineM Unit :=
  modify fun m => { m with now := max m.now deadline }

/-- Runs the wire events due by `deadline`, then lets time reach it. -/
def advanceTo (deadline : Nat) : Nat → MachineM Unit
  | 0 => passTo deadline
  | fuel + 1 => do
    match nextDue (← get).threads with
    | some t =>
      if t ≤ deadline then
        let _ ← fireNext
        advanceTo deadline fuel
      else passTo deadline
    | none => passTo deadline

/-- Lowers the signal and tells whether it was raised. -/
def consumeSignal : MachineM Bool :=
  modifyGet fun m => (m.signal, { m with signal := false })

/-- Sleeps until the signal is raised or time reaches `deadline`, and tells which; a raised
signal is consumed. -/
def awaitSignal (deadline : Nat) : Nat → MachineM Bool
  | 0 => do
    if ← consumeSignal then return true
    passTo deadline
    return false
  | fuel + 1 => do
    if ← consumeSignal then return true
    match nextDue (← get).threads with
    | some t =>
      if t ≤ deadline then
        let _ ← fireNext
        awaitSignal deadline fuel
      else
        passTo deadline
        return false
    | none =>
      passTo deadline
      return false

/-- Sleeps on the signal until `deadline`, with room for every event ahead. -/
def waitSignal (deadline : Nat) : MachineM Bool := do
  awaitSignal deadline ((← get).eventsLeft + 1)

/-- Lets time pass by `span` nanoseconds, running the events due meanwhile. -/
def sleep (span : Nat) : MachineM Unit := do
  let m ← get
  advanceTo (m.now + span) (m.eventsLeft + 1)

/-- Runs wire events until none is left. -/
def settle : Nat → MachineM Unit
  | 0 => pure ()
  | fuel + 1 => do
    if ← fireNext then settle fuel

/-- Spawns a wire thread acting on a device `afterMs` milliseconds from now. -/
def spawn (id : DeviceId) (action : WireAction) (afterMs : Nat) : MachineM Unit :=
  modify fun m =>
    { m with threads := m.threads ++ [⟨id, action, .sleeping (m.now + afterMs * nanosPerMilli)⟩] }

/-- Waits for every wire thread and returns their results in spawn order. -/
def join : MachineM (List WireResult) := do
  settle (← get).eventsLeft
  let m ← get
  set { m with threads := [] }
  return m.threads.filterMap fun th =>
    match th.phase with
    | .finished r => some r
    | _ => none

/-- Main side: waits up to `span` nanoseconds for bytes to send on a UART, then takes them. -/
def waitTx (id : DeviceId) (span : Nat) : MachineM (List UInt8) := do
  let queued ← match ← uart? id with
    | some u => pure !u.tx.isEmpty
    | none => pure false
  if !queued then sleep span
  takeTx id

end Machine

end ThreadPlatform
