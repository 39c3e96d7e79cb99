import ThreadPlatform.Machine.Select

/-!
# One `select` among the threads of the wire side

The machine runs its wire side only while the mainloop waits, one whole call at a time. On a
board the threads are free: a wire call may come between any two steps of a `select`. It
changes its device under the device's lock, and triggers the signal of the `select` registered
with the device only once it has let go of the lock. This module gives that finer semantics of
one `select` over a list of watched devices, with the machine's own device operations.

* `WireAction.lock` is the critical section of a wire call: the device after it, and whether
  the call cloned the device's waiter, the signal of a registered `select`, which it owes a
  trigger. A take of the transmit FIFO (`take_tx`, and the drain that ends `wait_tx`) triggers
  inside the lock (`WireAction.triggersInside`); every other call triggers after it, and until
  then it is `InFlight`.
* `SelectPc` is where the mainloop thread is. The `select` registers with each device under its
  lock, and triggers the signal itself for an event device with an activation pending. Then it
  goes round: it takes each device's pending interruption, each under its lock, and stops at
  the first; it looks at each device's readiness, each under its lock; with nothing ready it
  takes the signal's lock, consumes a raised signal and goes round again, or sleeps on it. A
  raised signal wakes it; a timeout lets it look at the readiness once more. At the end it
  unregisters from each device.
* `SelectStep` is one atomic step of the `select` or of any wire call, and `SelectReach` the
  states reached from the start of a `select`, with any number of wire calls in any order.
-/

namespace ThreadPlatform

namespace Device

/-- Whether an interruption is pending on the device: only a UART takes one. -/
def interrupted : Device → Bool
  | .uart u => u.interrupted
  | .event _ => false

end Device

namespace WireAction

/-- The critical section of a wire call on a device: the device after it, and whether the call
cloned the signal of a registered `select` and triggers it. A receive that took nothing and a
take of an empty FIFO trigger nothing, and an activation of a closed event device fails and
changes nothing. -/
def lock : WireAction → Device → Device × Bool
  | .receive bytes, .uart u => (.uart (u.receive bytes).2, decide (0 < (u.receive bytes).1) && u.watched)
  | .takeTx, .uart u => (.uart u.takeTx.2, !u.tx.isEmpty && u.watched)
  | .drain _, .uart u => (.uart u.takeTx.2, !u.tx.isEmpty && u.watched)
  | .fault on, .uart u => (.uart (u.setFault on), u.watched)
  | .interrupt, .uart u => (.uart u.interrupt, u.watched)
  | .activate, .event e =>
    match e.signal with
    | .ok e' => (.event e', e.watched)
    | .error _ => (.event e, false)
  | _, d => (d, false)

/-- A take of the transmit FIFO triggers while it holds the device's lock. -/
def triggersInside : WireAction → Bool
  | .takeTx | .drain _ => true
  | _ => false

end WireAction

/-- A wire call past its critical section on `device`, by `action`, that has not triggered
yet; it `owes` the `select` a trigger when it cloned the `select`'s signal. -/
structure InFlight where
  device : DeviceId
  action : WireAction
  owes : Bool
  deriving DecidableEq, Repr

/-- Where the mainloop thread is in a `select`. -/
inductive SelectPc where
  /-- Registering with the `k`-th watched device. -/
  | register (k : Nat)
  /-- The `k`-th watched device had an activation pending: triggering the signal. -/
  | notify (k : Nat)
  /-- Taking the pending interruption of the `k`-th watched device. -/
  | interrupts (k : Nat)
  /-- Looking at the readiness of the `k`-th watched device; `ready` holds what the earlier ones
  showed. -/
  | sample (k : Nat) (ready : PollContext)
  /-- Nothing was ready: about to take the signal's lock. -/
  | wait
  /-- Asleep on the signal, which was clear. -/
  | blocked
  /-- Timed out: looking at the readiness of the `k`-th watched device once more. -/
  | timedOut (k : Nat) (ready : PollContext)
  /-- Unregistering from the `k`-th watched device, with the outcome. -/
  | unregister (k : Nat) (outcome : Except TableError PollContext)
  /-- The `select` returned. -/
  | done (outcome : Except TableError PollContext)

/-- The machine, with the devices and the `select`'s signal; where the `select` is; and the wire
calls past their critical section that have not triggered yet. -/
structure SelectState where
  machine : Machine
  pc : SelectPc
  inFlight : List InFlight

namespace Machine

/-- The critical section of registering a `select` with device `id`: the device marked watched,
and whether an activation was pending on it. -/
def registerLocked (id : DeviceId) (m : Machine) : Machine × Bool :=
  match m.devices[id]? with
  | some d =>
    ({ m with devices := m.devices.modify id fun _ => d.setWatched true },
      match d with
      | .event e => e.pending
      | .uart _ => false)
  | none => (m, false)

end Machine

namespace SelectState

/-- A `select` beginning on `m`: a new signal, clear, and no wire call owing it a trigger. -/
def start (m : Machine) : SelectState := ⟨{ m with signal := false }, .register 0, []⟩

/-- The signal raised if `b`. -/
def raise (σ : SelectState) (b : Bool) : SelectState :=
  { σ with machine := { σ.machine with signal := σ.machine.signal || b } }

/-- The signal consumed, and the `select` at `pc`. -/
def consume (σ : SelectState) (pc : SelectPc) : SelectState :=
  { σ with machine := { σ.machine with signal := false }, pc := pc }

/-- After the critical section of a wire call by `a` on device `id`, which was `d`: the device
changed, and the trigger pulled inside the lock or owed. -/
def afterLock (σ : SelectState) (id : DeviceId) (a : WireAction) (d : Device) : SelectState :=
  let σ' := { σ with machine := { σ.machine with devices := σ.machine.devices.modify id fun _ => (a.lock d).1 } }
  if a.triggersInside then σ'.raise (a.lock d).2
  else { σ' with inFlight := σ.inFlight ++ [⟨id, a, (a.lock d).2⟩] }

/-- After the `i`-th call in flight, `c`, triggered the signal it owed, if any, and ended. -/
def afterTrigger (σ : SelectState) (i : Nat) (c : InFlight) : SelectState :=
  { (σ.raise c.owes) with inFlight := σ.inFlight.eraseIdx i }

end SelectState

open Machine in
/-- One atomic step of a `select` on `ctx` over `watched`, or of a wire call on any device. -/
inductive SelectStep (watched : List (Fd × DeviceId)) (ctx : PollContext) : SelectState → SelectState → Prop
  /-- A wire call by `a` on device `id` runs its critical section. -/
  | lock {σ : SelectState} {id : DeviceId} {d : Device} (a : WireAction) :
      σ.machine.devices[id]? = some d → SelectStep watched ctx σ (σ.afterLock id a d)
  /-- The `i`-th call in flight triggers the signal it cloned, if it did, and ends. -/
  | trigger {σ : SelectState} {i : Nat} {c : InFlight} :
      σ.inFlight[i]? = some c → SelectStep watched ctx σ (σ.afterTrigger i c)
  | register {σ : SelectState} {k : Nat} {p : Fd × DeviceId} :
      σ.pc = .register k → watched[k]? = some p →
      SelectStep watched ctx σ
        { σ with
          machine := (registerLocked p.2 σ.machine).1
          pc := if (registerLocked p.2 σ.machine).2 then .notify k else .register (k + 1) }
  | registered {σ : SelectState} {k : Nat} :
      σ.pc = .register k → watched[k]? = none → SelectStep watched ctx σ { σ with pc := .interrupts 0 }
  | notify {σ : SelectState} {k : Nat} :
      σ.pc = .notify k → SelectStep watched ctx σ { (σ.raise true) with pc := .register (k + 1) }
  | interrupt {σ : SelectState} {k : Nat} {p : Fd × DeviceId} :
      σ.pc = .interrupts k → watched[k]? = some p →
      SelectStep watched ctx σ
        { σ with
          machine := ((takeInterrupt p.2).run σ.machine).2
          pc := if ((takeInterrupt p.2).run σ.machine).1 then .unregister 0 (.error (.device .interrupted))
            else .interrupts (k + 1) }
  | uninterrupted {σ : SelectState} {k : Nat} :
      σ.pc = .interrupts k → watched[k]? = none → SelectStep watched ctx σ { σ with pc := .sample 0 ctx.cleared }
  | sample {σ : SelectState} {k : Nat} {ready : PollContext} {p : Fd × DeviceId} :
      σ.pc = .sample k ready → watched[k]? = some p →
      SelectStep watched ctx σ
        { σ with pc := .sample (k + 1) (markReady ctx ready p.1 ((readiness p.2).run σ.machine).1) }
  | sampled {σ : SelectState} {k : Nat} {ready : PollContext} :
      σ.pc = .sample k ready → watched[k]? = none →
      SelectStep watched ctx σ { σ with pc := if 0 < ready.readyCount then .unregister 0 (.ok ready) else .wait }
  /-- Under the signal's lock: a raised signal is consumed and the `select` goes round again. -/
  | again {σ : SelectState} :
      σ.pc = .wait → σ.machine.signal = true → SelectStep watched ctx σ (σ.consume (.interrupts 0))
  /-- Under the signal's lock: a clear signal puts the `select` to sleep, letting go of the lock. -/
  | sleep {σ : SelectState} :
      σ.pc = .wait → σ.machine.signal = false → SelectStep watched ctx σ { σ with pc := .blocked }
  | wake {σ : SelectState} :
      σ.pc = .blocked → σ.machine.signal = true → SelectStep watched ctx σ (σ.consume (.interrupts 0))
  | timeout {σ : SelectState} :
      σ.pc = .blocked → σ.machine.signal = false →
      SelectStep watched ctx σ { σ with pc := .timedOut 0 ctx.cleared }
  | resample {σ : SelectState} {k : Nat} {ready : PollContext} {p : Fd × DeviceId} :
      σ.pc = .timedOut k ready → watched[k]? = some p →
      SelectStep watched ctx σ
        { σ with pc := .timedOut (k + 1) (markReady ctx ready p.1 ((readiness p.2).run σ.machine).1) }
  | resampled {σ : SelectState} {k : Nat} {ready : PollContext} :
      σ.pc = .timedOut k ready → watched[k]? = none →
      SelectStep watched ctx σ { σ with pc := .unregister 0 (.ok ready) }
  | unregister {σ : SelectState} {k : Nat} {outcome : Except TableError PollContext} {p : Fd × DeviceId} :
      σ.pc = .unregister k outcome → watched[k]? = some p →
      SelectStep watched ctx σ
        { σ with machine := ((stopWatch p.2).run σ.machine).2, pc := .unregister (k + 1) outcome }
  | unregistered {σ : SelectState} {k : Nat} {outcome : Except TableError PollContext} :
      σ.pc = .unregister k outcome → watched[k]? = none → SelectStep watched ctx σ { σ with pc := .done outcome }

/-- The states that a `select` on `ctx` over `watched`, begun on `m`, reaches together with the
wire side. -/
inductive SelectReach (watched : List (Fd × DeviceId)) (ctx : PollContext) (m : Machine) : SelectState → Prop
  | start : SelectReach watched ctx m (SelectState.start m)
  | step {σ σ' : SelectState} : SelectReach watched ctx m σ → SelectStep watched ctx σ σ' →
      SelectReach watched ctx m σ'

end ThreadPlatform
