import ThreadPlatform.Machine.Wire
import ThreadPlatform.Core.PollContext

/-!
# Waiting for readiness

`select` waits until a descriptor of a poll context is ready or its timeout
passes. Every descriptor of interest must name a device; the first that does
not, in ascending order, is a bad descriptor. The devices are registered with
the signal before their readiness is first looked at, so a device that becomes
ready after that look still ends the wait.

Each round first consumes pending interruptions, in descriptor order, and
stops at the first: the wait is then interrupted and the context stays as it
was. Otherwise the context's sets are cut down to the ready descriptors; if any
is left, that is the answer, and if the signal times out, the sets are cut down
once more and returned, possibly empty.
-/

namespace ThreadPlatform

namespace Machine

/-- The device of each descriptor of interest, in ascending descriptor order. -/
def watchList (ctx : PollContext) : MachineM (Except TableError (List (Fd × DeviceId))) := do
  let t := (← get).table
  return ctx.interest.toList.mapM fun fd => (t.lookup fd).map (fd, ·)

/-- Adds `fd` to the sets of `ready` in which `ctx` has it and its device is ready. -/
def markReady (ctx : PollContext) (ready : PollContext) (fd : Fd) (r : Readiness) : PollContext :=
  let ready := if r.readable && ctx.isReadable fd then { ready with readFds := ready.readFds.insert fd } else ready
  let ready := if r.writable && ctx.isWritable fd then { ready with writeFds := ready.writeFds.insert fd } else ready
  if r.error && ctx.hasError fd then { ready with errorFds := ready.errorFds.insert fd } else ready

/-- The context cut down to what is ready now. -/
def readySubset (watched : List (Fd × DeviceId)) (ctx : PollContext) : MachineM PollContext := do
  let m ← get
  return watched.foldl (fun ready (fd, id) =>
    markReady ctx ready fd ((m.devices[id]?.map Device.readiness).getD ⟨false, false, false⟩))
    ctx.cleared

/-- Consumes interruptions in order, stopping at the first. -/
def anyInterrupted : List (Fd × DeviceId) → MachineM Bool
  | [] => return false
  | (_, id) :: rest => do
    if ← takeInterrupt id then return true else anyInterrupted rest

/-- The rounds of a `select`. -/
def selectRounds (watched : List (Fd × DeviceId)) (ctx : PollContext) (deadline : Nat) :
    Nat → MachineM (Except TableError PollContext)
  | 0 => return .ok (← readySubset watched ctx)
  | fuel + 1 => do
    if ← anyInterrupted watched then return .error (.device .interrupted)
    let ready ← readySubset watched ctx
    if 0 < ready.readyCount then return .ok ready
    if ← waitSignal deadline then selectRounds watched ctx deadline fuel
    else return .ok (← readySubset watched ctx)

/-- Waits for readiness; the context cut down to the ready descriptors, or why not. -/
def select (ctx : PollContext) : MachineM (Except TableError PollContext) := do
  match ← watchList ctx with
  | .error e => return .error e
  | .ok watched =>
    modify fun m => { m with signal := false }
    watched.forM (fun p => startWatch p.2)
    let m ← get
    let outcome ← selectRounds watched ctx (m.now + ctx.timeout.nanos) (m.eventsLeft + 2)
    watched.forM (fun p => stopWatch p.2)
    return outcome

end Machine

end ThreadPlatform
