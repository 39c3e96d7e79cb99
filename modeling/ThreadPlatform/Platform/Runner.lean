import ThreadPlatform.Platform.Mainloop

/-!
# The runner

The runner drives mainloop iterations and rebuilds the platform and the stack
whenever a pseudo-reset is asked for. It is `resetting` until the next step
brings a platform up, then `running`.

A bring-up first lets the old stack finalize, drops the old platform (which
releases it), brings up a new platform with the runner's parameters, and has
the factory build a new stack on it; a platform that cannot come up is fatal.
`starts` counts the bring-ups, the first included, on 32 bits, and the factory
is told the count of the bring-up it serves.

An iteration first looks at the reset flag: a pending request ends the running
phase. Otherwise it runs the tasklets, then update, poll and process; a poll
that was interrupted goes on to the process pass with the context as the update
left it, and any other poll failure is fatal.
-/

namespace ThreadPlatform

/-- The runner's phase. -/
inductive RunnerState where
  | resetting
  | running
  deriving DecidableEq, Repr

/-- The name of the phase. -/
def RunnerState.name : RunnerState → String
  | .resetting => "Resetting"
  | .running => "Running"

/-- The runner: its parameters, the platform and stack it holds, its phase and
how many bring-ups it made. -/
structure Runner (σ : Type) where
  params : PlatformParams
  platform : Option Platform
  stack : Option σ
  state : RunnerState
  starts : UInt32

namespace Runner

/-- A runner that brings its platform up on the first step. -/
def new {σ : Type} (params : PlatformParams) : Runner σ := ⟨params, none, none, .resetting, 0⟩

/-- Drops the held platform, which releases it. -/
def dropPlatform {σ : Type} : StateT (Runner σ) BoardM Unit := do
  if let some p := (← get).platform then
    let _ ← Platform.deinit.run p
  modify fun r => { r with platform := none }

/-- Where the runtime reports the count of bring-ups stepped past its 32 bits. -/
def startsSite : String := "ot/platform/src/system.rs:421:9"

/-- Finalizes the old stack, then brings a new platform and stack up. -/
def restart {σ : Type} [Stack σ] (factory : Nat → PlatformM σ) : StateT (Runner σ) BoardM Unit := do
  let r ← get
  if let (some p, some s) := (r.platform, r.stack) then
    let (_, p') ← (Stack.finalize s).run p
    set { r with platform := some p' }
  modify fun r => { r with stack := none }
  dropPlatform
  match ← Platform.init (← get).params with
  | .error e => Board.fatal s!"platform init failed: {e.message}"
  | .ok p =>
    let starts := (← get).starts
    let (s, p') ← (factory (starts.toNat + 1)).run p
    let n ← Board.increment startsSite starts
    modify fun r => { r with platform := some p', stack := some s, starts := n, state := .running }

/-- One mainloop iteration of a platform and its stack. -/
def iteration {σ : Type} [Stack σ] (s : σ) : PlatformM σ := do
  let s ← Stack.processTasklets s
  let ctx ← Platform.mainloopUpdate s (Platform.mainloopInit (← get))
  let ctx ← match ← Platform.mainloopPoll ctx with
    | .ok ready => pure ready
    | .error e =>
      if e.isInterrupted then pure ctx
      else Board.fatal s!"mainloop poll failed: {e.message}"
  Platform.mainloopProcess s ctx

/-- An iteration, or the end of the running phase when a reset is pending. -/
def iterate {σ : Type} [Stack σ] : StateT (Runner σ) BoardM Unit := do
  let r ← get
  match r.platform, r.stack with
  | some p, some s =>
    if (← getThe Board).resetRequested then
      Board.log .info "pseudo reset"
      set { r with state := .resetting }
    else
      let (s', p') ← (iteration s).run p
      set { r with platform := some p', stack := some s' }
  | _, _ => set { r with state := .resetting }

/-- One bring-up or one iteration; the phase after it. -/
def step {σ : Type} [Stack σ] (factory : Nat → PlatformM σ) : StateT (Runner σ) BoardM RunnerState := do
  match (← get).state with
  | .resetting => restart factory
  | .running => iterate
  return (← get).state

end Runner

end ThreadPlatform
