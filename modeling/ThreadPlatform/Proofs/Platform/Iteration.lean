import ThreadPlatform.Proofs.Platform.Work
/-!
# One iteration of the mainloop, cut at the console

An iteration (`Runner.iteration`) runs the tasklets, collects interest, waits, and runs the
process pass. The console is the third source of the process pass: its read hands the stack
at most one slice of received octets, and right after that the completed sends are taken and
reported. This module cuts an iteration there:

* `Runner.prepare`: the tasklets, `mainloopUpdate` and the wait, which give the context the
  process pass runs with;
* `Platform.processHead`: the wake event and the alarm, with the alarm's upcall;
* the console's read, `ConsolePort.process`;
* `Platform.deliver`: the slice read, if any, handed to the stack;
* the take of the completed sends, `ConsolePort.takeSendDone`, and `dispatchSendsDone`;
* `Platform.processRest`: the radio, its upcall, and the extra sources there were when the pass
  began.

`Platform.mainloopProcess_eq` and `Runner.iteration_eq` say that the pieces make up the
iteration. `Platform.ProcessRun` names a normal run of the process pass together with the
slice the console read and the count of completed sends it took; `Platform.processRun_iff`
says that the normal runs of the pass are exactly these.
-/

namespace ThreadPlatform

open Board

namespace Platform

variable {σ : Type} [Stack σ]

/-- The passes before the console's: the wake event, then the alarm and its upcall. -/
def processHead (s : σ) (ctx : PollContext) : PlatformM σ := do
  Board.onMachine ((← get).wake.process ctx)
  if ← processAlarm then dispatch s .alarmFired else pure s

/-- What the console's read handed out goes to the stack. -/
def deliver (s : σ) : Option (List UInt8) → PlatformM σ
  | some data => dispatch s (.uartReceived data)
  | none => pure s

/-- The passes after the console's: the radio and its upcall, then the first `count` extra
sources in order. -/
def processRest (count : Nat) (s : σ) (ctx : PollContext) : PlatformM σ := do
  let s ← Stack.framesReceived s (← onRadio (RadioLink.process ctx))
  (List.range count).foldlM (fun s i => do
    match ← processSource i with
    | some e => dispatch s e
    | none => pure s) s

theorem mainloopProcess_eq (s : σ) (ctx : PollContext) :
    mainloopProcess s ctx = (do
      let count := (← get).sources.length
      let s ← processHead s ctx
      let o ← onConsole (ConsolePort.process ctx)
      let s ← deliver s o
      let n ← onConsole ConsolePort.takeSendDone
      let s ← dispatchSendsDone n.toNat s
      processRest count s ctx) := by
  simp only [mainloopProcess, processHead, deliver, processRest, bind_assoc]
  refine bind_congr fun p₀ => bind_congr fun p => bind_congr fun _ => bind_congr fun fired => ?_
  -- the do-block of the pass repeats its tail in both branches of the alarm and of the read
  split
  · refine bind_congr fun s => bind_congr fun o => ?_
    split <;> rfl
  · simp only [pure_bind]
    refine bind_congr fun o => ?_
    split <;> rfl

/-- A normal run of the process pass from `(p, b)` to `(p', b')`, in which the console's read
handed out `o` and `n` completed sends were taken; the extra sources it runs are those of `p`. -/
inductive ProcessRun (s : σ) (ctx : PollContext) (p : Platform) (b : Board) :
    Option (List UInt8) → Nat → σ → Platform → Board → Prop
  | mk {s₁ s₂ s₃ s' : σ} {p₁ p₂ p₃ p₄ p₅ p' : Platform} {b₁ b₂ b₃ b₄ b₅ b' : Board}
      {o : Option (List UInt8)} {n : UInt32} :
      exec (processHead s ctx) p b = (.ok (s₁, p₁), b₁) →
      exec (onConsole (ConsolePort.process ctx)) p₁ b₁ = (.ok (o, p₂), b₂) →
      exec (deliver s₁ o) p₂ b₂ = (.ok (s₂, p₃), b₃) →
      exec (onConsole ConsolePort.takeSendDone) p₃ b₃ = (.ok (n, p₄), b₄) →
      exec (dispatchSendsDone n.toNat s₂) p₄ b₄ = (.ok (s₃, p₅), b₅) →
      exec (processRest p.sources.length s₃ ctx) p₅ b₅ = (.ok (s', p'), b') →
      ProcessRun s ctx p b o n.toNat s' p' b'

/-- The normal runs of the process pass are exactly its runs through the console's slot. -/
theorem processRun_iff {s s' : σ} {ctx : PollContext} {p p' : Platform} {b b' : Board} :
    exec (mainloopProcess s ctx) p b = (.ok (s', p'), b') ↔ ∃ o n, ProcessRun s ctx p b o n s' p' b' := by
  rw [mainloopProcess_eq, exec_bind, exec_get]
  dsimp only
  constructor
  · intro h
    obtain ⟨s₁, p₁, b₁, h₁, h⟩ := exec_bind_ok h
    obtain ⟨o, p₂, b₂, h₂, h⟩ := exec_bind_ok h
    obtain ⟨s₂, p₃, b₃, h₃, h⟩ := exec_bind_ok h
    obtain ⟨n, p₄, b₄, h₄, h⟩ := exec_bind_ok h
    obtain ⟨s₃, p₅, b₅, h₅, h⟩ := exec_bind_ok h
    exact ⟨o, n.toNat, .mk h₁ h₂ h₃ h₄ h₅ h⟩
  · rintro ⟨o, n, ⟨h₁, h₂, h₃, h₄, h₅, h⟩⟩
    simp only [exec_bind, h₁, h₂, h₃, h₄, h₅, h]

end Platform

namespace Runner

open Platform

variable {σ : Type} [Stack σ]

/-- The tasklets, the collected interest and the wait of an iteration: the stack after its
tasklets, and the context the process pass runs with. An interrupted wait leaves the context
as the update made it. -/
def prepare (s : σ) : PlatformM (σ × PollContext) := do
  let s ← Stack.processTasklets s
  let ctx ← mainloopUpdate s (mainloopInit (← get))
  let ctx ← match ← mainloopPoll ctx with
    | .ok ready => pure ready
    | .error e =>
      if e.isInterrupted then pure ctx
      else Board.fatal s!"mainloop poll failed: {e.message}"
  return (s, ctx)

theorem iteration_eq (s : σ) : iteration s = prepare s >>= fun sc => mainloopProcess sc.1 sc.2 := by
  simp only [iteration, prepare, bind_assoc]
  refine bind_congr fun s₁ => bind_congr fun p => bind_congr fun ctx => bind_congr fun r => ?_
  rcases r with e | ready
  · dsimp only
    by_cases h : e.isInterrupted = true
    · rw [if_pos h, if_pos h]
      rfl
    · rw [if_neg h, if_neg h]
      simp only [bind_assoc, pure_bind]
  · rfl

/-- A normal run of an iteration: its preparation, then a run of the process pass in which
the console's read handed out `o` and `n` completed sends were taken. -/
inductive IterationRun (s : σ) (p : Platform) (b : Board) :
    Option (List UInt8) → Nat → σ → Platform → Board → Prop
  | mk {s₁ s' : σ} {ctx : PollContext} {p₁ p' : Platform} {b₁ b' : Board} {o : Option (List UInt8)}
      {n : Nat} :
      exec (prepare s) p b = (.ok ((s₁, ctx), p₁), b₁) →
      ProcessRun s₁ ctx p₁ b₁ o n s' p' b' → IterationRun s p b o n s' p' b'

/-- The normal runs of an iteration are exactly its runs through the console's slot. -/
theorem iterationRun_iff {s s' : σ} {p p' : Platform} {b b' : Board} :
    exec (iteration s) p b = (.ok (s', p'), b') ↔ ∃ o n, IterationRun s p b o n s' p' b' := by
  rw [iteration_eq]
  constructor
  · intro h
    obtain ⟨⟨s₁, ctx⟩, p₁, b₁, h₁, h⟩ := exec_bind_ok h
    obtain ⟨o, n, hrun⟩ := processRun_iff.1 h
    exact ⟨o, n, .mk h₁ hrun⟩
  · rintro ⟨o, n, ⟨h₁, hrun⟩⟩
    rw [exec_bind, h₁]
    exact processRun_iff.2 ⟨o, n, hrun⟩

end Runner

end ThreadPlatform
