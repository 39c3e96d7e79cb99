import ThreadPlatform.Proofs.Platform.ConsoleInput
/-!
# Completed console sends are told once each

A console send that wrote all of its octets raises the port's count of completed sends
(`ConsolePort.sendsDone`); the console's slot of the process pass takes the count and tells the
stack of each completion (`dispatchSendsDone`). Sends happen inside upcalls of the stack, which
are arbitrary platform work, so the sends a run made are counted on a decomposition of the run:
`Platform.Sends` takes a normal run apart into steps whose effect on the count is known,
counting the sends that completed and the completions the console's slot took. The stack is
asked for such a decomposition of every run of each of its upcalls (`Stack.CountsSends`).

* `Platform.Sends.count`: completions taken plus the count after are the count before plus the
  sends completed.
* `Platform.counted_mainloopProcess`: the process pass takes at the console's slot every
  completion made before it, the replies to the console's own slice among them, and leaves
  pending every one made after it.
* `Platform.send_done_accounting` gathers these with the iteration being counted as a whole
  and the zero wait of an update that finds completions pending.

A stack told of a completion by an extra source's event is told of one that no send made
(`Platform.source_send_done_uncounted`).
-/

namespace ThreadPlatform

open Board

namespace Platform

/-- How a send's answer counts: one completed send, or none. -/
def completed : Except ThreadError Unit → Nat
  | .ok () => 1
  | .error _ => 0

/-- A normal run of platform work from `(p, b)` that answered `a` at `(p', b')`, taken apart
into steps whose effect on the console's count of completed sends is known: `k` console sends
completed in it, and the console's slot took `t` completions from the count. Board work and the
radio link cannot touch the count, a change of the platform must leave it, and the console is
only read, sent on, or has its count taken. -/
inductive Sends : {α : Type} → PlatformM α → Platform → Board → α → Platform → Board → Nat → Nat → Prop
  | board {α : Type} {x : BoardM α} {p : Platform} {b b' : Board} {a : α} :
      x.run.run b = (.ok a, b') → Sends (liftM x) p b a p b' 0 0
  | pure {α : Type} (a : α) (p : Platform) (b : Board) : Sends (Pure.pure a) p b a p b 0 0
  | get (p : Platform) (b : Board) : Sends MonadState.get p b p p b 0 0
  | modify {f : Platform → Platform} {p : Platform} (b : Board) :
      (f p).console.sendsDone = p.console.sendsDone →
      Sends (MonadState.modifyGet fun q => (PUnit.unit, f q)) p b PUnit.unit (f p) b 0 0
  | radio {α : Type} {act : StateT RadioLink BoardM α} {p : Platform} {b b' : Board} {a : α} {r : RadioLink} :
      exec act p.radio b = (.ok (a, r), b') → Sends (onRadio act) p b a { p with radio := r } b' 0 0
  | read {ctx : PollContext} {p : Platform} {b b' : Board} {o : Option (List UInt8)} {c : ConsolePort} :
      exec (ConsolePort.process ctx) p.console b = (.ok (o, c), b') →
      Sends (onConsole (ConsolePort.process ctx)) p b o { p with console := c } b' 0 0
  | send {data : List UInt8} {p : Platform} {b b' : Board} {r : Except ThreadError Unit} {c : ConsolePort} :
      exec (ConsolePort.send data) p.console b = (.ok (r, c), b') →
      Sends (onConsole (ConsolePort.send data)) p b r { p with console := c } b' (completed r) 0
  | take (p : Platform) (b : Board) :
      Sends (onConsole ConsolePort.takeSendDone) p b p.console.sendsDone
        { p with console := { p.console with sendsDone := 0 } } b 0 p.console.sendsDone.toNat
  | bind {α β : Type} {x : PlatformM α} {f : α → PlatformM β} {p p₁ p₂ : Platform} {b b₁ b₂ : Board}
      {a : α} {c : β} {k₁ k₂ t₁ t₂ : Nat} :
      Sends x p b a p₁ b₁ k₁ t₁ → Sends (f a) p₁ b₁ c p₂ b₂ k₂ t₂ →
      Sends (x >>= f) p b c p₂ b₂ (k₁ + k₂) (t₁ + t₂)

namespace Sends

variable {α : Type} {act : PlatformM α} {p p' : Platform} {b b' : Board} {a : α} {k t : Nat}

/-- A decomposed run is a run. -/
theorem exec_eq (h : Sends act p b a p' b' k t) : exec act p b = (.ok (a, p'), b') := by
  induction h with
  | board h => rw [exec_liftM, h]
  | pure a p b => rfl
  | get p b => rfl
  | modify b _ => rfl
  | radio h => rw [exec_onRadio, h]
  | read h => rw [exec_onConsole, h]
  | send h => rw [exec_onConsole, h]
  | take p b => rfl
  | bind _ _ ih₁ ih₂ =>
    rw [exec_bind, ih₁]
    exact ih₂

/-- The count of completed sends is kept: what was taken, and what is left, is what there was
and what completed, the count passing none of its 32 bits. -/
theorem count (h : Sends act p b a p' b' k t) :
    p'.console.sendsDone.toNat + t = p.console.sendsDone.toNat + k := by
  induction h with
  | board _ => rfl
  | pure a p b => rfl
  | get p b => rfl
  | modify b hf => rw [hf]
  | radio _ => rfl
  | read h =>
    obtain ⟨rfl, -⟩ := ConsolePort.exec_process_ok h
    rfl
  | @send data p b b' r c h =>
    obtain ⟨hc, -⟩ := ConsolePort.exec_send_ok h
    rcases hc with ⟨rfl, hn, rfl⟩ | ⟨hr, rfl⟩
    · exact hn
    · -- a send that failed counts nothing
      rcases r with e | ⟨⟩
      · rfl
      · exact absurd rfl hr
  | take p b => simp
  | bind _ _ ih₁ ih₂ => omega

end Sends

/-- Every normal run of the work can be taken apart into such steps, and takes nothing. -/
def Counted {α : Type} (act : PlatformM α) : Prop :=
  ∀ p b a p' b', exec act p b = (.ok (a, p'), b') → ∃ k, Sends act p b a p' b' k 0

namespace Counted

variable {α β : Type}

theorem pure (a : α) : Counted (Pure.pure a : PlatformM α) := by
  intro p b a' p' b' h
  simp only [exec_pure, Prod.mk.injEq, Except.ok.injEq] at h
  obtain ⟨⟨rfl, rfl⟩, rfl⟩ := h
  exact ⟨0, .pure a p b⟩

theorem bind {x : PlatformM α} {f : α → PlatformM β} (hx : Counted x) (hf : ∀ a, Counted (f a)) :
    Counted (x >>= f) := by
  intro p b c p₂ b₂ h
  obtain ⟨a, p₁, b₁, h₁, h₂⟩ := exec_bind_ok h
  obtain ⟨k₁, c₁⟩ := hx p b a p₁ b₁ h₁
  obtain ⟨k₂, c₂⟩ := hf a p₁ b₁ c p₂ b₂ h₂
  exact ⟨k₁ + k₂, c₁.bind c₂⟩

theorem ite (c : Prop) [Decidable c] {x y : PlatformM α} (hx : Counted x) (hy : Counted y) :
    Counted (if c then x else y) := by
  split
  · exact hx
  · exact hy

theorem board (x : BoardM α) : Counted (liftM x : PlatformM α) := by
  intro p b a p' b' h
  obtain ⟨hrun, rfl⟩ := exec_liftM_ok h
  exact ⟨0, .board hrun⟩

theorem get : Counted (MonadState.get : PlatformM Platform) := by
  intro p b a p' b' h
  simp only [exec_get, Prod.mk.injEq, Except.ok.injEq] at h
  obtain ⟨⟨rfl, rfl⟩, rfl⟩ := h
  exact ⟨0, .get p b⟩

theorem modify {f : Platform → Platform} (hf : ∀ p, (f p).console.sendsDone = p.console.sendsDone) :
    Counted (MonadState.modifyGet fun q => (PUnit.unit, f q) : PlatformM PUnit) := by
  intro p b a p' b' h
  simp only [exec_modifyGet, Prod.mk.injEq, Except.ok.injEq] at h
  obtain ⟨⟨-, rfl⟩, rfl⟩ := h
  exact ⟨0, .modify b (hf p)⟩

theorem radio (act : StateT RadioLink BoardM α) : Counted (onRadio act) := by
  intro p b a p' b' h
  obtain ⟨r, hr, rfl⟩ := exec_onRadio_ok h
  exact ⟨0, .radio hr⟩

theorem read (ctx : PollContext) : Counted (onConsole (ConsolePort.process ctx)) := by
  intro p b a p' b' h
  obtain ⟨c, hc, rfl⟩ := exec_onConsole_ok h
  exact ⟨0, .read hc⟩

theorem send (data : List UInt8) : Counted (onConsole (ConsolePort.send data)) := by
  intro p b a p' b' h
  obtain ⟨c, hc, rfl⟩ := exec_onConsole_ok h
  exact ⟨_, .send hc⟩

theorem foldlM {γ : Type} {f : β → γ → PlatformM β} (hf : ∀ x c, Counted (f x c)) :
    ∀ (l : List γ) (init : β), Counted (l.foldlM f init)
  | [], init => pure init
  | c :: l, init => by
    rw [List.foldlM_cons]
    exact bind (hf init c) fun x => foldlM hf l x

end Counted

end Platform

/-- Every normal run of every upcall of the stack but the last one before a pseudo-reset can
be taken apart into steps whose effect on the console's count is known, and takes nothing. -/
structure Stack.CountsSends (σ : Type) [Stack σ] : Prop where
  processTasklets : ∀ s : σ, Platform.Counted (Stack.processTasklets s)
  alarmFired : ∀ s : σ, Platform.Counted (Stack.alarmFired s)
  diagAlarmFired : ∀ s : σ, Platform.Counted (Stack.diagAlarmFired s)
  uartReceived : ∀ (s : σ) (data : List UInt8), Platform.Counted (Stack.uartReceived s data)
  uartSendDone : ∀ s : σ, Platform.Counted (Stack.uartSendDone s)
  framesReceived : ∀ (s : σ) (n : Nat), Platform.Counted (Stack.framesReceived s n)

namespace Platform

/-! ## The platform's passes count their sends -/

variable {σ : Type} [Stack σ]

theorem counted_mainloopUpdate (s : σ) (ctx : PollContext) : Counted (mainloopUpdate s ctx) := by
  unfold mainloopUpdate
  refine Counted.bind Counted.get fun p => Counted.bind (Counted.board _) fun now => ?_
  refine Counted.bind (Counted.foldlM (fun ctx src => Counted.board _) _ _) fun ctx => ?_
  exact Counted.ite _ (Counted.pure _) (Counted.pure _)

theorem counted_processAlarm : Counted processAlarm := by
  unfold processAlarm
  refine Counted.bind Counted.get fun p => Counted.bind (Counted.board _) fun now => ?_
  refine Counted.bind (Counted.modify fun q => rfl) fun _ => ?_
  exact Counted.ite _ (Counted.bind (Counted.board _) fun _ => Counted.pure _) (Counted.pure _)

theorem counted_processSource (i : Nat) : Counted (processSource i) := by
  unfold processSource
  refine Counted.bind Counted.get fun p => ?_
  split
  · exact Counted.pure _
  · refine Counted.bind (Counted.board _) fun r => ?_
    exact Counted.bind (Counted.modify fun q => rfl) fun _ => Counted.pure _

section
variable (hs : Stack.CountsSends σ)
include hs

theorem counted_dispatch (s : σ) (e : PlatformEvent) : Counted (dispatch s e) := by
  cases e with
  | alarmFired => exact Counted.ite _ (hs.diagAlarmFired s) (hs.alarmFired s)
  | uartReceived data => exact hs.uartReceived s data
  | uartSendDone => exact hs.uartSendDone s

theorem counted_deliver (s : σ) (o : Option (List UInt8)) : Counted (deliver s o) := by
  cases o with
  | none => exact Counted.pure s
  | some data => exact counted_dispatch hs s (.uartReceived data)

theorem counted_dispatchSendsDone (n : Nat) (s : σ) : Counted (dispatchSendsDone n s) := by
  induction n generalizing s with
  | zero => exact Counted.pure s
  | succ n ih => exact Counted.bind (counted_dispatch hs s _) fun s => ih s

theorem counted_processHead (s : σ) (ctx : PollContext) : Counted (processHead s ctx) := by
  unfold processHead
  refine Counted.bind Counted.get fun p => Counted.bind (Counted.board _) fun _ => ?_
  exact Counted.bind counted_processAlarm fun fired =>
    Counted.ite _ (counted_dispatch hs s _) (Counted.pure s)

theorem counted_processRest (count : Nat) (s : σ) (ctx : PollContext) :
    Counted (processRest count s ctx) := by
  unfold processRest
  refine Counted.bind (Counted.radio _) fun k => Counted.bind (hs.framesReceived s k) fun s => ?_
  refine Counted.foldlM (fun s i => Counted.bind (counted_processSource i) fun e => ?_) _ _
  split
  · exact counted_dispatch hs s _
  · exact Counted.pure s

end

/-! ## The console's slot -/

/-- The process pass up to the console's take: the wake event and the alarm, then the console's
read with its slice handed to the stack. -/
def beforeTake (s : σ) (ctx : PollContext) : PlatformM σ := do
  let s ← processHead s ctx
  deliver s (← onConsole (ConsolePort.process ctx))

/-- The process pass after the console's take of `n` completions: the stack is told of each,
then the radio and the first `count` extra sources run. -/
def afterTake (count n : Nat) (s : σ) (ctx : PollContext) : PlatformM σ := do
  processRest count (← dispatchSendsDone n s) ctx

theorem mainloopProcess_eq_take (s : σ) (ctx : PollContext) :
    mainloopProcess s ctx = (do
      let count := (← get).sources.length
      let s ← beforeTake s ctx
      let n ← onConsole ConsolePort.takeSendDone
      afterTake count n.toNat s ctx) := by
  rw [mainloopProcess_eq]
  simp only [beforeTake, afterTake, bind_assoc]

section
variable (hs : Stack.CountsSends σ)
include hs

theorem counted_beforeTake (s : σ) (ctx : PollContext) : Counted (beforeTake s ctx) := by
  unfold beforeTake
  exact Counted.bind (counted_processHead hs s ctx) fun s =>
    Counted.bind (Counted.read ctx) fun o => counted_deliver hs s o

theorem counted_afterTake (count n : Nat) (s : σ) (ctx : PollContext) :
    Counted (afterTake count n s ctx) := by
  unfold afterTake
  exact Counted.bind (counted_dispatchSendsDone hs n s) fun s => counted_processRest hs count s ctx

/-- The console's slot takes every completion made before it in the pass, those of the replies
sent while the stack was handed the console's slice among them, and tells the stack of each;
every completion made after it, by sends made while the stack is told or later in the pass,
is left pending. -/
theorem counted_mainloopProcess {s s' : σ} {ctx : PollContext} {p p' : Platform} {b b' : Board}
    (h : exec (mainloopProcess s ctx) p b = (.ok (s', p'), b')) :
    ∃ s₁ p₁ b₁ k₁ k₂, Sends (beforeTake s ctx) p b s₁ p₁ b₁ k₁ 0 ∧
      Sends (afterTake p.sources.length p₁.console.sendsDone.toNat s₁ ctx)
        { p₁ with console := { p₁.console with sendsDone := 0 } } b₁ s' p' b' k₂ 0 ∧
      Sends (mainloopProcess s ctx) p b s' p' b' (k₁ + k₂) p₁.console.sendsDone.toNat ∧
      p₁.console.sendsDone.toNat = p.console.sendsDone.toNat + k₁ ∧ p'.console.sendsDone.toNat = k₂ := by
  rw [mainloopProcess_eq_take, exec_bind, exec_get] at h
  obtain ⟨s₁, p₁, b₁, h₁, h⟩ := exec_bind_ok h
  obtain ⟨n, p₂, b₂, htake, h₂⟩ := exec_bind_ok h
  simp only [exec_onConsole, ConsolePort.exec_takeSendDone, Prod.mk.injEq, Except.ok.injEq] at htake
  obtain ⟨⟨rfl, rfl⟩, rfl⟩ := htake
  obtain ⟨k₁, c₁⟩ := counted_beforeTake hs s ctx p b s₁ p₁ b₁ h₁
  obtain ⟨k₂, c₂⟩ := counted_afterTake hs _ _ s₁ ctx _ _ s' p' b' h₂
  -- the pass is the part before, the take, and the part after
  have hwhole : Sends (mainloopProcess s ctx) p b s' p' b' (k₁ + k₂) p₁.console.sendsDone.toNat := by
    have hseq := Sends.bind (f := fun p₀ : Platform => beforeTake s ctx >>= fun s =>
        onConsole ConsolePort.takeSendDone >>= fun n => afterTake p₀.sources.length n.toNat s ctx) (Sends.get p b)
      (Sends.bind (f := fun s => onConsole ConsolePort.takeSendDone >>= fun n =>
          afterTake p.sources.length n.toNat s ctx) c₁
        (Sends.bind (f := fun n => afterTake p.sources.length n.toNat s₁ ctx) (Sends.take p₁ b₁) c₂))
    simp only [Nat.zero_add, Nat.add_zero] at hseq
    rw [mainloopProcess_eq_take]
    exact hseq
  have h₁count := c₁.count
  have h₂count := c₂.count
  simp only [Nat.add_zero, Nat.zero_add, UInt32.toNat_zero] at h₁count h₂count
  exact ⟨s₁, p₁, b₁, k₁, k₂, c₁, c₂, hwhole, h₁count, h₂count⟩

end

theorem counted_prepare (hs : Stack.CountsSends σ) (s : σ) : Counted (Runner.prepare s) := by
  unfold Runner.prepare
  refine Counted.bind (hs.processTasklets s) fun s => Counted.bind Counted.get fun p => ?_
  refine Counted.bind (counted_mainloopUpdate s _) fun ctx => ?_
  refine Counted.bind (Counted.board _) fun r => ?_
  dsimp only
  split
  · exact Counted.bind (Counted.pure _) fun _ => Counted.pure _
  · exact Counted.ite _ (Counted.bind (Counted.pure _) fun _ => Counted.pure _)
      (Counted.bind (Counted.board _) fun _ => Counted.pure _)

/-- Every normal run of an iteration is counted, with the completions its console's slot took. -/
theorem counted_iteration (hs : Stack.CountsSends σ) {s s' : σ} {p p' : Platform} {b b' : Board}
    (h : exec (Runner.iteration s) p b = (.ok (s', p'), b')) :
    ∃ k t, Sends (Runner.iteration s) p b s' p' b' k t := by
  rw [Runner.iteration_eq] at h
  obtain ⟨⟨s₁, ctx⟩, p₁, b₁, h₁, h₂⟩ := exec_bind_ok h
  obtain ⟨k, c₁⟩ := counted_prepare hs s p b _ p₁ b₁ h₁
  dsimp only at h₂
  obtain ⟨s₂, p₂, b₂, k₁, k₂, -, -, c₂, -, -⟩ := counted_mainloopProcess hs h₂
  have hw := Sends.bind (f := fun sc : σ × PollContext => mainloopProcess sc.1 sc.2) c₁ c₂
  rw [Runner.iteration_eq]
  exact ⟨_, _, hw⟩

/-- An update that finds completions pending asks the wait not to wait. -/
theorem mainloopUpdate_immediate {s : σ} {ctx ctx' : PollContext} {p p' : Platform} {b b' : Board}
    (h : exec (mainloopUpdate s ctx) p b = (.ok (ctx', p'), b')) (hpending : 0 < p.console.sendsDone) :
    ctx'.timeout = Span.zero := by
  unfold mainloopUpdate at h
  obtain ⟨_, p₁, b₁, h₁, h⟩ := exec_bind_ok h
  simp only [exec_get, Prod.mk.injEq, Except.ok.injEq] at h₁
  obtain ⟨⟨rfl, rfl⟩, rfl⟩ := h₁
  obtain ⟨now, p₂, b₂, -, h⟩ := exec_bind_ok h
  obtain ⟨ctx₁, p₃, b₃, -, h⟩ := exec_bind_ok h
  rw [if_pos (by simp [hpending])] at h
  simp only [exec_pure, Prod.mk.injEq, Except.ok.injEq] at h
  obtain ⟨⟨rfl, -⟩, -⟩ := h
  rfl

end Platform

/-! ## The recording stack counts its sends -/

namespace Recorder

open Platform

theorem counted_note (r : Recorder) (t : String) : Counted (r.note t) :=
  Counted.board _

theorem counted_reset : Counted reset := by
  unfold reset
  exact Counted.bind (Counted.board _) fun _ => Counted.board _

theorem counted_received (r : Recorder) (data : List UInt8) : Counted (r.received data) := by
  unfold received
  refine Counted.bind (counted_note r _) fun _ => ?_
  -- the do-block repeats the check for the reset prefix after both branches of the echo
  dsimp only
  split
  · refine Counted.bind (Counted.send data) fun _ => Counted.bind (counted_note r _) fun _ => ?_
    split
    · exact Counted.ite _ (Counted.bind counted_reset fun _ => Counted.bind (counted_note r _) fun _ =>
        Counted.pure r) (Counted.pure r)
    · exact Counted.pure r
  · split
    · exact Counted.ite _ (Counted.bind counted_reset fun _ => Counted.bind (counted_note r _) fun _ =>
        Counted.pure r) (Counted.pure r)
    · exact Counted.pure r

theorem counted_sendDone (r : Recorder) : Counted r.sendDone := by
  unfold sendDone
  refine Counted.bind (counted_note r _) fun _ => ?_
  exact Counted.ite _ (Counted.bind (Counted.send _) fun _ => Counted.bind (counted_note r _) fun _ =>
    Counted.pure _) (Counted.pure r)

/-- Every upcall of the recording stack is counted: its echoes and its answers to completions
are console sends, and the rest is notes, the clock and the reset request. -/
theorem countsSends : Stack.CountsSends Recorder where
  processTasklets r := Counted.bind (counted_note r _) fun _ => Counted.pure _
  alarmFired r := Counted.bind (Counted.board _) fun _ => Counted.bind (counted_note r _) fun _ => Counted.pure r
  diagAlarmFired r := Counted.bind (Counted.board _) fun _ => Counted.bind (counted_note r _) fun _ =>
    Counted.pure r
  uartReceived := counted_received
  uartSendDone := counted_sendDone
  framesReceived r _ := Counted.bind (Counted.board _) fun _ => Counted.pure r

end Recorder

namespace Platform

variable {σ : Type} [Stack σ]

/-- Send-done accounting. Along every counted run, the completions the console's slots took
and told the stack of, plus the count left pending, are the count before plus the console sends
that completed; a send that failed adds nothing. In each process pass the console's slot takes
every completion made before it, the replies to the console's slice among them, and every
completion made after it stays pending for the next pass. Every iteration of the runner is
counted, and an update that finds completions pending asks the wait not to wait. -/
theorem send_done_accounting (hs : Stack.CountsSends σ) :
    (∀ {α : Type} {act : PlatformM α} {p p' : Platform} {b b' : Board} {a : α} {k t : Nat},
      Sends act p b a p' b' k t → p'.console.sendsDone.toNat + t = p.console.sendsDone.toNat + k) ∧
    (∀ (data : List UInt8) (e : ThreadError) (p p' : Platform) (b b' : Board),
      exec (onConsole (ConsolePort.send data)) p b = (.ok (.error e, p'), b') →
        p'.console.sendsDone = p.console.sendsDone) ∧
    (∀ (s s' : σ) (ctx : PollContext) (p p' : Platform) (b b' : Board),
      exec (mainloopProcess s ctx) p b = (.ok (s', p'), b') →
      ∃ s₁ p₁ b₁ k₁ k₂, Sends (beforeTake s ctx) p b s₁ p₁ b₁ k₁ 0 ∧
        Sends (afterTake p.sources.length p₁.console.sendsDone.toNat s₁ ctx)
          { p₁ with console := { p₁.console with sendsDone := 0 } } b₁ s' p' b' k₂ 0 ∧
        p₁.console.sendsDone.toNat = p.console.sendsDone.toNat + k₁ ∧ p'.console.sendsDone.toNat = k₂) ∧
    (∀ (s s' : σ) (p p' : Platform) (b b' : Board),
      exec (Runner.iteration s) p b = (.ok (s', p'), b') → ∃ k t, Sends (Runner.iteration s) p b s' p' b' k t) ∧
    (∀ (s : σ) (ctx ctx' : PollContext) (p p' : Platform) (b b' : Board),
      exec (mainloopUpdate s ctx) p b = (.ok (ctx', p'), b') → 0 < p.console.sendsDone →
        ctx'.timeout = Span.zero) := by
  refine ⟨fun h => h.count, fun data e p p' b b' h => ?_, fun s s' ctx p p' b b' h => ?_,
    fun s s' p p' b b' h => counted_iteration hs h, fun s ctx ctx' p p' b b' h => mainloopUpdate_immediate h⟩
  · obtain ⟨c, hc, rfl⟩ := exec_onConsole_ok h
    obtain ⟨⟨hr, -, -⟩ | ⟨-, rfl⟩, -⟩ := ConsolePort.exec_send_ok hc
    · cases hr
    · rfl
  · obtain ⟨s₁, p₁, b₁, k₁, k₂, c₁, c₂, -, h₁, h₂⟩ := counted_mainloopProcess hs h
    exact ⟨s₁, p₁, b₁, k₁, k₂, c₁, c₂, h₁, h₂⟩

set_option maxRecDepth 4000 in
/-- On the standard board, once the console is up, a send of `ok` completes; the next iteration
of a recording stack tells the stack of it once and leaves nothing pending, and its run is
counted. -/
theorem send_done_told_once :
    let b₀ := Board.new PlatformParams.standard
    let p₀ := Platform.build b₀ PlatformParams.standard
    let r₀ : Recorder :=
      { tag := "", tasklets := false, diag := false, echo := false, sendOnDone := 0, resetOn := none }
    ∃ c b p₁ b₁ p₂ b₂, exec ConsolePort.init p₀.console b₀ = (.ok (.ok (), c), b) ∧
      exec (onConsole (ConsolePort.send [0x6F, 0x6B])) { p₀ with console := c } b = (.ok (.ok (), p₁), b₁) ∧
      exec (Runner.iteration r₀) p₁ b₁ = (.ok (r₀, p₂), b₂) ∧
      p₁.console.sendsDone = 1 ∧ p₂.console.sendsDone = 0 ∧ b₂.trace = #["tasklets", "send-done"] ∧
      ∃ k t, Sends (Runner.iteration r₀) p₁ b₁ r₀ p₂ b₂ k t ∧
        p₂.console.sendsDone.toNat + t = p₁.console.sendsDone.toNat + k := by
  intro b₀ p₀ r₀
  let f : Fd := ⟨3, by decide⟩
  let c₁ : ConsolePort := { p₀.console with fd := some f }
  let b₁ := (exec ConsolePort.init p₀.console b₀).2
  let pUp : Platform := { p₀ with console := c₁ }
  let pSent : Platform := { p₀ with console := { c₁ with sendsDone := 1 } }
  let b₂ := (exec (onConsole (ConsolePort.send [0x6F, 0x6B])) pUp b₁).2
  let ctx : PollContext := ⟨⟨0⟩, ⟨0⟩, ⟨0⟩, some f, ⟨0⟩⟩
  let b₃ := (exec (Runner.prepare r₀) pSent b₂).2
  let b₄ := (exec (mainloopProcess r₀ ctx) pSent b₃).2
  have hinit : exec ConsolePort.init p₀.console b₀ = (.ok (.ok (), c₁), b₁) := rfl
  have hsend : exec (onConsole (ConsolePort.send [0x6F, 0x6B])) pUp b₁ = (.ok (.ok (), pSent), b₂) := by
    dsimp only [b₂, b₁, pSent, pUp, c₁, f, p₀, b₀]
    rfl
  -- the update finds the send pending, so the wait does not wait, and the slot tells it
  have hprep : exec (Runner.prepare r₀) pSent b₂ = (.ok ((r₀, ctx), pSent), b₃) := by
    dsimp only [b₃, b₂, b₁, pSent, pUp, ctx, c₁, f, r₀, p₀, b₀]
    rfl
  have hproc : exec (mainloopProcess r₀ ctx) pSent b₃ = (.ok (r₀, pUp), b₄) := by
    dsimp only [b₄, b₃, b₂, b₁, pSent, pUp, ctx, c₁, f, r₀, p₀, b₀]
    rfl
  have hiter : exec (Runner.iteration r₀) pSent b₂ = (.ok (r₀, pUp), b₄) := by
    rw [Runner.iteration_eq, exec_bind, hprep]
    exact hproc
  have htrace : b₄.trace = #["tasklets", "send-done"] := by
    dsimp only [b₄, b₃, b₂, b₁, pSent, pUp, ctx, c₁, f, r₀, p₀, b₀]
    rfl
  obtain ⟨k, t, hc⟩ := (send_done_accounting Recorder.countsSends).2.2.2.1 r₀ r₀ pSent pUp b₂ b₄ hiter
  exact ⟨c₁, b₁, pSent, b₂, pUp, b₄, hinit, hsend, hiter, rfl, rfl, htrace, k, t, hc,
    (send_done_accounting Recorder.countsSends).1 hc⟩

/-- The stack may be told of a completion that no send made: with an extra source whose event
is a completion, an iteration in which no console send completed and the console's slot took
nothing tells the recording stack of one. -/
theorem source_send_done_uncounted :
    let b₀ := Board.new PlatformParams.standard
    let p₀ := Platform.build b₀ PlatformParams.standard
    let r₀ : Recorder :=
      { tag := "", tasklets := false, diag := false, echo := false, sendOnDone := 0, resetOn := none }
    let src : ScriptedSource := ⟨"x", none, some .uartSendDone, false, false⟩
    ∃ c b p' b', exec ConsolePort.init p₀.console b₀ = (.ok (.ok (), c), b) ∧
      Sends (Runner.iteration r₀) { p₀ with console := c, sources := [src] } b r₀ p' b' 0 0 ∧
      b'.trace = #["tasklets", "update:x", "process:x", "send-done"] := by
  intro b₀ p₀ r₀ src
  let f : Fd := ⟨3, by decide⟩
  let c₁ : ConsolePort := { p₀.console with fd := some f }
  let b₁ := (exec ConsolePort.init p₀.console b₀).2
  let p₁ : Platform := { p₀ with console := c₁, sources := [src] }
  let p₂ : Platform := { p₁ with sources := [{ src with spent := true }] }
  let ctx : PollContext := ⟨⟨0⟩, ⟨0⟩, ⟨0⟩, some f, ⟨10000000000⟩⟩
  let b₂ := (exec (Runner.prepare r₀) p₁ b₁).2
  let b₃ := (exec (beforeTake r₀ ctx) p₁ b₂).2
  let b₄ := (exec (mainloopProcess r₀ ctx) p₁ b₂).2
  have hinit : exec ConsolePort.init p₀.console b₀ = (.ok (.ok (), c₁), b₁) := rfl
  have hprep : exec (Runner.prepare r₀) p₁ b₁ = (.ok ((r₀, ctx), p₁), b₂) := by
    dsimp only [b₂, b₁, p₁, c₁, ctx, f, src, r₀, p₀, b₀]
    rfl
  have hbefore : exec (beforeTake r₀ ctx) p₁ b₂ = (.ok (r₀, p₁), b₃) := by
    dsimp only [b₃, b₂, b₁, p₁, c₁, ctx, f, src, r₀, p₀, b₀]
    rfl
  have hproc : exec (mainloopProcess r₀ ctx) p₁ b₂ = (.ok (r₀, p₂), b₄) := by
    dsimp only [b₄, b₂, b₁, p₂, p₁, c₁, ctx, f, src, r₀, p₀, b₀]
    rfl
  have htrace : b₄.trace = #["tasklets", "update:x", "process:x", "send-done"] := by
    dsimp only [b₄, b₂, b₁, p₂, p₁, c₁, ctx, f, src, r₀, p₀, b₀]
    rfl
  -- nothing is pending before the slot or after the pass, so every piece counts nothing
  obtain ⟨k₀, c₀⟩ := counted_prepare Recorder.countsSends r₀ p₁ b₁ (r₀, ctx) p₁ b₂ hprep
  obtain ⟨s₁, q₁, d₁, k₁, k₂, cb, -, c₂, h₁, h₂⟩ := counted_mainloopProcess Recorder.countsSends hproc
  have hq₁ : q₁ = p₁ := by
    have hrun := cb.exec_eq
    rw [hbefore, Prod.mk.injEq, Except.ok.injEq, Prod.mk.injEq] at hrun
    exact hrun.1.2.symm
  subst hq₁
  have hzero : p₁.console.sendsDone = 0 := rfl
  have hk₀ := c₀.count
  have hk₂ : p₂.console.sendsDone = 0 := rfl
  rw [hzero] at h₁ hk₀
  rw [hk₂] at h₂
  have hw := Sends.bind (f := fun sc : Recorder × PollContext => mainloopProcess sc.1 sc.2) c₀ c₂
  rw [hzero, ← h₂, show k₁ = 0 by omega, show k₀ = 0 by omega] at hw
  rw [← Runner.iteration_eq] at hw
  exact ⟨c₁, b₁, p₂, b₄, hinit, hw, htrace⟩

end Platform

end ThreadPlatform
