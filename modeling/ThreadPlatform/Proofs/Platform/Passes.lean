import ThreadPlatform.Proofs.Platform.Iteration
import ThreadPlatform.Proofs.Machine.Ring
/-!
# What the passes of an iteration do

Each source's pass changes little: the wake event's and the radio link's passes read through
their own descriptor (`Machine.OnlyThrough`), the alarm's stops the alarm and logs, the extra
sources note their passes in the trace and mark their events spent, and `mainloopUpdate` only
notes. This module states that once per pass, and derives from it the rule a frame needs: if
a frame allows each of these changes (`Platform.Admits`) and every upcall of the stack keeps
it (`Stack.Keeps`), then the preparation of an iteration and every part of its process pass
but the console's read keep it (`Runner.keeps_prepare`, `Platform.keeps_processHead`,
`Platform.keeps_deliver`, `Platform.keeps_dispatchSendsDone`, `Platform.keeps_processRest`).
A frame that also allows the console's read is kept by the whole process pass and by a whole
iteration (`Platform.keeps_mainloopProcess`, `Runner.keeps_iteration`).
-/

namespace ThreadPlatform

open Board

section Runs
variable {σ : Type} (s : σ) (b : Board)

@[simp] theorem Board.exec_note (t : String) :
    exec (liftM (Board.note t) : StateT σ BoardM Unit) s b = (.ok ((), s), { b with trace := b.trace.push t }) :=
  rfl

@[simp] theorem Board.exec_log (l : Level) (t : String) :
    exec (liftM (Board.log l t) : StateT σ BoardM Unit) s b =
      (.ok ((), s), { b with machine := { b.machine with journal := b.machine.journal.push ⟨l, t⟩ } }) :=
  rfl

@[simp] theorem Platform.exec_alarmNow (p : Platform) : exec Platform.alarmNow p b = (.ok (b.clock.nowMillis, p), b) :=
  rfl

theorem ScriptedSource.run_update (src : ScriptedSource) (ctx : PollContext) :
    ∃ c, (src.update ctx).run.run b = (.ok c, { b with trace := b.trace.push s!"update:{src.name}" }) :=
  ⟨_, rfl⟩

theorem ScriptedSource.run_process (src : ScriptedSource) :
    ∃ r, src.process.run.run b = (.ok r, { b with trace := b.trace.push s!"process:{src.name}" }) := by
  unfold ScriptedSource.process
  rcases src.emit with _ | e
  · exact ⟨_, rfl⟩
  · by_cases h : (src.every || !src.spent) = true
    · exact ⟨_, by simp only [h, if_true]; rfl⟩
    · exact ⟨_, by simp only [h, Bool.false_eq_true, if_false]; rfl⟩

end Runs

namespace Machine

/-- The wake event's pass reads through the wake descriptor only. -/
theorem onlyThrough_wakeProcess (w : WakeSource) (ctx : PollContext) (m : Machine) :
    OnlyThrough w.fd m ((w.process ctx).run m).2 := by
  show Holds (w.process ctx) (fun _ m' => OnlyThrough w.fd m m') m
  unfold WakeSource.process
  rcases w.fd with _ | fd
  · exact .refl _ m
  · dsimp only
    split
    · simp only [holds_bind]
      have hread := onlyThrough_readFd fd 0 m
      unfold Holds
      dsimp only
      split <;> exact hread.trans (.of_eq rfl rfl)
    · exact .refl _ m

end Machine

/-! ## The radio link's pass -/

namespace RadioLink

/-- Link work that kept the link's descriptor and device, and changed the board only in its
machine, and that only through the descriptor `fd`. -/
def through (fd : Fd) : Frame RadioLink where
  holds r b r' b' := r'.fd = r.fd ∧ r'.device = r.device ∧
    ∃ m, b' = { b with machine := m } ∧ Machine.OnlyThrough (some fd) b.machine m
  refl r b := ⟨rfl, rfl, b.machine, rfl, .refl _ _⟩
  trans := by
    rintro r₁ r₂ r₃ b₁ b₂ b₃ ⟨hf₁, hd₁, m₂, rfl, hm₁⟩ ⟨hf₂, hd₂, m₃, rfl, hm₂⟩
    exact ⟨hf₂.trans hf₁, hd₂.trans hd₁, m₃, rfl, hm₁.trans hm₂⟩

theorem keeps_log (fd : Fd) (l : Level) (t : String) : Keeps (through fd) (liftM (Board.log l t)) :=
  Keeps.liftM fun r b _ b' h => by
    cases h
    exact ⟨rfl, rfl, _, rfl, .of_eq rfl rfl⟩

theorem keeps_settleOutcome (fd : Fd) (o : Hdlc.Outcome) : Keeps (through fd) (settleOutcome o) := by
  unfold settleOutcome
  -- settling queues or counts the outcome and logs
  have hq : ∀ f : RadioLink → RadioLink, (∀ r, (f r).fd = r.fd ∧ (f r).device = r.device) →
      Keeps (through fd) (modify f) := fun f hf =>
    Keeps.modify fun r b => ⟨(hf r).1, (hf r).2, b.machine, rfl, .refl _ _⟩
  cases o with
  | ok frame =>
    exact Keeps.bind (keeps_log fd _ _) fun _ => Keeps.bind Keeps.get fun _ =>
      Keeps.bind (Keeps.increment _ _) fun _ => Keeps.bind (hq _ fun _ => ⟨rfl, rfl⟩) fun _ => Keeps.pure _
  | error e =>
    exact Keeps.bind Keeps.get fun _ => Keeps.bind (Keeps.increment _ _) fun _ =>
      Keeps.bind (hq _ fun _ => ⟨rfl, rfl⟩) fun _ => Keeps.bind (keeps_log fd _ _) fun _ => Keeps.pure _

theorem keeps_readAndDecode (fd : Fd) : Keeps (through fd) (readAndDecode fd) := by
  unfold readAndDecode
  refine Keeps.bind (Keeps.liftM fun r b _ b' h => ?_) fun res => ?_
  · cases h
    exact ⟨rfl, rfl, _, rfl, Machine.onlyThrough_readFd fd _ b.machine⟩
  · split
    · exact Keeps.pure _
    · split
      · exact Keeps.pure _
      · exact Keeps.fatal _
    · -- the decoder is replaced in the link the pass started from
      refine Keeps.get_bind fun r b k r' b' h => ?_
      obtain ⟨_, r₁, b₁, h₁, h⟩ := exec_bind_ok h
      simp only [exec_set, Prod.mk.injEq, Except.ok.injEq] at h₁
      obtain ⟨⟨-, rfl⟩, rfl⟩ := h₁
      have hsettle := Keeps.foldlM (fun n o => Keeps.bind (keeps_settleOutcome fd o) fun _ => Keeps.pure _)
        _ _ _ _ _ _ _ h
      exact (through fd).trans ⟨rfl, rfl, b.machine, rfl, .refl _ _⟩ hsettle

/-- The link's pass keeps its descriptor and device, and reads through that descriptor only. -/
theorem exec_process_ok {ctx : PollContext} {r r' : RadioLink} {b b' : Board} {k : Nat}
    (h : Board.exec (process ctx) r b = (.ok (k, r'), b')) :
    r'.fd = r.fd ∧ r'.device = r.device ∧ ∃ m, b' = { b with machine := m } ∧ Machine.OnlyThrough r.fd b.machine m := by
  unfold process at h
  obtain ⟨_, r₁, b₁, h₁, h⟩ := exec_bind_ok h
  simp only [exec_get, Prod.mk.injEq, Except.ok.injEq] at h₁
  obtain ⟨⟨rfl, rfl⟩, rfl⟩ := h₁
  split at h
  · rename_i fd hfd
    split at h
    · simp only [exec_pure, Prod.mk.injEq, Except.ok.injEq] at h
      obtain ⟨⟨-, rfl⟩, rfl⟩ := h
      exact ⟨rfl, rfl, b.machine, rfl, .refl _ _⟩
    · obtain ⟨hf, hd, m, hb, hm⟩ := Keeps.bind (keeps_log fd _ _) (fun _ => keeps_readAndDecode fd) r b k r' b' h
      exact ⟨hf, hd, m, hb, hfd ▸ hm⟩
  · simp only [exec_pure, Prod.mk.injEq, Except.ok.injEq] at h
    obtain ⟨⟨-, rfl⟩, rfl⟩ := h
    exact ⟨rfl, rfl, b.machine, rfl, .refl _ _⟩

end RadioLink

/-! ## The console's read -/

/-- The console's read keeps the port, and reads through its descriptor only. -/
theorem ConsolePort.exec_process_ok {ctx : PollContext} {c c' : ConsolePort} {b b' : Board}
    {o : Option (List UInt8)} (h : exec (process ctx) c b = (.ok (o, c'), b')) :
    c' = c ∧ ∃ m, b' = { b with machine := m } ∧ Machine.OnlyThrough c.fd b.machine m := by
  unfold process at h
  obtain ⟨_, c₁, b₁, h₁, h⟩ := exec_bind_ok h
  simp only [exec_get, Prod.mk.injEq, Except.ok.injEq] at h₁
  obtain ⟨⟨rfl, rfl⟩, rfl⟩ := h₁
  split at h
  · rename_i fd hfd
    rw [hfd]
    split at h
    · simp only [exec_pure, Prod.mk.injEq, Except.ok.injEq] at h
      obtain ⟨⟨-, rfl⟩, rfl⟩ := h
      exact ⟨rfl, b.machine, rfl, .refl _ _⟩
    · obtain ⟨res, c₂, b₂, h₂, h⟩ := exec_bind_ok h
      simp only [exec_onMachine, Prod.mk.injEq, Except.ok.injEq] at h₂
      obtain ⟨⟨rfl, rfl⟩, rfl⟩ := h₂
      have hread := Machine.onlyThrough_readFd fd readSize b.machine
      -- whatever the read answered, the pass only hands it out or stops
      split at h
      · dsimp only at h
        split at h <;>
        · simp only [exec_pure, Prod.mk.injEq, Except.ok.injEq] at h
          obtain ⟨⟨-, rfl⟩, rfl⟩ := h
          exact ⟨rfl, _, rfl, hread⟩
      · simp only [exec_pure, Prod.mk.injEq, Except.ok.injEq] at h
        obtain ⟨⟨-, rfl⟩, rfl⟩ := h
        exact ⟨rfl, _, rfl, hread⟩
      · split at h
        · simp only [exec_pure, Prod.mk.injEq, Except.ok.injEq] at h
          obtain ⟨⟨-, rfl⟩, rfl⟩ := h
          exact ⟨rfl, _, rfl, hread⟩
        · exact absurd h (exec_fatal_ne _ _)
  · simp only [exec_pure, Prod.mk.injEq, Except.ok.injEq] at h
    obtain ⟨⟨-, rfl⟩, rfl⟩ := h
    exact ⟨rfl, b.machine, rfl, .refl _ _⟩

@[simp] theorem ConsolePort.exec_takeSendDone (c : ConsolePort) (b : Board) :
    exec takeSendDone c b = (.ok (c.sendsDone, { c with sendsDone := 0 }), b) :=
  rfl

/-! ## Frames the passes keep -/

/-- What a frame must allow for the platform's own passes to keep it: notes in the trace and
records in the log, the waits of `select`, the wake event's and the radio link's passes, the
alarm stopping, the extra sources marking their events spent, and the count of completed
console sends being taken. -/
structure Platform.Admits (F : Frame Platform) : Prop where
  trace : ∀ p b t, F.holds p b p { b with trace := t }
  journal : ∀ p b j, F.holds p b p { b with machine := { b.machine with journal := j } }
  select : ∀ p b ctx, F.holds p b p { b with machine := ((Machine.select ctx).run b.machine).2 }
  wake : ∀ p b m, Machine.OnlyThrough p.wake.fd b.machine m → F.holds p b p { b with machine := m }
  radio : ∀ p b r m, r.fd = p.radio.fd → r.device = p.radio.device →
    Machine.OnlyThrough p.radio.fd b.machine m → F.holds p b { p with radio := r } { b with machine := m }
  alarm : ∀ p b a, F.holds p b { p with alarm := a } b
  sources : ∀ p b l, F.holds p b { p with sources := l } b
  sendsDone : ∀ p b n, F.holds p b { p with console := { p.console with sendsDone := n } } b

/-- Every upcall of the stack but the last one before a pseudo-reset, run from any state,
keeps the frame `F`. -/
structure Stack.Keeps (F : Frame Platform) (σ : Type) [Stack σ] : Prop where
  processTasklets : ∀ s : σ, Board.Keeps F (Stack.processTasklets s)
  alarmFired : ∀ s : σ, Board.Keeps F (Stack.alarmFired s)
  diagAlarmFired : ∀ s : σ, Board.Keeps F (Stack.diagAlarmFired s)
  uartReceived : ∀ (s : σ) (data : List UInt8), Board.Keeps F (Stack.uartReceived s data)
  uartSendDone : ∀ s : σ, Board.Keeps F (Stack.uartSendDone s)
  framesReceived : ∀ (s : σ) (n : Nat), Board.Keeps F (Stack.framesReceived s n)

namespace Platform

variable {σ : Type} [Stack σ] {F : Frame Platform}

section
variable (hF : Admits F)
include hF

theorem Admits.keeps_note (t : String) : Keeps F (liftM (Board.note t) : PlatformM Unit) :=
  Keeps.liftM fun p b _ b' h => by
    cases h
    exact hF.trace p b _

theorem Admits.keeps_log (l : Level) (t : String) : Keeps F (liftM (Board.log l t) : PlatformM Unit) :=
  Keeps.liftM fun p b _ b' h => by
    cases h
    exact hF.journal p b _

theorem keeps_mainloopUpdate (s : σ) (ctx : PollContext) : Keeps F (mainloopUpdate s ctx) := by
  unfold mainloopUpdate
  refine Keeps.bind Keeps.get fun p => Keeps.bind (Keeps.liftM fun q b _ b' h => ?_) fun now => ?_
  · cases h
    exact F.refl q b
  · refine Keeps.bind (Keeps.foldlM (fun ctx src => Keeps.liftM fun q b _ b' h => ?_) _ _) fun ctx => ?_
    · obtain ⟨c, hc⟩ := ScriptedSource.run_update b src ctx
      rw [hc] at h
      cases h
      exact hF.trace q b _
    · exact Keeps.ite _ (Keeps.pure _) (Keeps.pure _)

theorem keeps_mainloopPoll (ctx : PollContext) : Keeps F (mainloopPoll ctx) :=
  Keeps.liftM fun p b _ b' h => by
    cases h
    exact hF.select p b ctx

theorem keeps_processAlarm : Keeps F processAlarm := by
  unfold processAlarm
  refine Keeps.bind Keeps.get fun p => Keeps.bind (Keeps.liftM fun q b _ b' h => ?_) fun now => ?_
  · cases h
    exact F.refl q b
  · refine Keeps.bind (Keeps.modify fun q b => hF.alarm q b _) fun _ => ?_
    exact Keeps.ite _ (Keeps.bind (hF.keeps_log _ _) fun _ => Keeps.pure _) (Keeps.pure _)

theorem keeps_processSource (i : Nat) : Keeps F (processSource i) := by
  unfold processSource
  refine Keeps.bind Keeps.get fun p => ?_
  split
  · exact Keeps.pure _
  · rename_i src _
    refine Keeps.bind (Keeps.liftM fun q b _ b' h => ?_) fun r => ?_
    · obtain ⟨c, hc⟩ := ScriptedSource.run_process b src
      rw [hc] at h
      cases h
      exact hF.trace q b _
    · exact Keeps.bind (Keeps.modify fun q b => hF.sources q b _) fun _ => Keeps.pure _

theorem keeps_takeSendDone : Keeps F (onConsole ConsolePort.takeSendDone) :=
  keeps_onConsole fun p b _ c b' h => by
    simp only [ConsolePort.exec_takeSendDone, Prod.mk.injEq, Except.ok.injEq] at h
    obtain ⟨⟨-, rfl⟩, rfl⟩ := h
    exact hF.sendsDone p b 0

end

section
variable (hs : Stack.Keeps F σ)
include hs

theorem keeps_dispatch (s : σ) (e : PlatformEvent) : Keeps F (dispatch s e) := by
  cases e with
  | alarmFired =>
    exact Keeps.ite _ (hs.diagAlarmFired s) (hs.alarmFired s)
  | uartReceived data => exact hs.uartReceived s data
  | uartSendDone => exact hs.uartSendDone s

theorem keeps_deliver (s : σ) (o : Option (List UInt8)) : Keeps F (deliver s o) := by
  cases o with
  | none => exact Keeps.pure s
  | some data => exact keeps_dispatch hs s (.uartReceived data)

theorem keeps_dispatchSendsDone (n : Nat) (s : σ) : Keeps F (dispatchSendsDone n s) := by
  induction n generalizing s with
  | zero => exact Keeps.pure s
  | succ n ih => exact Keeps.bind (keeps_dispatch hs s _) fun s => ih s

end

section
variable (hF : Admits F) (hs : Stack.Keeps F σ)
include hF hs

theorem keeps_processHead (s : σ) (ctx : PollContext) : Keeps F (processHead s ctx) := by
  intro p b s' p' b' h
  unfold processHead at h
  -- the wake pass runs on the wake source of the state it starts from
  obtain ⟨_, p₁, b₁, h₁, h⟩ := exec_bind_ok h
  simp only [exec_get, Prod.mk.injEq, Except.ok.injEq] at h₁
  obtain ⟨⟨rfl, rfl⟩, rfl⟩ := h₁
  obtain ⟨_, p₂, b₂, h₂, h⟩ := exec_bind_ok h
  simp only [exec_onMachine, Prod.mk.injEq, Except.ok.injEq] at h₂
  obtain ⟨⟨-, rfl⟩, rfl⟩ := h₂
  have hwake := hF.wake p b _ (Machine.onlyThrough_wakeProcess p.wake ctx b.machine)
  refine F.trans hwake ?_
  exact Keeps.bind (keeps_processAlarm hF) (fun fired => Keeps.ite _ (keeps_dispatch hs s _) (Keeps.pure s))
    _ _ _ _ _ h

theorem keeps_processRest (count : Nat) (s : σ) (ctx : PollContext) :
    Keeps F (processRest count s ctx) := by
  unfold processRest
  refine Keeps.bind (keeps_onRadio fun p b k r b' h => ?_) fun k => ?_
  · obtain ⟨hfd, hdev, m, rfl, hm⟩ := RadioLink.exec_process_ok h
    exact hF.radio p b r m hfd hdev hm
  · refine Keeps.bind (hs.framesReceived s k) fun s => ?_
    refine Keeps.foldlM (fun s i => Keeps.bind (keeps_processSource hF i) fun e => ?_) _ _
    split
    · exact keeps_dispatch hs s _
    · exact Keeps.pure s

/-- The process pass keeps a frame that its parts keep and that allows the console's read. -/
theorem keeps_mainloopProcess
    (hread : ∀ p b m, Machine.OnlyThrough p.console.fd b.machine m → F.holds p b p { b with machine := m })
    (s : σ) (ctx : PollContext) : Keeps F (mainloopProcess s ctx) := by
  rw [mainloopProcess_eq]
  refine Keeps.bind Keeps.get fun p₀ => Keeps.bind (keeps_processHead hF hs s ctx) fun s => ?_
  refine Keeps.bind (keeps_onConsole fun p b o c b' h => ?_) fun o => ?_
  · obtain ⟨rfl, m, rfl, hm⟩ := ConsolePort.exec_process_ok h
    exact hread p b m hm
  refine Keeps.bind (keeps_deliver hs s o) fun s => ?_
  refine Keeps.bind (keeps_takeSendDone hF) fun n => ?_
  exact Keeps.bind (keeps_dispatchSendsDone hs n.toNat s) fun s => keeps_processRest hF hs _ s ctx

end

end Platform

namespace Runner

open Platform

variable {σ : Type} [Stack σ] {F : Frame Platform}

theorem keeps_prepare (hF : Admits F) (hs : Stack.Keeps F σ) (s : σ) : Keeps F (prepare s) := by
  unfold prepare
  refine Keeps.bind (hs.processTasklets s) fun s => Keeps.bind Keeps.get fun p => ?_
  refine Keeps.bind (keeps_mainloopUpdate hF s _) fun ctx => ?_
  refine Keeps.bind (keeps_mainloopPoll hF ctx) fun r => ?_
  dsimp only
  split
  · exact Keeps.bind (Keeps.pure _) fun _ => Keeps.pure _
  · exact Keeps.ite _ (Keeps.bind (Keeps.pure _) fun _ => Keeps.pure _)
      (Keeps.bind (Keeps.fatal _) fun _ => Keeps.pure _)

/-- A whole iteration keeps a frame that the platform's passes and the stack keep and that allows
the console's read. -/
theorem keeps_iteration (hF : Admits F) (hs : Stack.Keeps F σ)
    (hread : ∀ p b m, Machine.OnlyThrough p.console.fd b.machine m → F.holds p b p { b with machine := m })
    (s : σ) : Keeps F (iteration s) := by
  rw [iteration_eq]
  exact Keeps.bind (keeps_prepare hF hs s) fun sc => keeps_mainloopProcess hF hs hread sc.1 sc.2

end Runner

end ThreadPlatform
