import ThreadPlatform.Proofs.Platform.Console
import ThreadPlatform.Stack.Recorder
/-!
# Console input is conserved

What arrives on the console's UART reaches the stack through one place: the console's read in
the process pass, which takes at most `ConsolePort.readSize` octets from the front of the
receive ring and hands them to `uartReceived`. This module follows the ring along a run.

* `Platform.inputKept`: what the rest of an iteration keeps while the console is up
  (`Platform.ConsoleUp`): the descriptors of the console, the radio link and the wake event,
  and every octet of the console's ring. The platform's own passes admit it
  (`Platform.admits_inputKept`), and so do the console's sends (`Platform.keeps_send`) and every
  upcall of the recording stack (`Recorder.keeps_inputKept`).
* `Platform.InputRun`: iterations interleaved with the wire side, indexed by what the receive
  calls accepted, between iterations or while one waited (`Platform.IterationAccepted`, one
  stream for each iteration), and by the slices the console's reads handed out;
  `Platform.console_input_conserved` is the conservation law over such runs.

Other calls of `uartReceived`, such as those for the events of the extra sources, are not the
console's reads, and their octets are not among the slices (`Platform.source_event_bypasses_console`).
-/

namespace ThreadPlatform

open Board

/-- A table with one descriptor names its device there only. -/
theorem DescriptorTable.slot_single_iff (f g : Fd) (id : DeviceId) :
    (DescriptorTable.empty.insert f id).slot g = some id ↔ g = f := by
  simp [DescriptorTable.insert, DescriptorTable.empty]

namespace Platform

/-! ## The console while it is up -/

/-- The console is up on the board: its descriptor is open and is the only one naming its
device, which is a UART, and neither the radio link nor the wake event holds it. -/
structure ConsoleUp (p : Platform) (b : Board) : Prop where
  fd : ∃ f, p.console.fd = some f ∧ ∀ g, b.machine.table.slot g = some p.console.device ↔ g = f
  uart : ∃ u, b.machine.uartAt p.console.device = some u
  radio : p.radio.fd ≠ p.console.fd
  wake : p.wake.fd ≠ p.console.fd

/-- Work through a descriptor other than the console's keeps every octet of its ring. -/
theorem ConsoleUp.gainFrame {p : Platform} {b : Board} {fd : Option Fd} {m : Machine} (hup : ConsoleUp p b)
    (hfd : fd ≠ p.console.fd) (h : Machine.OnlyThrough fd b.machine m) :
    Machine.GainFrame p.console.device [] b.machine m :=
  h.gainFrame fun g hg hslot => by
    obtain ⟨f, hf, hiff⟩ := hup.fd
    rw [hg, hf, (hiff g).1 hslot] at hfd
    exact hfd rfl

/-- From `(p, b)` to `(p', b')` the descriptors of the console, the radio link and the wake
event stayed, and so did the console's device, whose ring lost nothing; the receive calls
meanwhile accepted `X`. -/
structure InputKept (p : Platform) (b : Board) (p' : Platform) (b' : Board) (X : List UInt8) : Prop where
  consoleFd : p'.console.fd = p.console.fd
  device : p'.console.device = p.console.device
  radioFd : p'.radio.fd = p.radio.fd
  wakeFd : p'.wake.fd = p.wake.fd
  gain : Machine.GainFrame p.console.device X b.machine b'.machine

namespace InputKept

variable {p p₁ p₂ p₃ : Platform} {b b₁ b₂ b₃ : Board} {X Y : List UInt8}

/-- The board changed, the platform did not. -/
theorem of_machine (h : Machine.GainFrame p.console.device X b.machine b'.machine) : InputKept p b p b' X :=
  ⟨rfl, rfl, rfl, rfl, h⟩

theorem trans (h₁ : InputKept p₁ b₁ p₂ b₂ X) (h₂ : InputKept p₂ b₂ p₃ b₃ Y) : InputKept p₁ b₁ p₃ b₃ (X ++ Y) := by
  have hgain := h₂.gain
  rw [h₁.device] at hgain
  exact ⟨h₂.consoleFd.trans h₁.consoleFd, h₂.device.trans h₁.device, h₂.radioFd.trans h₁.radioFd,
    h₂.wakeFd.trans h₁.wakeFd, h₁.gain.trans hgain⟩

/-- The console stays up. -/
theorem consoleUp (h : InputKept p₁ b₁ p₂ b₂ X) (hup : ConsoleUp p₁ b₁) : ConsoleUp p₂ b₂ := by
  obtain ⟨f, hf, hiff⟩ := hup.fd
  obtain ⟨u, hu⟩ := hup.uart
  refine ⟨⟨f, h.consoleFd ▸ hf, ?_⟩, ?_, ?_, ?_⟩
  · rw [h.gain.table, h.device]
    exact hiff
  · rw [h.device]
    exact h.gain.uartAt_isSome hu
  · rw [h.radioFd, h.consoleFd]
    exact hup.radio
  · rw [h.wakeFd, h.consoleFd]
    exact hup.wake

/-- The console's UART, there before, is there after, and gained what was accepted. -/
theorem uart (h : InputKept p₁ b₁ p₂ b₂ X) {u : Uart} (hu : b₁.machine.uartAt p₁.console.device = some u) :
    ∃ u', b₂.machine.uartAt p₂.console.device = some u' ∧ Uart.Gains u u' X := by
  rw [h.device]
  exact h.gain.uart u hu

end InputKept

/-- While the console is up, work keeps it up and takes nothing from its ring. -/
def inputKept : Frame Platform where
  holds p b p' b' := ConsoleUp p b → ∃ X, InputKept p b p' b' X
  refl _ _ _ := ⟨[], .of_machine (.refl _ _)⟩
  trans h₁ h₂ hup :=
    let ⟨X, k₁⟩ := h₁ hup
    let ⟨Y, k₂⟩ := h₂ (k₁.consoleUp hup)
    ⟨X ++ Y, k₁.trans k₂⟩

/-- The platform's own passes keep the console up and its ring whole: the wake event and the
radio link read through descriptors of their own, and a wait only lets wire steps happen. -/
theorem admits_inputKept : Admits inputKept where
  trace _ _ _ _ := ⟨[], .of_machine (.refl _ _)⟩
  journal _ _ _ _ := ⟨[], .of_machine (.of_wireFrame (.of_eq rfl rfl))⟩
  select p b ctx _ :=
    let ⟨X, hX⟩ := @Machine.keepsWire_select p.console.device ctx b.machine
    ⟨X, .of_machine (.of_wireFrame hX)⟩
  wake _ _ _ hm hup := ⟨[], .of_machine (hup.gainFrame hup.wake hm)⟩
  radio _ _ _ _ hfd _ hm hup := ⟨[], ⟨rfl, rfl, hfd, rfl, hup.gainFrame hup.radio hm⟩⟩
  alarm _ _ _ _ := ⟨[], ⟨rfl, rfl, rfl, rfl, .refl _ _⟩⟩
  sources _ _ _ _ := ⟨[], ⟨rfl, rfl, rfl, rfl, .refl _ _⟩⟩
  sendsDone _ _ _ _ := ⟨[], ⟨rfl, rfl, rfl, rfl, .refl _ _⟩⟩

/-- A console send keeps the console up and its ring whole. -/
theorem keeps_send (data : List UInt8) : Keeps inputKept (onConsole (ConsolePort.send data)) :=
  keeps_onConsole fun p b _ c b' h _ => by
    obtain ⟨hc, hgain⟩ := ConsolePort.exec_send_ok h
    obtain ⟨X, hX⟩ := hgain p.console.device
    rcases hc with ⟨-, -, rfl⟩ | ⟨-, rfl⟩
    · exact ⟨X, ⟨rfl, rfl, rfl, rfl, hX⟩⟩
    · exact ⟨X, ⟨rfl, rfl, rfl, rfl, hX⟩⟩

/-- The console's read on an up console keeps it up, and is a feed step of its UART that
handed out the slice read, if any. -/
theorem feed_consoleRead {ctx : PollContext} {p p' : Platform} {b b' : Board} {o : Option (List UInt8)}
    (hup : ConsoleUp p b) (h : exec (onConsole (ConsolePort.process ctx)) p b = (.ok (o, p'), b')) :
    p' = p ∧ ConsoleUp p b' ∧
      ∃ u u', b.machine.uartAt p.console.device = some u ∧ b'.machine.uartAt p.console.device = some u' ∧
        Uart.Feed u u' [] o.toList ∧ ∀ bs ∈ o, bs ≠ [] ∧ bs.length ≤ ConsolePort.readSize := by
  obtain ⟨c, hc, rfl⟩ := exec_onConsole_ok h
  obtain ⟨f, hf, hiff⟩ := hup.fd
  obtain ⟨u, hu⟩ := hup.uart
  obtain ⟨rfl, htable, u', hu', hfeed, hslice⟩ := ConsolePort.feed_process hf ((hiff f).2 rfl) hu hc
  refine ⟨rfl, ⟨⟨f, hf, ?_⟩, ⟨u', hu'⟩, hup.radio, hup.wake⟩, u, u', hu, hu', hfeed, hslice⟩
  rw [htable]
  exact hiff

theorem keeps_reset : Keeps inputKept reset := by
  unfold reset
  refine Keeps.bind (admits_inputKept.keeps_log _ _) fun _ => Keeps.liftM fun p b _ b' h => ?_
  cases h
  exact fun _ => ⟨[], .of_machine (.refl _ _)⟩

/-- Reading the alarm's clock changes nothing. -/
theorem keeps_alarmNow {F : Frame Platform} : Keeps F alarmNow :=
  Keeps.liftM fun p b _ b' h => by
    cases h
    exact F.refl p b

end Platform

/-! ## The recording stack keeps the console whole -/

namespace Recorder

open Platform

section
variable {F : Frame Platform} (hF : Admits F) (hsend : ∀ data, Keeps F (onConsole (ConsolePort.send data)))
  (hreset : Keeps F reset)
include hF

theorem keeps_note (r : Recorder) (t : String) : Keeps F (r.note t) :=
  hF.keeps_note _

theorem keeps_noteTimes (t : String) : ∀ n, Keeps F (liftM (Board.noteTimes t n) : PlatformM Unit)
  | 0 => Keeps.pure ()
  | n + 1 => by
    unfold Board.noteTimes
    exact Keeps.bind (hF.keeps_note t) fun _ => keeps_noteTimes t n

include hsend

theorem keeps_sendDone (r : Recorder) : Keeps F r.sendDone := by
  unfold sendDone
  refine Keeps.bind (keeps_note hF r _) fun _ => ?_
  exact Keeps.ite _ (Keeps.bind (hsend _) fun _ => Keeps.bind (keeps_note hF r _) fun _ => Keeps.pure _)
    (Keeps.pure r)

include hreset

theorem keeps_received (r : Recorder) (data : List UInt8) : Keeps F (r.received data) := by
  unfold received
  refine Keeps.bind (keeps_note hF r _) fun _ => ?_
  have hprefix : ∀ p : String, Keeps F (if p.toUTF8.toList.isPrefixOf data = true then
      (do Platform.reset; r.note "reset"; pure r : PlatformM Recorder) else pure r) := fun p =>
    Keeps.ite _ (Keeps.bind hreset fun _ => Keeps.bind (keeps_note hF r _) fun _ => Keeps.pure r) (Keeps.pure r)
  -- the do-block repeats the check for the reset prefix after both branches of the echo
  dsimp only
  split
  · refine Keeps.bind (hsend data) fun _ => Keeps.bind (keeps_note hF r _) fun _ => ?_
    split
    · exact hprefix _
    · exact Keeps.pure r
  · split
    · exact hprefix _
    · exact Keeps.pure r

/-- The recording stack keeps every frame that allows the platform's passes, console sends and
requests for a pseudo-reset: it only notes, sends, reads the alarm's clock and asks for resets. -/
theorem keeps : Stack.Keeps F Recorder where
  processTasklets r := Keeps.bind (keeps_note hF r _) fun _ => Keeps.pure _
  alarmFired r := Keeps.bind keeps_alarmNow fun _ => Keeps.bind (keeps_note hF r _) fun _ => Keeps.pure r
  diagAlarmFired r := Keeps.bind keeps_alarmNow fun _ => Keeps.bind (keeps_note hF r _) fun _ => Keeps.pure r
  uartReceived := keeps_received hF hsend hreset
  uartSendDone := keeps_sendDone hF hsend
  framesReceived r n := Keeps.bind (keeps_noteTimes hF _ n) fun _ => Keeps.pure r

end

/-- Every upcall of the recording stack keeps the console up and its ring whole. -/
theorem keeps_inputKept : Stack.Keeps inputKept Recorder :=
  keeps admits_inputKept keeps_send keeps_reset

end Recorder

namespace Platform

/-! ## Runs -/

section Runs
variable {σ : Type} [Stack σ]

/-- Over an iteration from `b` to `b'`, the console's UART went from `u` to `u'`: the receive
calls that its waits let run accepted `X`, and its read handed out `o`. -/
def IterationAccepted (p : Platform) (b b' : Board) (X : List UInt8) (o : Option (List UInt8)) : Prop :=
  ∃ u u', b.machine.uartAt p.console.device = some u ∧ b'.machine.uartAt p.console.device = some u' ∧
    Uart.Feed u u' X o.toList

/-- What an iteration accepted is pinned down by its UART before and after and the slice read. -/
theorem IterationAccepted.unique {p : Platform} {b b' : Board} {X Y : List UInt8} {o : Option (List UInt8)}
    (hX : IterationAccepted p b b' X o) (hY : IterationAccepted p b b' Y o) : X = Y := by
  obtain ⟨u, u', hu, hu', hfeed⟩ := hX
  obtain ⟨v, v', hv, hv', hfeed'⟩ := hY
  rw [hu, Option.some.injEq] at hv
  rw [hu', Option.some.injEq] at hv'
  subst hv hv'
  exact hfeed.accepted_unique hfeed'

/-- Iterations of the mainloop interleaved with the wire side, from `(s, p, b)` to
`(s', p', b')`. `S` is what the receive calls on the console's UART accepted, in order: the
front of each call's octets, as many as it took in, whether the call was a wire step between
iterations or ran while an iteration waited. `D` are the slices the console's reads handed to
the stack, in order. A wire step is anything that is a run of wire steps for the console's
UART, such as receive calls and interruptions. -/
inductive InputRun : σ → Platform → Board → List UInt8 → List (List UInt8) → σ → Platform → Board → Prop
  | done (s : σ) (p : Platform) (b : Board) : InputRun s p b [] [] s p b
  | wire {s s' : σ} {p p' : Platform} {b b' : Board} {m : Machine} {X S : List UInt8} {D : List (List UInt8)} :
      Machine.WireFrame p.console.device X b.machine m →
      InputRun s p { b with machine := m } S D s' p' b' → InputRun s p b (X ++ S) D s' p' b'
  | iteration {s s₁ s' : σ} {p p₁ p' : Platform} {b b₁ b' : Board} {o : Option (List UInt8)} {n : Nat}
      {X S : List UInt8} {D : List (List UInt8)} :
      Runner.IterationRun s p b o n s₁ p₁ b₁ → IterationAccepted p b b₁ X o →
      InputRun s₁ p₁ b₁ S D s' p' b' → InputRun s p b (X ++ S) (o.toList ++ D) s' p' b'

variable (hs : Stack.Keeps inputKept σ)
include hs

/-- An iteration on an up console keeps it up, and is a feed step of the console's UART that
handed out the slice the console's read took, if any. -/
theorem IterationRun.feed {s s' : σ} {p p' : Platform} {b b' : Board} {o : Option (List UInt8)} {n : Nat}
    (hup : ConsoleUp p b) (h : Runner.IterationRun s p b o n s' p' b') :
    ConsoleUp p' b' ∧ p'.console.device = p.console.device ∧
      ∃ u u' X, b.machine.uartAt p.console.device = some u ∧ b'.machine.uartAt p.console.device = some u' ∧
        Uart.Feed u u' X o.toList ∧ ∀ bs ∈ o, bs ≠ [] ∧ bs.length ≤ ConsolePort.readSize := by
  obtain ⟨hprep, ⟨hhead, hread, hdeliver, htake, hdispatch, hrest⟩⟩ := h
  -- everything but the console's read keeps the console up and its ring whole
  have hbefore := inputKept.trans (Runner.keeps_prepare admits_inputKept hs s _ _ _ _ _ hprep)
    (keeps_processHead admits_inputKept hs _ _ _ _ _ _ _ hhead)
  have hafter := inputKept.trans (keeps_deliver hs _ _ _ _ _ _ _ hdeliver)
    (inputKept.trans (keeps_takeSendDone admits_inputKept _ _ _ _ _ htake)
      (inputKept.trans (keeps_dispatchSendsDone hs _ _ _ _ _ _ _ hdispatch)
        (keeps_processRest admits_inputKept hs _ _ _ _ _ _ _ _ hrest)))
  obtain ⟨X, hX⟩ := hbefore hup
  obtain ⟨rfl, hup₂, u₁, u₂, hu₁, hu₂, hfeed, hslice⟩ := feed_consoleRead (hX.consoleUp hup) hread
  obtain ⟨Y, hY⟩ := hafter hup₂
  obtain ⟨u, hu⟩ := hup.uart
  obtain ⟨u₁', hu₁', hg₁⟩ := hX.gain.uart u hu
  rw [← hX.device, hu₁] at hu₁'
  cases hu₁'
  obtain ⟨u', hu', hg₂⟩ := hY.uart hu₂
  rw [hY.device, hX.device] at hu'
  exact ⟨hY.consoleUp hup₂, hY.device.trans hX.device, u, u', X ++ Y, hu, hu',
    .between hg₁ hfeed hg₂, hslice⟩

/-- Every iteration from an up console accepted one stream on the console's UART. -/
theorem IterationRun.accepted {s s' : σ} {p p' : Platform} {b b' : Board} {o : Option (List UInt8)} {n : Nat}
    (hup : ConsoleUp p b) (h : Runner.IterationRun s p b o n s' p' b') :
    ∃! X, IterationAccepted p b b' X o := by
  obtain ⟨-, -, u, u', X, hu, hu', hfeed, -⟩ := IterationRun.feed hs hup h
  exact ⟨X, ⟨u, u', hu, hu', hfeed⟩, fun Y hY => hY.unique ⟨u, u', hu, hu', hfeed⟩⟩

/-- Along a run from an up console, the console stays up, and its UART takes feed steps whose
receive calls accepted the run's stream and that handed out the slices read, each non-empty and
at most `readSize` long. -/
theorem InputRun.feed {s s' : σ} {p p' : Platform} {b b' : Board} {S : List UInt8} {D : List (List UInt8)}
    (hup : ConsoleUp p b) (h : InputRun s p b S D s' p' b') :
    ConsoleUp p' b' ∧ p'.console.device = p.console.device ∧
      ∃ u u', b.machine.uartAt p.console.device = some u ∧ b'.machine.uartAt p.console.device = some u' ∧
        Uart.Feed u u' S D ∧ ∀ d ∈ D, d ≠ [] ∧ d.length ≤ ConsolePort.readSize := by
  induction h with
  | done s p b =>
    obtain ⟨u, hu⟩ := hup.uart
    exact ⟨hup, rfl, u, u, hu, hu, .gains (.wire (.refl u)), by simp⟩
  | @wire s s' p p' b b' m X S D hw _ ih =>
    -- the wire side keeps the table and the console's UART
    obtain ⟨u, hu⟩ := hup.uart
    obtain ⟨u₁, hu₁, hw₁⟩ := hw.uart u hu
    have hup₁ : ConsoleUp p { b with machine := m } := by
      obtain ⟨f, hf, hiff⟩ := hup.fd
      refine ⟨⟨f, hf, ?_⟩, ⟨u₁, hu₁⟩, hup.radio, hup.wake⟩
      rw [show m.table = b.machine.table from hw.table]
      exact hiff
    obtain ⟨hup', hdev, v, u', hv, hu', hfeed, hslices⟩ := ih hup₁
    rw [show ({ b with machine := m } : Board).machine = m from rfl, hu₁] at hv
    cases hv
    refine ⟨hup', hdev, u, u', hu, hu', ?_, hslices⟩
    have hstep := (Uart.Feed.gains (.wire hw₁)).trans hfeed
    rwa [List.nil_append] at hstep
  | @iteration s s₁ s' p p₁ p' b b₁ b' o n X S D hit hacc _ ih =>
    obtain ⟨hup₁, hdev₁, -, -, -, -, -, -, hslice⟩ := IterationRun.feed hs hup hit
    obtain ⟨u, u₁, hu, hu₁, hfeed₁⟩ := hacc
    obtain ⟨hup', hdev, v, u', hv, hu', hfeed, hslices⟩ := ih hup₁
    rw [hdev₁, hu₁] at hv
    cases hv
    rw [hdev₁] at hu' hdev
    refine ⟨hup', hdev, u, u', hu, hu', hfeed₁.trans hfeed, ?_⟩
    intro d hd
    rcases List.mem_append.1 hd with hd | hd
    · exact hslice d (Option.mem_toList.1 hd)
    · exact hslices d hd

/-- Console input is conserved. Along a run of iterations interleaved with the wire side, from
an up console whose ring holds `u.rx`, the slices the console's reads hand to the stack, in
order and followed by what is left in the ring, are what the ring held and then the run's
stream `S`, what the receive calls accepted: no octet is lost, duplicated or reordered. Every
slice holds between 1 and `readSize` octets. Each iteration from an up console accepted exactly
one stream, so every sequence of iterations and wire steps is such a run. A pass that finds the
descriptor readable takes nothing while an interruption is pending, and otherwise the front
`readSize` octets of the ring, if any. -/
theorem console_input_conserved {s s' : σ} {p p' : Platform} {b b' : Board} {S : List UInt8}
    {D : List (List UInt8)} (hup : ConsoleUp p b) (hrun : InputRun s p b S D s' p' b') :
    (∃ u u', b.machine.uartAt p.console.device = some u ∧ b'.machine.uartAt p.console.device = some u' ∧
      Uart.Feed u u' S D ∧ D.flatten ++ u'.rx = u.rx ++ S ∧
      ∀ d ∈ D, d ≠ [] ∧ d.length ≤ ConsolePort.readSize) ∧
    (∀ (t t₁ : σ) (q q₁ : Platform) (c c₁ : Board) (o : Option (List UInt8)) (n : Nat),
      ConsoleUp q c → Runner.IterationRun t q c o n t₁ q₁ c₁ → ∃! X, IterationAccepted q c c₁ X o) ∧
    ∀ (ctx : PollContext) (q q' : Platform) (c c' : Board) (o : Option (List UInt8)) (f : Fd) (u : Uart),
      ConsoleUp q c → q.console.fd = some f → c.machine.uartAt q.console.device = some u →
      ctx.isReadable f = true →
      exec (onConsole (ConsolePort.process ctx)) q c = (.ok (o, q'), c') →
      ∃ u', c'.machine.uartAt q.console.device = some u' ∧
        (u.interrupted = true → o = none ∧ u'.rx = u.rx) ∧
        (u.interrupted = false →
          o = (if u.rx = [] then none else some (u.rx.take ConsolePort.readSize)) ∧
            u'.rx = u.rx.drop ConsolePort.readSize) := by
  refine ⟨?_, fun t t₁ q q₁ c c₁ o n hupq hit => IterationRun.accepted hs hupq hit,
    fun ctx q q' c c' o f u hupq hf hu hr h => ?_⟩
  · obtain ⟨-, -, u, u', hu, hu', hfeed, hslices⟩ := InputRun.feed hs hup hrun
    exact ⟨u, u', hu, hu', hfeed, hfeed.conserve, hslices⟩
  · obtain ⟨c₁, hc₁, rfl⟩ := exec_onConsole_ok h
    obtain ⟨f', hf', hiff⟩ := hupq.fd
    rw [hf, Option.some.injEq] at hf'
    subst hf'
    exact ConsolePort.read_takes_front hf ((hiff f).2 rfl) hu hr hc₁

end Runs

/-- On the standard board, once the console is up, the line `hi` arrives; one iteration of a
recording stack hands it to the stack whole and leaves the ring empty. -/
theorem console_input_one_line :
    let b₀ := Board.new PlatformParams.standard
    let p₀ := Platform.build b₀ PlatformParams.standard
    let r₀ : Recorder :=
      { tag := "", tasklets := false, diag := false, echo := false, sendOnDone := 0, resetOn := none }
    ∃ c b p' b', exec ConsolePort.init p₀.console b₀ = (.ok (.ok (), c), b) ∧
      ConsoleUp { p₀ with console := c } b ∧
      InputRun r₀ { p₀ with console := c } b [0x68, 0x69] [[0x68, 0x69]] r₀ p' b' ∧
      ∃ u u', b.machine.uartAt c.device = some u ∧ b'.machine.uartAt c.device = some u' ∧
        Uart.Feed u u' [0x68, 0x69] [[0x68, 0x69]] ∧ [[0x68, 0x69]].flatten ++ u'.rx = u.rx ++ [0x68, 0x69] ∧
        ∀ d ∈ [[(0x68 : UInt8), 0x69]], d ≠ [] ∧ d.length ≤ ConsolePort.readSize := by
  intro b₀ p₀ r₀
  let f : Fd := ⟨3, by decide⟩
  let c₁ : ConsolePort := { p₀.console with fd := some f }
  let b₁ := (exec ConsolePort.init p₀.console b₀).2
  let p₁ : Platform := { p₀ with console := c₁ }
  let F : List UInt8 := [0x68, 0x69]
  let b₂ : Board := { b₁ with machine := ((Machine.receive b₀.cli F).run b₁.machine).2 }
  let ctx : PollContext := ⟨⟨8⟩, ⟨0⟩, ⟨0⟩, some f, ⟨10000000000⟩⟩
  let b₃ := (exec (Runner.prepare r₀) p₁ b₂).2
  let b₄ := (exec (processHead r₀ ctx) p₁ b₃).2
  let b₅ := (exec (onConsole (ConsolePort.process ctx)) p₁ b₄).2
  let b₆ := (exec (deliver r₀ (some F)) p₁ b₅).2
  let b₇ := (exec (processRest p₁.sources.length r₀ ctx) p₁ b₆).2
  have hinit : exec ConsolePort.init p₀.console b₀ = (.ok (.ok (), c₁), b₁) := rfl
  have hu₁ : b₁.machine.uartAt b₀.cli = some
      { Uart.new 0 with installed := true, params := some UartParams.console, rxCapacity := 256, txCapacity := 128 } :=
    rfl
  have hup : ConsoleUp p₁ b₁ :=
    ⟨⟨f, rfl, fun g => DescriptorTable.slot_single_iff f g b₀.cli⟩, ⟨_, hu₁⟩, by decide, by decide⟩
  -- the wait finds the console readable, and the pass reads the line and hands it over
  have hprep : exec (Runner.prepare r₀) p₁ b₂ = (.ok ((r₀, ctx), p₁), b₃) := by
    dsimp only [b₃, b₂, b₁, p₁, c₁, ctx, f, F, r₀, p₀, b₀]
    rfl
  have hhead : exec (processHead r₀ ctx) p₁ b₃ = (.ok (r₀, p₁), b₄) := by
    dsimp only [b₄, b₃, b₂, b₁, p₁, c₁, ctx, f, F, r₀, p₀, b₀]
    rfl
  have hread : exec (onConsole (ConsolePort.process ctx)) p₁ b₄ = (.ok (some F, p₁), b₅) := by
    dsimp only [b₅, b₄, b₃, b₂, b₁, p₁, c₁, ctx, f, F, r₀, p₀, b₀]
    rfl
  have hdeliver : exec (deliver r₀ (some F)) p₁ b₅ = (.ok (r₀, p₁), b₆) := by
    dsimp only [b₆, b₅, b₄, b₃, b₂, b₁, p₁, c₁, ctx, f, F, r₀, p₀, b₀]
    rfl
  have hrest : exec (processRest p₁.sources.length r₀ ctx) p₁ b₆ = (.ok (r₀, p₁), b₇) := by
    dsimp only [b₇, b₆, b₅, b₄, b₃, b₂, b₁, p₁, c₁, ctx, f, F, r₀, p₀, b₀]
    rfl
  have hit : Runner.IterationRun r₀ p₁ b₂ (some F) 0 r₀ p₁ b₇ :=
    ⟨hprep, ⟨hhead, hread, hdeliver, rfl, rfl, hrest⟩⟩
  -- the iteration's waits accepted nothing more: the ring held the line and is empty after
  obtain ⟨X, hacc, -⟩ := IterationRun.accepted Recorder.keeps_inputKept
    (InputKept.consoleUp ⟨rfl, rfl, rfl, rfl, .of_wireFrame (Machine.wireFrame_receive hu₁ F)⟩ hup) hit
  have hX : X = [] := by
    obtain ⟨u, u', hu, hu', hfeed⟩ := hacc
    have hrx : (b₂.machine.uartAt p₁.console.device).map Uart.rx = some F := rfl
    have hrx' : (b₇.machine.uartAt p₁.console.device).map Uart.rx = some [] := by
      dsimp only [b₇, b₆, b₅, b₄, b₃, b₂, b₁, p₁, c₁, ctx, f, F, r₀, p₀, b₀]
      rfl
    rw [hu, Option.map_some, Option.some.injEq] at hrx
    rw [hu', Option.map_some, Option.some.injEq] at hrx'
    simpa [hrx, hrx'] using hfeed.conserve
  subst hX
  have hrun : InputRun r₀ p₁ b₁ F [F] r₀ p₁ b₇ :=
    .wire (Machine.wireFrame_receive hu₁ F) (.iteration hit hacc (.done r₀ p₁ b₇))
  exact ⟨c₁, b₁, p₁, b₇, hinit, hup, hrun,
    (console_input_conserved Recorder.keeps_inputKept hup hrun).1⟩

/-- The console's reads are not the only calls of `uartReceived`: an extra source whose event
carries octets has the stack told them in a pass where the console, up with an empty ring,
handed out nothing and its UART accepted nothing. -/
theorem source_event_bypasses_console :
    let b₀ := Board.new PlatformParams.standard
    let p₀ := Platform.build b₀ PlatformParams.standard
    let r₀ : Recorder :=
      { tag := "", tasklets := false, diag := false, echo := false, sendOnDone := 0, resetOn := none }
    let src : ScriptedSource := ⟨"x", none, some (.uartReceived [0x68, 0x69]), false, false⟩
    ∃ c b p' b', exec ConsolePort.init p₀.console b₀ = (.ok (.ok (), c), b) ∧
      ConsoleUp { p₀ with console := c, sources := [src] } b ∧
      InputRun r₀ { p₀ with console := c, sources := [src] } b [] [] r₀ p' b' ∧
      b'.machine.uartAt c.device = b.machine.uartAt c.device ∧
      b'.trace = #["tasklets", "update:x", "process:x", "uart:6869"] := by
  intro b₀ p₀ r₀ src
  let f : Fd := ⟨3, by decide⟩
  let c₁ : ConsolePort := { p₀.console with fd := some f }
  let b₁ := (exec ConsolePort.init p₀.console b₀).2
  let p₁ : Platform := { p₀ with console := c₁, sources := [src] }
  let p₂ : Platform := { p₁ with sources := [{ src with spent := true }] }
  let ctx : PollContext := ⟨⟨0⟩, ⟨0⟩, ⟨0⟩, some f, ⟨10000000000⟩⟩
  let b₂ := (exec (Runner.prepare r₀) p₁ b₁).2
  let b₃ := (exec (processHead r₀ ctx) p₁ b₂).2
  let b₄ := (exec (processRest p₁.sources.length r₀ ctx) p₁ b₃).2
  have hinit : exec ConsolePort.init p₀.console b₀ = (.ok (.ok (), c₁), b₁) := rfl
  have hup : ConsoleUp p₁ b₁ :=
    ⟨⟨f, rfl, fun g => DescriptorTable.slot_single_iff f g b₀.cli⟩, ⟨_, rfl⟩, by decide, by decide⟩
  -- the wait times out with nothing ready, the console reads nothing, and the source's pass
  -- hands the stack its octets
  have hprep : exec (Runner.prepare r₀) p₁ b₁ = (.ok ((r₀, ctx), p₁), b₂) := by
    dsimp only [b₂, b₁, p₁, c₁, ctx, f, src, r₀, p₀, b₀]
    rfl
  have hhead : exec (processHead r₀ ctx) p₁ b₂ = (.ok (r₀, p₁), b₃) := by
    dsimp only [b₃, b₂, b₁, p₁, c₁, ctx, f, src, r₀, p₀, b₀]
    rfl
  have hread : exec (onConsole (ConsolePort.process ctx)) p₁ b₃ = (.ok (none, p₁), b₃) := by
    dsimp only [b₃, b₂, b₁, p₁, c₁, ctx, f, src, r₀, p₀, b₀]
    rfl
  have hrest : exec (processRest p₁.sources.length r₀ ctx) p₁ b₃ = (.ok (r₀, p₂), b₄) := by
    dsimp only [b₄, b₃, b₂, b₁, p₂, p₁, c₁, ctx, f, src, r₀, p₀, b₀]
    rfl
  have hit : Runner.IterationRun r₀ p₁ b₁ none 0 r₀ p₂ b₄ := ⟨hprep, ⟨hhead, hread, rfl, rfl, rfl, hrest⟩⟩
  have hkept : b₄.machine.uartAt c₁.device = b₁.machine.uartAt c₁.device := by
    dsimp only [b₄, b₃, b₂, b₁, p₁, c₁, ctx, f, src, r₀, p₀, b₀]
    rfl
  -- the ring is as it was and nothing was read, so nothing was accepted
  obtain ⟨X, hacc, -⟩ := IterationRun.accepted Recorder.keeps_inputKept hup hit
  have hX : X = [] := by
    obtain ⟨u, u', hu, hu', hfeed⟩ := hacc
    have huu : u' = u := by
      rw [← Option.some.injEq, ← hu, ← hu']
      exact hkept
    subst huu
    simpa using hfeed.conserve
  subst hX
  have hrun : InputRun r₀ p₁ b₁ [] [] r₀ p₂ b₄ := .iteration hit hacc (.done r₀ p₂ b₄)
  refine ⟨c₁, b₁, p₂, b₄, hinit, hup, hrun, hkept, ?_⟩
  dsimp only [b₄, b₃, b₂, b₁, p₁, c₁, ctx, f, src, r₀, p₀, b₀]
  rfl

end Platform

end ThreadPlatform
