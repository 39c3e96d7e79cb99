import Mathlib
import ThreadPlatform.Proofs.Radio.Link
import ThreadPlatform.Proofs.Hdlc.RoundTrip
/-!
# The receive path conserves frames

Octets for the radio arrive on the wire side, which puts them in the receive ring of the
link's UART, as many as fit. The link reads the ring from the front, through its
descriptor, from the mainloop's process pass or from a wait for input, and feeds what it
read to its decoder; each frame the decoder completes joins the receive queue and is
counted and announced, each dropped frame is counted.

`RxRun` is every interleaving of these steps after a bring-up, with the wire side free to
do anything else to the UART meanwhile (collect the transmit FIFO, raise faults or
interruptions). `receive_path_conserves_frames` says that along every such run the link
read a front `R` of what the receive calls accepted, the rest still in the ring, and that
the frames taken and still queued are exactly, and in order, the payloads a fresh decoder
reports for `R`: none lost, none duplicated. The proof carries one invariant, `RxState`,
with one step lemma per kind of step.
-/

namespace ThreadPlatform

namespace Hdlc

/-- The payloads of the frames among the outcomes, in order. -/
def payloads (outs : List Outcome) : List (List UInt8) :=
  outs.filterMap Except.toOption

/-- How many of the outcomes are dropped frames. -/
def dropped (outs : List Outcome) : Nat :=
  outs.countP fun o => !o.toBool

@[simp] theorem payloads_nil : payloads [] = [] := rfl

@[simp] theorem payloads_append (a b : List Outcome) : payloads (a ++ b) = payloads a ++ payloads b :=
  List.filterMap_append

@[simp] theorem dropped_nil : dropped [] = 0 := rfl

@[simp] theorem dropped_append (a b : List Outcome) : dropped (a ++ b) = dropped a + dropped b :=
  List.countP_append

end Hdlc

namespace RadioLink

open Hdlc

/-- The link with the payloads among the outcomes `outs` queued; the counters are `Counted`
apart. -/
def settled (r : RadioLink) (outs : List Outcome) : RadioLink :=
  { r with frames := r.frames ++ payloads outs }

/-- The link after its decoder took in `bytes`, with the frames it completed queued. -/
def received (r : RadioLink) (bytes : List UInt8) : RadioLink :=
  { r.settled (r.decoder.decode bytes).2 with decoder := (r.decoder.decode bytes).1 }

@[simp] theorem settled_nil (r : RadioLink) : r.settled [] = r := by
  simp [settled]

theorem settled_append (r : RadioLink) (a b : List Outcome) : (r.settled a).settled b = r.settled (a ++ b) := by
  simp [settled]

@[simp] theorem received_nil (r : RadioLink) : r.received [] = r := by
  simp [received, Decoder.decode]

theorem received_with (r : RadioLink) (F : List (List UInt8)) (c : RadioCounters) (bytes : List UInt8) :
    ({ r with frames := F, counters := c }).received bytes =
      { r.received bytes with frames := F ++ payloads (r.decoder.decode bytes).2, counters := c } :=
  rfl

theorem received_append (r : RadioLink) (a b : List UInt8) :
    (r.received a).received b = r.received (a ++ b) := by
  simp only [received, Decoder.decode_append]
  rw [← settled_append]
  rfl

/-- Counters `c'` are `c` with the frames and the drops among the outcomes `outs` counted, none
of them past its 32 bits; the count of sent frames is as it was. -/
structure Counted (c c' : RadioCounters) (outs : List Outcome) : Prop where
  tx : c'.txFrames = c.txFrames
  rx : c'.rxFrames.toNat = c.rxFrames.toNat + (payloads outs).length
  drops : c'.rxDropped.toNat = c.rxDropped.toNat + dropped outs

namespace Counted

theorem refl (c : RadioCounters) : Counted c c [] := ⟨rfl, rfl, rfl⟩

theorem trans {c₁ c₂ c₃ : RadioCounters} {a b : List Outcome} (h₁ : Counted c₁ c₂ a) (h₂ : Counted c₂ c₃ b) :
    Counted c₁ c₃ (a ++ b) := by
  refine ⟨h₂.tx.trans h₁.tx, ?_, ?_⟩
  · rw [h₂.rx, h₁.rx, payloads_append, List.length_append, Nat.add_assoc]
  · rw [h₂.drops, h₁.drops, dropped_append, Nat.add_assoc]

end Counted

section Settle
variable {r r' : RadioLink} {b b' : Board}

/-- Settling one outcome queues a frame, counts it or the drop, tells whether it was a frame,
and only logs on the board. -/
theorem exec_settleOutcome {o : Outcome} {c : Bool} (h : exec (settleOutcome o) r b = (.ok (c, r'), b')) :
    c = o.toBool ∧ { r' with counters := r.counters } = r.settled [o] ∧ Counted r.counters r'.counters [o] ∧
      b'.machine.devices = b.machine.devices ∧ b'.machine.table = b.machine.table := by
  cases o with
  | ok frame =>
    dsimp only [settleOutcome] at h
    obtain ⟨_, r₁, b₁, h₁, h₂⟩ := exec_bind_ok h
    simp only [exec_log, Prod.mk.injEq, Except.ok.injEq] at h₁
    obtain ⟨⟨-, rfl⟩, rfl⟩ := h₁
    obtain ⟨_, r₂, b₂, h₃, h₄⟩ := exec_bind_ok h₂
    simp only [exec_get, Prod.mk.injEq, Except.ok.injEq] at h₃
    obtain ⟨⟨rfl, rfl⟩, rfl⟩ := h₃
    obtain ⟨n, r₃, b₃, h₅, h₆⟩ := exec_bind_ok h₄
    obtain ⟨-, hn, rfl, rfl⟩ := exec_increment_ok h₅
    simp only [exec_bind, exec_modify, exec_pure, Prod.mk.injEq, Except.ok.injEq] at h₆
    obtain ⟨⟨rfl, rfl⟩, rfl⟩ := h₆
    exact ⟨rfl, rfl, ⟨rfl, hn, rfl⟩, rfl, rfl⟩
  | error e =>
    dsimp only [settleOutcome] at h
    obtain ⟨_, r₁, b₁, h₁, h₂⟩ := exec_bind_ok h
    simp only [exec_get, Prod.mk.injEq, Except.ok.injEq] at h₁
    obtain ⟨⟨rfl, rfl⟩, rfl⟩ := h₁
    obtain ⟨n, r₂, b₂, h₃, h₄⟩ := exec_bind_ok h₂
    obtain ⟨-, hn, rfl, rfl⟩ := exec_increment_ok h₃
    simp only [exec_bind, exec_modify, exec_log, exec_pure, Prod.mk.injEq, Except.ok.injEq] at h₄
    obtain ⟨⟨rfl, rfl⟩, rfl⟩ := h₄
    exact ⟨rfl, by simp [settled, payloads, Except.toOption], ⟨rfl, rfl, hn⟩, rfl, rfl⟩

/-- Settling the outcomes in turn settles them all; the answer counts the frames among them. -/
theorem exec_settleAll (outs : List Outcome) {n k : Nat}
    (h : exec (outs.foldlM (fun n o => do return if ← settleOutcome o then n + 1 else n) n) r b =
      (.ok (k, r'), b')) :
    k = n + (payloads outs).length ∧ { r' with counters := r.counters } = r.settled outs ∧
      Counted r.counters r'.counters outs ∧ b'.machine.devices = b.machine.devices ∧
      b'.machine.table = b.machine.table := by
  induction outs generalizing n r b with
  | nil =>
    simp only [List.foldlM_nil, exec_pure, Prod.mk.injEq, Except.ok.injEq] at h
    obtain ⟨⟨rfl, rfl⟩, rfl⟩ := h
    exact ⟨rfl, by simp, .refl _, rfl, rfl⟩
  | cons o rest ih =>
    rw [List.foldlM_cons] at h
    obtain ⟨n₁, r₁, b₁, h₁, h⟩ := exec_bind_ok h
    obtain ⟨c, r₂, b₂, h₂, h₃⟩ := exec_bind_ok h₁
    obtain ⟨rfl, hr₂, hc₂, hd₂, ht₂⟩ := exec_settleOutcome h₂
    simp only [exec_pure, Prod.mk.injEq, Except.ok.injEq] at h₃
    obtain ⟨⟨rfl, rfl⟩, rfl⟩ := h₃
    obtain ⟨rfl, hr, hc, hd, ht⟩ := ih h
    have hcount : (payloads [o]).length = if o.toBool then 1 else 0 := by
      cases o <;> rfl
    refine ⟨?_, ?_, hc₂.trans hc, hd.trans hd₂, ht.trans ht₂⟩
    · have hsplit : payloads (o :: rest) = payloads [o] ++ payloads rest := payloads_append [o] rest
      rw [hsplit, List.length_append, hcount]
      split <;> omega
    · -- settling the rest after `o` is settling all of them, the counters put aside
      rw [show o :: rest = [o] ++ rest from rfl, ← settled_append, ← hr₂]
      exact congrArg (fun x : RadioLink => { x with counters := r.counters }) hr

end Settle

section Read
variable {r r' : RadioLink} {b b' : Board}

/-- A read through a descriptor naming the link's UART takes the front `R` of its receive ring,
nothing when the read fails, and hands it to the decoder; the answer counts the frames that
completed. -/
theorem exec_readAndDecode {fd : Fd} {u : Uart} {k : Nat}
    (ht : b.machine.table.lookup fd = .ok r.device) (hu : b.machine.uartAt r.device = some u)
    (h : exec (readAndDecode fd) r b = (.ok (k, r'), b')) :
    ∃ R u', b'.machine.uartAt r.device = some u' ∧ u.rx = R ++ u'.rx ∧
      b'.machine.table = b.machine.table ∧ { r' with counters := r.counters } = r.received R ∧
      Counted r.counters r'.counters (r.decoder.decode R).2 ∧ k = (payloads (r.decoder.decode R).2).length := by
  unfold readAndDecode at h
  obtain ⟨res, r₁, b₁, h₁, h⟩ := exec_bind_ok h
  simp only [exec_onMachine, Machine.run_readFd_uart ht hu, Prod.mk.injEq, Except.ok.injEq] at h₁
  obtain ⟨⟨rfl, rfl⟩, rfl⟩ := h₁
  have hu₁ := Machine.WireFrame.uartAt_modify_self hu (u.read maxFrameSize).2
  rcases Uart.read_rx u maxFrameSize with ⟨hok, hrx⟩ | ⟨⟨e, herr⟩, hrx⟩
  · -- the read handed out the front of the ring, which is never longer than a frame buffer
    rw [hok] at h
    simp only [Except.map, Except.mapError] at h
    have hbytes : ∀ R : List UInt8, R.length ≤ maxFrameSize →
        (R ++ List.replicate (min R.length maxFrameSize - R.length) 0).take (min R.length maxFrameSize) = R := by
      intro R hR
      rw [Nat.min_eq_left hR, Nat.sub_self]
      simp
    rw [hbytes _ (List.length_take_le _ _)] at h
    obtain ⟨_, r₂, b₂, h₂, h⟩ := exec_bind_ok h
    simp only [exec_get, Prod.mk.injEq, Except.ok.injEq] at h₂
    obtain ⟨⟨rfl, rfl⟩, rfl⟩ := h₂
    obtain ⟨_, r₃, b₃, h₃, h⟩ := exec_bind_ok h
    simp only [exec_set, Prod.mk.injEq, Except.ok.injEq] at h₃
    obtain ⟨⟨-, rfl⟩, rfl⟩ := h₃
    obtain ⟨rfl, hr', hc, hd, ht'⟩ := exec_settleAll _ h
    refine ⟨u.rx.take maxFrameSize, (u.read maxFrameSize).2, ?_, ?_, ht', hr', hc, Nat.zero_add _⟩
    · rw [Machine.uartAt_eq_of_devices hd]
      exact hu₁
    · rw [hrx, List.take_append_drop]
  · -- a failed read took nothing
    rw [herr] at h
    simp only [Except.map, Except.mapError] at h
    have hkeep : exec (pure 0) r
        { b with machine := { b.machine with
          devices := b.machine.devices.modify r.device fun _ => .uart (u.read maxFrameSize).2 } } =
          (.ok (k, r'), b') →
        ∃ R u', b'.machine.uartAt r.device = some u' ∧ u.rx = R ++ u'.rx ∧
          b'.machine.table = b.machine.table ∧ { r' with counters := r.counters } = r.received R ∧
          Counted r.counters r'.counters (r.decoder.decode R).2 ∧ k = (payloads (r.decoder.decode R).2).length := by
      intro hpure
      simp only [exec_pure, Prod.mk.injEq, Except.ok.injEq] at hpure
      obtain ⟨⟨rfl, rfl⟩, rfl⟩ := hpure
      exact ⟨[], (u.read maxFrameSize).2, hu₁, by rw [hrx]; rfl, rfl, (received_nil r).symm, .refl _, rfl⟩
    cases e with
    | wouldBlock => exact hkeep h
    | error e =>
      simp only [IoFailure.map] at h
      split at h
      · exact hkeep h
      · exact absurd h (exec_fatal_ne _ _)

end Read

/-- How many frame completions a wait for input announces: those its read completed. -/
def completions : Except ThreadError Nat → Nat
  | .ok n => n
  | .error _ => 0

/-- The receive side of an up link brought up as `r₀`: its descriptor names its UART; the
receive calls on that UART accepted `S`, of which the link read the front `R` and the rest is
still in the ring; the link, with the frames `T` taken from its queue put back in front and the
counters of `r₀`, is `r₀` after taking in `R`, and its counters counted what that reported; and
`K` frame completions were announced, one per frame queued. -/
structure RxState (r₀ : RadioLink) (S : List UInt8) (T : List (List UInt8)) (K : Nat) (r : RadioLink)
    (b : Board) : Prop where
  descriptor : ∃ fd, r.fd = some fd ∧ b.machine.table.lookup fd = .ok r.device
  ring : ∃ R u, b.machine.uartAt r.device = some u ∧ S = R ++ u.rx ∧
    { r with frames := T ++ r.frames, counters := r₀.counters } = r₀.received R ∧
    Counted r₀.counters r.counters (r₀.decoder.decode R).2
  callbacks : K = T.length + r.frames.length

namespace RxState

variable {r₀ r r' : RadioLink} {b b' : Board} {S : List UInt8} {T : List (List UInt8)} {K : Nat}

/-- Whatever the wire side does to the UART adds what its receive calls accepted to `S`. -/
theorem wire {X : List UInt8} (hs : RxState r₀ S T K r b)
    (hw : Machine.WireFrame r.device X b.machine b'.machine) : RxState r₀ (S ++ X) T K r b' := by
  obtain ⟨fd, hfd, ht⟩ := hs.descriptor
  obtain ⟨R, u, hu, hS, hr, hc⟩ := hs.ring
  obtain ⟨u', hu', hw'⟩ := hw.uart u hu
  refine ⟨⟨fd, hfd, by rw [hw.table]; exact ht⟩, ⟨R, u', hu', ?_, hr, hc⟩, hs.callbacks⟩
  rw [hS, hw'.rx, List.append_assoc]

/-- Work that leaves the devices and the descriptor table alone keeps the receive side. -/
theorem of_eq (hs : RxState r₀ S T K r b) (hd : b'.machine.devices = b.machine.devices)
    (ht : b'.machine.table = b.machine.table) : RxState r₀ S T K r b' := by
  have hs' := hs.wire (Machine.WireFrame.of_eq hd ht)
  rwa [List.append_nil] at hs'

/-- A read and decode through the link's descriptor moves the front of the ring into the
decoder and announces the frames it completed. -/
theorem readAndDecode {fd : Fd} {k : Nat} (hs : RxState r₀ S T K r b) (hfd : r.fd = some fd)
    (h : exec (RadioLink.readAndDecode fd) r b = (.ok (k, r'), b')) : RxState r₀ S T (K + k) r' b' := by
  obtain ⟨fd', hfd', ht⟩ := hs.descriptor
  obtain rfl : fd' = fd := Option.some.inj (hfd'.symm.trans hfd)
  obtain ⟨R, u, hu, hS, hr, hc⟩ := hs.ring
  obtain ⟨R', u', hu', hrx, ht', hr', hc', rfl⟩ := exec_readAndDecode ht hu h
  have hdec : r.decoder = (r₀.decoder.decode R).1 := congrArg RadioLink.decoder hr
  have hframes : r'.frames = r.frames ++ payloads (r.decoder.decode R').2 := congrArg RadioLink.frames hr'
  have hfd'' : r'.fd = r.fd := by
    have h := congrArg RadioLink.fd hr'
    exact h
  have hdev : r'.device = r.device := by
    have h := congrArg RadioLink.device hr'
    exact h
  refine ⟨⟨fd', hfd''.trans hfd', by rw [ht', hdev]; exact ht⟩, ⟨R ++ R', u', by rw [hdev]; exact hu', ?_, ?_, ?_⟩, ?_⟩
  · rw [hS, hrx, List.append_assoc]
  · -- the link after `R'` is the link after `R` taking in `R'`, taken frames and counters apart
    rw [← received_append, ← hr, received_with, ← hr', hframes, List.append_assoc]
  · rw [Decoder.decode_append, ← hdec]
    exact hc.trans hc'
  · rw [hs.callbacks, hframes, List.length_append]
    omega

/-- The mainloop's process pass reads and decodes when the descriptor is ready for reading. -/
theorem process {ctx : PollContext} {k : Nat} (hs : RxState r₀ S T K r b)
    (h : exec (RadioLink.process ctx) r b = (.ok (k, r'), b')) : RxState r₀ S T (K + k) r' b' := by
  obtain ⟨fd, hfd, -⟩ := hs.descriptor
  unfold RadioLink.process at h
  obtain ⟨_, r₁, b₁, h₁, h⟩ := exec_bind_ok h
  simp only [exec_get, Prod.mk.injEq, Except.ok.injEq] at h₁
  obtain ⟨⟨rfl, rfl⟩, rfl⟩ := h₁
  simp only [hfd] at h
  split at h
  · simp only [exec_pure, Prod.mk.injEq, Except.ok.injEq] at h
    obtain ⟨⟨rfl, rfl⟩, rfl⟩ := h
    exact hs
  · obtain ⟨_, r₂, b₂, h₂, h⟩ := exec_bind_ok h
    simp only [exec_log, Prod.mk.injEq, Except.ok.injEq] at h₂
    obtain ⟨⟨-, rfl⟩, rfl⟩ := h₂
    refine RxState.readAndDecode ?_ hfd h
    exact hs.of_eq rfl rfl

/-- A wait for input adds to `S` what the wire side's receive calls accepted while its
`select` waited, then reads and decodes if the descriptor became readable. -/
theorem waitForFrame {t : Span} {fd : Fd} {X : List UInt8} {v : Except ThreadError Nat}
    (hs : RxState r₀ S T K r b) (hfd : r.fd = some fd)
    (hX : Machine.WireFrame r.device X b.machine
      ((Machine.select (((PollContext.new t).addRead fd).addError fd)).run b.machine).2)
    (h : exec (RadioLink.waitForFrame t) r b = (.ok (v, r'), b')) :
    RxState r₀ (S ++ X) T (K + completions v) r' b' := by
  unfold RadioLink.waitForFrame at h
  obtain ⟨_, r₁, b₁, h₁, h⟩ := exec_bind_ok h
  simp only [exec_get, Prod.mk.injEq, Except.ok.injEq] at h₁
  obtain ⟨⟨rfl, rfl⟩, rfl⟩ := h₁
  simp only [hfd] at h
  obtain ⟨res, r₂, b₂, h₂, h⟩ := exec_bind_ok h
  simp only [exec_onMachine, Prod.mk.injEq, Except.ok.injEq] at h₂
  obtain ⟨⟨rfl, rfl⟩, rfl⟩ := h₂
  have hs₁ : RxState r₀ (S ++ X) T K r
      { b with machine := ((Machine.select (((PollContext.new t).addRead fd).addError fd)).run b.machine).2 } :=
    hs.wire hX
  split at h
  · split at h
    · -- nothing became ready: a timeout, and no read
      simp only [exec_pure, Prod.mk.injEq, Except.ok.injEq] at h
      obtain ⟨⟨rfl, rfl⟩, rfl⟩ := h
      exact hs₁
    · split at h
      · obtain ⟨k, r₃, b₃, h₃, h⟩ := exec_bind_ok h
        simp only [exec_pure, Prod.mk.injEq, Except.ok.injEq] at h
        obtain ⟨⟨rfl, rfl⟩, rfl⟩ := h
        exact hs₁.readAndDecode hfd h₃
      · exact absurd h (exec_fatal_ne _ _)
  · split at h
    · -- an interrupted wait reads nothing
      simp only [exec_pure, Prod.mk.injEq, Except.ok.injEq] at h
      obtain ⟨⟨rfl, rfl⟩, rfl⟩ := h
      exact hs₁
    · exact absurd h (exec_fatal_ne _ _)

/-- The frames `T` taken from the queue grow by what `takeFrame` handed out. -/
theorem takeFrame {f : Option (List UInt8)} (hs : RxState r₀ S T K r b)
    (h : exec RadioLink.takeFrame r b = (.ok (f, r'), b')) : RxState r₀ S (T ++ f.toList) K r' b' := by
  unfold RadioLink.takeFrame at h
  simp only [exec_modifyGet, Prod.mk.injEq, Except.ok.injEq] at h
  obtain ⟨⟨rfl, rfl⟩, rfl⟩ := h
  obtain ⟨fd, hfd, ht⟩ := hs.descriptor
  obtain ⟨R, u, hu, hS, hr, hcount⟩ := hs.ring
  cases hfr : r.frames with
  | nil =>
    simp only [Option.toList_none, List.append_nil]
    exact hs
  | cons g gs =>
    simp only [hfr] at hr hs ⊢
    refine ⟨⟨fd, hfd, ht⟩, ⟨R, u, hu, hS, by simpa using hr, hcount⟩, ?_⟩
    have hc := hs.callbacks
    rw [hfr] at hc
    simp only [List.length_cons, List.length_append, Option.toList_some, List.length_nil] at hc ⊢
    omega

/-- A bring-up that succeeded starts the receive side: nothing accepted, read, taken or
announced yet. -/
theorem init {r₁ : RadioLink} {b₁ : Board} {u : Uart} (hu : b.machine.uartAt r.device = some u)
    (h : exec RadioLink.init r b = (.ok (.ok (), r₁), b₁)) : RxState r₁ [] [] 0 r₁ b₁ := by
  obtain ⟨fd, u', rfl, hinst, ht, hu'⟩ := init_ok hu h
  have hrx : u'.rx = [] := by
    rw [Uart.install_eq_ok hinst]
  refine ⟨⟨fd, rfl, ht⟩, ⟨[], u', hu', by rw [hrx]; rfl, by simp, .refl _⟩, rfl⟩

end RxState

/-- The runs of the receive side of a link brought up as `r₀` on board `b₀`, one step at a time:
the wire side works the machine and its receive calls on the link's UART accept `X`; a process
pass runs; a wait for input runs, and its `select` let the wire side accept `X`; or a frame is
taken from the queue. `S` is what the receive calls accepted, in order, `T` the frames taken,
and `K` the frame completions announced to the receive callback. -/
inductive RxRun (r₀ : RadioLink) (b₀ : Board) :
    List UInt8 → List (List UInt8) → Nat → RadioLink → Board → Prop
  | start : RxRun r₀ b₀ [] [] 0 r₀ b₀
  | wire {S T K r b b' X} : RxRun r₀ b₀ S T K r b →
      Machine.WireFrame r.device X b.machine b'.machine → RxRun r₀ b₀ (S ++ X) T K r b'
  | process {S T K r b ctx k r' b'} : RxRun r₀ b₀ S T K r b →
      exec (process ctx) r b = (.ok (k, r'), b') → RxRun r₀ b₀ S T (K + k) r' b'
  | wait {S T K r b t fd X v r' b'} : RxRun r₀ b₀ S T K r b → r.fd = some fd →
      Machine.WireFrame r.device X b.machine
        ((Machine.select (((PollContext.new t).addRead fd).addError fd)).run b.machine).2 →
      exec (waitForFrame t) r b = (.ok (v, r'), b') →
      RxRun r₀ b₀ (S ++ X) T (K + completions v) r' b'
  | take {S T K r b f r' b'} : RxRun r₀ b₀ S T K r b →
      exec takeFrame r b = (.ok (f, r'), b') → RxRun r₀ b₀ S (T ++ f.toList) K r' b'

/-- Every run of the receive side keeps `RxState`, one step lemma per kind of step. -/
theorem RxRun.rxState {r₀ r : RadioLink} {b₀ b : Board} {S : List UInt8} {T : List (List UInt8)} {K : Nat}
    (h₀ : RxState r₀ [] [] 0 r₀ b₀) (h : RxRun r₀ b₀ S T K r b) : RxState r₀ S T K r b := by
  induction h with
  | start => exact h₀
  | wire _ hw ih => exact ih.wire hw
  | process _ hp ih => exact ih.process hp
  | wait _ hfd hX hw ih => exact ih.waitForFrame hfd hX hw
  | take _ ht ih => exact ih.takeFrame ht

/-- The receive path conserves frames. After a successful bring-up of a link whose decoder
holds a frame of `maxFrameSize` octets, over a UART, and whatever runs after it: the wire side
accepted `S`, of which the link read the front `R`, the rest still in the ring; the frames taken
from the queue and those still queued are, in order, the payloads a fresh decoder reports for
`R`; the 32-bit counters grew by the frames and the drops it reports, neither passing its
range; and the receive callback was announced once per frame. -/
theorem receive_path_conserves_frames {r₀ r₁ r : RadioLink} {b₀ b₁ b : Board} {u₀ : Uart}
    {S : List UInt8} {T : List (List UInt8)} {K : Nat}
    (hcap : r₀.decoder.buffer.capacity = maxFrameSize) (hu₀ : b₀.machine.uartAt r₀.device = some u₀)
    (hinit : exec init r₀ b₀ = (.ok (.ok (), r₁), b₁)) (hrun : RxRun r₁ b₁ S T K r b) :
    ∃ R u, b.machine.uartAt r.device = some u ∧ S = R ++ u.rx ∧
      r.decoder = ((Decoder.new maxFrameSize).decode R).1 ∧
      T ++ r.frames = payloads ((Decoder.new maxFrameSize).decode R).2 ∧
      r.counters.rxFrames.toNat =
        r₀.counters.rxFrames.toNat + (payloads ((Decoder.new maxFrameSize).decode R).2).length ∧
      r.counters.rxDropped.toNat = r₀.counters.rxDropped.toNat + dropped ((Decoder.new maxFrameSize).decode R).2 ∧
      K = (payloads ((Decoder.new maxFrameSize).decode R).2).length := by
  have hs := hrun.rxState (RxState.init hu₀ hinit)
  obtain ⟨fd, u', rfl, -, -, -⟩ := init_ok hu₀ hinit
  have hnew : r₀.decoder.reset = Decoder.new maxFrameSize := by
    rw [← hcap]
    rfl
  obtain ⟨R, u, hu, hS, hr, hc⟩ := hs.ring
  have hK := hs.callbacks
  have hcounted : Counted r₀.counters r.counters ((Decoder.new maxFrameSize).decode R).2 := by
    rw [← hnew]
    exact hc
  simp only [received, settled, hnew, RadioLink.mk.injEq, List.nil_append] at hr
  obtain ⟨-, -, -, -, -, -, hdec, hframes, -⟩ := hr
  refine ⟨R, u, hu, hS, hdec, hframes, hcounted.rx, hcounted.drops, ?_⟩
  rw [hK, ← List.length_append, hframes]

/-- On the standard board, one frame carrying `01` arrives after the bring-up; a process pass
queues it and announces it once, and it is then taken from the queue. -/
theorem receive_path_one_frame :
    ∃ r₁ b₁ r b, (new 2 UartParams.radioLink 256 128 (Span.ofMillis 2000)).decoder.buffer.capacity =
        maxFrameSize ∧
      (Board.new PlatformParams.standard).machine.uartAt 2 = some (Uart.new 1) ∧
      exec init (new 2 UartParams.radioLink 256 128 (Span.ofMillis 2000)) (Board.new PlatformParams.standard) =
        (.ok (.ok (), r₁), b₁) ∧
      RxRun r₁ b₁ [0x7E, 0x01, 0xF1, 0xE1, 0x7E] [[0x01]] 1 r b ∧
      ∃ R u, b.machine.uartAt r.device = some u ∧ [0x7E, 0x01, 0xF1, 0xE1, 0x7E] = R ++ u.rx ∧
        r.decoder = ((Decoder.new maxFrameSize).decode R).1 ∧
        [[0x01]] ++ r.frames = payloads ((Decoder.new maxFrameSize).decode R).2 ∧
        r.counters.rxFrames.toNat = 0 + (payloads ((Decoder.new maxFrameSize).decode R).2).length ∧
        r.counters.rxDropped.toNat = 0 + dropped ((Decoder.new maxFrameSize).decode R).2 ∧
        1 = (payloads ((Decoder.new maxFrameSize).decode R).2).length := by
  let r₀ := new 2 UartParams.radioLink 256 128 (Span.ofMillis 2000)
  let b₀ := Board.new PlatformParams.standard
  let r₁ : RadioLink := { r₀ with fd := some ⟨3, by decide⟩ }
  let b₁ := (exec init r₀ b₀).2
  let F : List UInt8 := [0x7E, 0x01, 0xF1, 0xE1, 0x7E]
  let b₂ : Board := { b₁ with machine := ((Machine.receive 2 F).run b₁.machine).2 }
  let ctx := (PollContext.new Span.zero).addRead ⟨3, by decide⟩
  let b₃ := (exec (process ctx) r₁ b₂).2
  have hinit : exec init r₀ b₀ = (.ok (.ok (), r₁), b₁) := rfl
  have hu₁ : b₁.machine.uartAt 2 =
      some { Uart.new 1 with
        installed := true, params := some UartParams.radioLink, rxCapacity := 256, txCapacity := 128 } :=
    rfl
  have hwire : RxRun r₁ b₁ F [] 0 r₁ b₂ := .wire .start (Machine.wireFrame_receive hu₁ F)
  let r₂ : RadioLink := { r₁.received F with counters := ⟨0, 1, 0⟩ }
  have hproc : exec (process ctx) r₁ b₂ = (.ok (1, r₂), b₃) := by
    dsimp only [r₂, r₁, b₂, b₃, ctx, F, b₁, r₀, b₀]
    rfl
  have htake : exec takeFrame r₂ b₃ = (.ok (some [0x01], { r₂ with frames := [] }), b₃) := by
    dsimp only [r₂, r₁, b₂, b₃, ctx, F, b₁, r₀, b₀]
    rfl
  have hrun : RxRun r₁ b₁ F [[0x01]] 1 { r₂ with frames := [] } b₃ :=
    .take (.process hwire hproc) htake
  exact ⟨r₁, b₁, _, b₃, rfl, rfl, hinit, hrun, receive_path_conserves_frames rfl rfl hinit hrun⟩

end RadioLink

end ThreadPlatform
