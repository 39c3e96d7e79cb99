import ThreadPlatform.Proofs.Platform.PseudoReset
import ThreadPlatform.Proofs.Radio.Receive
import ThreadPlatform.Proofs.Radio.Transmit
import ThreadPlatform.Proofs.Host.LineAssembly

/-!
# How platform work moves received frames

The radio link queues every frame it decodes, in the process pass's radio slot or in a wait for
input, and only its own work appends to the queue (`RadioLink.frames_process`,
`RadioLink.frames_waitForFrame`); a send leaves it alone. The host shell reports frames by
taking them from the front of the queue and handing each to the console on a line of its own;
since the lines never look at the queue, printing as many frames as it holds is handing the
queued frames over from an emptied queue (`Shell.exec_printFrames`, `Shell.exec_reportFrames`).

`Platform.Flow` takes a normal run of platform work apart into steps whose effect on the queue
is known, logging the frames handed to the console and the frames appended, and
`Platform.Flow.frames` is their conservation: what the queue held followed by what was
appended is what was handed over followed by what the queue holds after. `Platform.Flows` and
`Platform.Still` say that every normal run of some work has such a decomposition, in general or
with both logs empty; both compose along the monad, and the platform's own passes are still.
-/

namespace ThreadPlatform

open Board

/-! ## What the link's work does to the queue -/

namespace RadioLink

open Hdlc

section Queue
variable {r r' : RadioLink} {b b' : Board}

/-- Answering at once leaves the queue as it was. -/
theorem frames_pure {α : Type} {a a' : α} (h : exec (pure a : StateT RadioLink BoardM α) r b = (.ok (a', r'), b')) :
    a' = a ∧ r'.frames = r.frames ++ [] := by
  simp only [exec_pure, Prod.mk.injEq, Except.ok.injEq] at h
  obtain ⟨⟨rfl, rfl⟩, rfl⟩ := h
  exact ⟨rfl, (List.append_nil _).symm⟩

/-- Decoding what a read handed over only appends to the queue, as many frames as it answers. -/
theorem frames_readAndDecode {fd : Fd} {k : Nat} (h : exec (readAndDecode fd) r b = (.ok (k, r'), b')) :
    ∃ new, r'.frames = r.frames ++ new ∧ new.length = k := by
  unfold readAndDecode at h
  obtain ⟨res, r₁, b₁, h₁, h⟩ := exec_bind_ok h
  simp only [exec_onMachine, Prod.mk.injEq, Except.ok.injEq] at h₁
  obtain ⟨⟨rfl, rfl⟩, rfl⟩ := h₁
  split at h
  · obtain ⟨rfl, hq⟩ := frames_pure h
    exact ⟨[], hq, rfl⟩
  · split at h
    · obtain ⟨rfl, hq⟩ := frames_pure h
      exact ⟨[], hq, rfl⟩
    · exact absurd h (exec_fatal_ne _ _)
  · obtain ⟨_, r₂, b₂, h₂, h⟩ := exec_bind_ok h
    simp only [exec_get, Prod.mk.injEq, Except.ok.injEq] at h₂
    obtain ⟨⟨rfl, rfl⟩, rfl⟩ := h₂
    obtain ⟨_, r₃, b₃, h₃, h⟩ := exec_bind_ok h
    simp only [exec_set, Prod.mk.injEq, Except.ok.injEq] at h₃
    obtain ⟨⟨-, rfl⟩, rfl⟩ := h₃
    obtain ⟨rfl, hr', -, -, -⟩ := exec_settleAll _ h
    have hframes := congrArg RadioLink.frames hr'
    exact ⟨_, hframes, (Nat.zero_add _).symm⟩

/-- The process pass only appends to the queue, as many frames as it answers. -/
theorem frames_process {ctx : PollContext} {k : Nat} (h : exec (process ctx) r b = (.ok (k, r'), b')) :
    ∃ new, r'.frames = r.frames ++ new ∧ new.length = k := by
  unfold process at h
  obtain ⟨_, r₁, b₁, h₁, h⟩ := exec_bind_ok h
  simp only [exec_get, Prod.mk.injEq, Except.ok.injEq] at h₁
  obtain ⟨⟨rfl, rfl⟩, rfl⟩ := h₁
  split at h
  · split at h
    · obtain ⟨rfl, hq⟩ := frames_pure h
      exact ⟨[], hq, rfl⟩
    · obtain ⟨_, r₂, b₂, h₂, h⟩ := exec_bind_ok h
      simp only [exec_log, Prod.mk.injEq, Except.ok.injEq] at h₂
      obtain ⟨⟨-, rfl⟩, rfl⟩ := h₂
      exact frames_readAndDecode h
  · obtain ⟨rfl, hq⟩ := frames_pure h
    exact ⟨[], hq, rfl⟩

/-- A wait for input only appends to the queue, as many frames as it announces. -/
theorem frames_waitForFrame {t : Span} {v : Except ThreadError Nat} (h : exec (waitForFrame t) r b = (.ok (v, r'), b')) :
    ∃ new, r'.frames = r.frames ++ new ∧ new.length = completions v := by
  unfold waitForFrame at h
  obtain ⟨_, r₁, b₁, h₁, h⟩ := exec_bind_ok h
  simp only [exec_get, Prod.mk.injEq, Except.ok.injEq] at h₁
  obtain ⟨⟨rfl, rfl⟩, rfl⟩ := h₁
  cases hfd : r.fd with
  | none =>
    simp only [hfd] at h
    obtain ⟨rfl, hq⟩ := frames_pure h
    exact ⟨[], hq, rfl⟩
  | some fd =>
    simp only [hfd] at h
    obtain ⟨res, r₂, b₂, h₂, h⟩ := exec_bind_ok h
    simp only [exec_onMachine, Prod.mk.injEq, Except.ok.injEq] at h₂
    obtain ⟨⟨rfl, rfl⟩, rfl⟩ := h₂
    -- every answer but a read's leaves the link as it was and announces nothing
    split at h
    · split at h
      · obtain ⟨rfl, hq⟩ := frames_pure h
        exact ⟨[], hq, rfl⟩
      · split at h
        · obtain ⟨k, r₃, b₃, h₃, h⟩ := exec_bind_ok h
          simp only [exec_pure, Prod.mk.injEq, Except.ok.injEq] at h
          obtain ⟨⟨rfl, rfl⟩, rfl⟩ := h
          exact frames_readAndDecode h₃
        · exact absurd h (exec_fatal_ne _ _)
    · split at h
      · obtain ⟨rfl, hq⟩ := frames_pure h
        exact ⟨[], hq, rfl⟩
      · exact absurd h (exec_fatal_ne _ _)

/-- A send leaves the queue alone. -/
theorem frames_sendFrame {p : List UInt8} {res : Except ThreadError Unit}
    (h : exec (sendFrame p) r b = (.ok (res, r'), b')) : r'.frames = r.frames := by
  cases hfd : r.fd with
  | none =>
    rw [exec_sendFrame_unbound hfd] at h
    simp only [Prod.mk.injEq, Except.ok.injEq] at h
    obtain ⟨⟨-, rfl⟩, -⟩ := h
    rfl
  | some fd =>
    cases he : encodeFrame maxFrameSize p with
    | error e =>
      obtain ⟨rec, hrun⟩ := exec_sendFrame_unframed (b := b) hfd he
      rw [hrun] at h
      simp only [Prod.mk.injEq, Except.ok.injEq] at h
      obtain ⟨⟨-, rfl⟩, -⟩ := h
      rfl
    | ok w =>
      obtain ⟨-, -, -, -, hr'⟩ := exec_sendFrame_framed hfd he h
      rcases hr' with ⟨-, -, rfl⟩ | ⟨-, rfl⟩ <;> rfl

end Queue

end RadioLink

/-! ## Work that does not touch the queue -/

namespace Platform

variable {α β : Type}

/-- The platform with the link's queue replaced by `q`. -/
def withFrames (p : Platform) (q : List (List UInt8)) : Platform :=
  { p with radio := { p.radio with frames := q } }

@[simp] theorem frames_withFrames (p : Platform) (q : List (List UInt8)) : (p.withFrames q).radio.frames = q :=
  rfl

theorem withFrames_self (p : Platform) : p.withFrames p.radio.frames = p :=
  rfl

@[simp] theorem withFrames_withFrames (p : Platform) (q q' : List (List UInt8)) :
    (p.withFrames q).withFrames q' = p.withFrames q' :=
  rfl

/-- Work that neither reads nor changes the link's queue: run with the queue replaced, it does
the same and leaves the queue it was given. -/
def QueueBlind (act : PlatformM α) : Prop :=
  ∀ p b q, exec act (p.withFrames q) b =
    match exec act p b with
    | (.ok (a, p'), b') => (.ok (a, p'.withFrames q), b')
    | (.error e, b') => (.error e, b')

namespace QueueBlind

/-- Such work leaves the queue as it found it. -/
theorem frames {act : PlatformM α} (h : QueueBlind act) {p p' : Platform} {b b' : Board} {a : α}
    (hrun : exec act p b = (.ok (a, p'), b')) : p'.radio.frames = p.radio.frames := by
  have hself := h p b p.radio.frames
  rw [withFrames_self, hrun] at hself
  simp only [Prod.mk.injEq, Except.ok.injEq] at hself
  rw [hself.1.2]
  rfl

theorem pure (a : α) : QueueBlind (Pure.pure a : PlatformM α) := fun _ _ _ => rfl

theorem bind {x : PlatformM α} {f : α → PlatformM β} (hx : QueueBlind x) (hf : ∀ a, QueueBlind (f a)) :
    QueueBlind (x >>= f) := by
  intro p b q
  rw [exec_bind, exec_bind, hx]
  rcases exec x p b with ⟨_ | ⟨a, p₁⟩, b₁⟩
  · rfl
  · exact hf a p₁ b₁ q

theorem board (x : BoardM α) : QueueBlind (liftM x : PlatformM α) := by
  intro p b q
  rw [exec_liftM, exec_liftM]
  rcases x.run.run b with ⟨_ | a, b₁⟩ <;> rfl

theorem console (act : StateT ConsolePort BoardM α) : QueueBlind (onConsole act) := by
  intro p b q
  rw [exec_onConsole, exec_onConsole, show (p.withFrames q).console = p.console from rfl]
  rcases exec act p.console b with ⟨_ | ⟨a, c⟩, b₁⟩ <;> rfl

theorem getBoard : QueueBlind (getThe Board : PlatformM Board) := fun _ _ _ => rfl

/-- Blind work run on a queue `q` and on an empty queue continues alike, as long as what
follows does the same on either. -/
theorem exec_bind_withFrames {x : PlatformM α} (hx : QueueBlind x) {f g : α → PlatformM β}
    (p : Platform) (b : Board) (q : List (List UInt8))
    (hfg : ∀ a p₁ b₁, p₁.radio.frames = [] → exec (f a) (p₁.withFrames q) b₁ = exec (g a) p₁ b₁) :
    exec (x >>= f) (p.withFrames q) b = exec (x >>= g) (p.withFrames []) b := by
  rw [exec_bind, exec_bind, ← withFrames_withFrames p [] q, hx]
  rcases hrun : exec x (p.withFrames []) b with ⟨_ | ⟨a, p₁⟩, b₁⟩
  · rfl
  · exact hfg a p₁ b₁ (hx.frames hrun)

end QueueBlind

end Platform

/-! ## Reporting the queue -/

namespace Shell

open Platform

/-- Hands one frame to the console: its line, stamped with the board's wall-clock time, then a
line break. -/
def reportLine (json : Bool) (frame : List UInt8) : PlatformM Unit := do
  reply (frameLine json (← getThe Board).wallMillis frame)
  reply "\n"

/-- Hands the frames to the console, a line each, in order. -/
def reportLines (json : Bool) : List (List UInt8) → PlatformM Unit
  | [] => pure ()
  | f :: fs => do
    reportLine json f
    reportLines json fs

theorem queueBlind_reply (text : String) : QueueBlind (reply text) := by
  unfold reply
  refine QueueBlind.bind (QueueBlind.console _) fun r => ?_
  split
  · exact QueueBlind.pure _
  · exact QueueBlind.board _

theorem queueBlind_reportLine (json : Bool) (frame : List UInt8) : QueueBlind (reportLine json frame) :=
  QueueBlind.bind QueueBlind.getBoard fun _ =>
    QueueBlind.bind (queueBlind_reply _) fun _ => queueBlind_reply _

theorem queueBlind_reportLines (json : Bool) : ∀ frames, QueueBlind (reportLines json frames)
  | [] => QueueBlind.pure ()
  | f :: fs => QueueBlind.bind (queueBlind_reportLine json f) fun _ => queueBlind_reportLines json fs

/-- Printing as many frames as the queue holds is handing them to the console, a line each, in
queue order, from a queue emptied first: the lines never look at the queue. -/
theorem exec_printFrames (json : Bool) (fs : List (List UInt8)) (p : Platform) (b : Board) :
    exec (printFrames json fs.length) (p.withFrames fs) b = exec (reportLines json fs) (p.withFrames []) b := by
  induction fs generalizing p b with
  | nil => rfl
  | cons f fs ih =>
    have htake : exec (onRadio RadioLink.takeFrame) (p.withFrames (f :: fs)) b = (.ok (some f, p.withFrames fs), b) :=
      rfl
    have hstep : exec (printFrames json (f :: fs).length) (p.withFrames (f :: fs)) b =
        exec (reportLine json f >>= fun _ => printFrames json fs.length) (p.withFrames fs) b := by
      rw [List.length_cons, printFrames, exec_bind, htake]
      simp only [reportLine, bind_assoc]
    rw [hstep, reportLines]
    refine QueueBlind.exec_bind_withFrames (queueBlind_reportLine json f) p b fs fun _ p₁ b₁ h₁ => ?_
    rw [ih, ← h₁, withFrames_self]

/-- A report hands every queued frame to the console, in order, empties the queue and lowers
the flag. -/
theorem exec_reportFrames (sh : Shell) (p : Platform) (b : Board) :
    exec sh.reportFrames p b =
      match exec (reportLines sh.json p.radio.frames) (p.withFrames []) b with
      | (.ok ((), p'), b') => (.ok ({ sh with framesReady := false }, p'), b')
      | (.error e, b') => (.error e, b') := by
  unfold reportFrames
  rw [exec_bind, exec_get]
  dsimp only
  rw [exec_bind, ← exec_printFrames, withFrames_self]
  rcases exec (printFrames sh.json p.radio.frames.length) p b with ⟨_ | ⟨⟨⟩, p'⟩, b'⟩ <;> rfl

end Shell

/-! ## How work moves frames through the queue -/

namespace Platform

variable {α β : Type}

/-- A normal run of platform work from `(p, b)` that answered `a` at `(p', b')`, taken apart
into steps whose effect on the radio link's queue is known: the frames `sent` were taken from
the front of the queue and handed to the console, a line each, and the frames `appended` were
decoded onto its back, both in order. Board work, the console, and changes of the platform that
keep the queue leave it alone; the link's own work only appends to it; and printing as many
frames as the queue holds hands over all of them. -/
inductive Flow : {α : Type} → PlatformM α → Platform → Board → α → Platform → Board →
    List (List UInt8) → List (List UInt8) → Prop
  | board {α : Type} {x : BoardM α} {p : Platform} {b b' : Board} {a : α} :
      x.run.run b = (.ok a, b') → Flow (liftM x) p b a p b' [] []
  | pure {α : Type} (a : α) (p : Platform) (b : Board) : Flow (Pure.pure a) p b a p b [] []
  | get (p : Platform) (b : Board) : Flow MonadState.get p b p p b [] []
  | modify {f : Platform → Platform} {p : Platform} (b : Board) :
      (f p).radio.frames = p.radio.frames →
      Flow (MonadState.modifyGet fun q => (PUnit.unit, f q)) p b PUnit.unit (f p) b [] []
  | console {α : Type} {act : StateT ConsolePort BoardM α} {p : Platform} {b b' : Board} {a : α}
      {c : ConsolePort} :
      exec act p.console b = (.ok (a, c), b') → Flow (onConsole act) p b a { p with console := c } b' [] []
  | radio {α : Type} {act : StateT RadioLink BoardM α} {p : Platform} {b b' : Board} {a : α} {r : RadioLink}
      {new : List (List UInt8)} :
      exec act p.radio b = (.ok (a, r), b') → r.frames = p.radio.frames ++ new →
      Flow (onRadio act) p b a { p with radio := r } b' [] new
  | print {json : Bool} {p p' : Platform} {b b' : Board} :
      exec (Shell.reportLines json p.radio.frames) (p.withFrames []) b = (.ok ((), p'), b') →
      Flow (Shell.printFrames json p.radio.frames.length) p b () p' b' p.radio.frames []
  | bind {α β : Type} {x : PlatformM α} {f : α → PlatformM β} {p p₁ p₂ : Platform} {b b₁ b₂ : Board}
      {a : α} {c : β} {S₁ S₂ A₁ A₂ : List (List UInt8)} :
      Flow x p b a p₁ b₁ S₁ A₁ → Flow (f a) p₁ b₁ c p₂ b₂ S₂ A₂ →
      Flow (x >>= f) p b c p₂ b₂ (S₁ ++ S₂) (A₁ ++ A₂)

namespace Flow

variable {act : PlatformM α} {p p' : Platform} {b b' : Board} {a : α} {S A : List (List UInt8)}

/-- A decomposed run is a run. -/
theorem exec_eq (h : Flow act p b a p' b' S A) : exec act p b = (.ok (a, p'), b') := by
  induction h with
  | board h => rw [exec_liftM, h]
  | pure a p b => rfl
  | get p b => rfl
  | modify b _ => rfl
  | console h => rw [exec_onConsole, h]
  | radio h _ => rw [exec_onRadio, h]
  | @print json p p' b b' h =>
    have hprint := Shell.exec_printFrames json p.radio.frames p b
    rw [withFrames_self] at hprint
    rw [hprint]
    exact h
  | bind _ _ ih₁ ih₂ =>
    rw [exec_bind, ih₁]
    exact ih₂

/-- Frames are conserved: what the queue held, followed by what was appended, is what was
handed to the console, followed by what the queue holds after. -/
theorem frames (h : Flow act p b a p' b' S A) : p.radio.frames ++ A = S ++ p'.radio.frames := by
  induction h with
  | board _ | pure | get | console _ => simp
  | modify b hf => simp [hf]
  | radio _ hr => simp [hr]
  | print h =>
    -- the lines never look at the queue, which was emptied before them
    rw [(Shell.queueBlind_reportLines _ _).frames h]
    simp
  | @bind _ _ _ _ _ p₁ p₂ _ _ _ _ _ S₁ S₂ A₁ A₂ _ _ ih₁ ih₂ =>
    calc _ = S₁ ++ (p₁.radio.frames ++ A₂) := by rw [← List.append_assoc, ih₁, List.append_assoc]
      _ = S₁ ++ S₂ ++ p₂.radio.frames := by rw [ih₂, List.append_assoc]

end Flow

/-- Every normal run of the work flows. -/
def Flows (act : PlatformM α) : Prop :=
  ∀ p b a p' b', exec act p b = (.ok (a, p'), b') → ∃ S A, Flow act p b a p' b' S A

/-- Every normal run of the work flows handing over no frame and appending none. -/
def Still (act : PlatformM α) : Prop :=
  ∀ p b a p' b', exec act p b = (.ok (a, p'), b') → Flow act p b a p' b' [] []

namespace Still

/-- Still work leaves the queue as it found it. -/
theorem frames {act : PlatformM α} (h : Still act) {p p' : Platform} {b b' : Board} {a : α}
    (hrun : exec act p b = (.ok (a, p'), b')) : p'.radio.frames = p.radio.frames := by
  simpa using ((h p b a p' b' hrun).frames).symm

theorem flows {act : PlatformM α} (h : Still act) : Flows act :=
  fun p b a p' b' hrun => ⟨[], [], h p b a p' b' hrun⟩

theorem pure (a : α) : Still (Pure.pure a : PlatformM α) := by
  intro p b a' p' b' h
  simp only [exec_pure, Prod.mk.injEq, Except.ok.injEq] at h
  obtain ⟨⟨rfl, rfl⟩, rfl⟩ := h
  exact .pure a p b

theorem bind {x : PlatformM α} {f : α → PlatformM β} (hx : Still x) (hf : ∀ a, Still (f a)) :
    Still (x >>= f) := by
  intro p b c p₂ b₂ h
  obtain ⟨a, p₁, b₁, h₁, h₂⟩ := exec_bind_ok h
  exact (hx p b a p₁ b₁ h₁).bind (hf a p₁ b₁ c p₂ b₂ h₂)

theorem ite (c : Prop) [Decidable c] {x y : PlatformM α} (hx : Still x) (hy : Still y) :
    Still (if c then x else y) := by
  split
  · exact hx
  · exact hy

theorem board (x : BoardM α) : Still (liftM x : PlatformM α) := by
  intro p b a p' b' h
  obtain ⟨hrun, rfl⟩ := exec_liftM_ok h
  exact .board hrun

theorem get : Still (MonadState.get : PlatformM Platform) := by
  intro p b a p' b' h
  simp only [exec_get, Prod.mk.injEq, Except.ok.injEq] at h
  obtain ⟨⟨rfl, rfl⟩, rfl⟩ := h
  exact .get p b

theorem modify {f : Platform → Platform} (hf : ∀ p, (f p).radio.frames = p.radio.frames) :
    Still (MonadState.modifyGet fun q => (PUnit.unit, f q) : PlatformM PUnit) := by
  intro p b a p' b' h
  simp only [exec_modifyGet, Prod.mk.injEq, Except.ok.injEq] at h
  obtain ⟨⟨-, rfl⟩, rfl⟩ := h
  exact .modify b (hf p)

theorem console (act : StateT ConsolePort BoardM α) : Still (onConsole act) := by
  intro p b a p' b' h
  obtain ⟨c, hc, rfl⟩ := exec_onConsole_ok h
  exact .console hc

/-- Work on the link that leaves its queue alone. -/
theorem radio {act : StateT RadioLink BoardM α}
    (h : ∀ r b a r' b', exec act r b = (.ok (a, r'), b') → r'.frames = r.frames) : Still (onRadio act) := by
  intro p b a p' b' hrun
  obtain ⟨r, hr, rfl⟩ := exec_onRadio_ok hrun
  exact .radio hr (by rw [h _ _ _ _ _ hr, List.append_nil])

theorem foldlM {γ : Type} {f : β → γ → PlatformM β} (hf : ∀ x c, Still (f x c)) :
    ∀ (l : List γ) (init : β), Still (l.foldlM f init)
  | [], init => pure init
  | c :: l, init => by
    rw [List.foldlM_cons]
    exact bind (hf init c) fun x => foldlM hf l x

end Still

namespace Flows

theorem bind {x : PlatformM α} {f : α → PlatformM β} (hx : Flows x) (hf : ∀ a, Flows (f a)) :
    Flows (x >>= f) := by
  intro p b c p₂ b₂ h
  obtain ⟨a, p₁, b₁, h₁, h₂⟩ := exec_bind_ok h
  obtain ⟨S₁, A₁, c₁⟩ := hx p b a p₁ b₁ h₁
  obtain ⟨S₂, A₂, c₂⟩ := hf a p₁ b₁ c p₂ b₂ h₂
  exact ⟨_, _, c₁.bind c₂⟩

/-- Work on the link that only appends to its queue. -/
theorem radio {act : StateT RadioLink BoardM α}
    (h : ∀ r b a r' b', exec act r b = (.ok (a, r'), b') → ∃ new, r'.frames = r.frames ++ new) :
    Flows (onRadio act) := by
  intro p b a p' b' hrun
  obtain ⟨r, hr, rfl⟩ := exec_onRadio_ok hrun
  obtain ⟨new, hnew⟩ := h _ _ _ _ _ hr
  exact ⟨[], new, .radio hr hnew⟩

end Flows

/-! ## The platform's own passes are still -/

section Passes
variable {σ : Type} [Stack σ]

theorem still_mainloopUpdate (s : σ) (ctx : PollContext) : Still (mainloopUpdate s ctx) := by
  unfold mainloopUpdate
  refine Still.bind Still.get fun p => Still.bind (Still.board _) fun now => ?_
  refine Still.bind (Still.foldlM (fun ctx src => Still.board _) _ _) fun ctx => ?_
  exact Still.ite _ (Still.pure _) (Still.pure _)

theorem still_processAlarm : Still processAlarm := by
  unfold processAlarm
  refine Still.bind Still.get fun p => Still.bind (Still.board _) fun now => ?_
  refine Still.bind (Still.modify fun q => rfl) fun _ => ?_
  exact Still.ite _ (Still.bind (Still.board _) fun _ => Still.pure _) (Still.pure _)

theorem still_processSource (i : Nat) : Still (processSource i) := by
  unfold processSource
  refine Still.bind Still.get fun p => ?_
  split
  · exact Still.pure _
  · refine Still.bind (Still.board _) fun r => ?_
    exact Still.bind (Still.modify fun q => rfl) fun _ => Still.pure _

end Passes

end Platform

end ThreadPlatform
