import ThreadPlatform.Proofs.Host.FrameFlow

/-!
# Received frames are reported once each

A runner driving the host shell hands every frame its radio link decodes to the console once,
in the order decoded. The link queues what it decodes, in the radio's slot of the process pass or
in a `wait` command, and a report (`Shell.reportFrames`) takes the whole queue, a line each, and
lowers the shell's frames-ready flag. The radio's slot raises the flag when it decoded frames,
and the next iteration's tasklets, which run before its update and its wait, report them.

`Shell.Tracks ready p` says that the flag `ready` is up exactly when `p` has frames queued.
`Shell.Reports` is work on the shell's behalf whose runs flow (`Platform.Flows`) and keep the
flag in step with the queue; every upcall of the shell is such work, and so are the platform's
passes run for it.

* `Shell.flow_reportFrames`: a report hands the queue over, empties it and lowers the flag.
* `Shell.flow_wait`: a `wait` that succeeds reports what was queued and then what it decoded,
  at once; one that fails decoded nothing.
* `Shell.flow_iteration`: an iteration's tasklets report exactly the frames queued when it
  began; the rest of it appends frames, reports some of them, and leaves the others queued with
  the flag up.
* `Runner.framesFlagged_run`: along every run of the runner, the flag tracks the queue.

`Runner.frames_reported_once` gathers these with the conservation of frames. It holds between
two bring-ups only: a pseudo-reset taken while frames are queued drops them with the platform,
and the bring-up after it starts from an empty queue (`Runner.reset_strands_queued_frames`).
-/

namespace ThreadPlatform

open Board Platform Console

namespace Shell

/-! ## The flag tracks the queue -/

/-- The flag `ready` is up exactly when the platform's link holds frames. -/
def Tracks (ready : Bool) (p : Platform) : Prop :=
  ready = true ↔ p.radio.frames ≠ []

/-- The shell's flag tracks the platform's queue. -/
def Synced (sh : Shell) (p : Platform) : Prop :=
  Tracks sh.framesReady p

theorem Tracks.of_frames {ready : Bool} {p p' : Platform} (h : Tracks ready p)
    (hq : p'.radio.frames = p.radio.frames) : Tracks ready p' := by
  rw [Tracks, hq]
  exact h

/-- A lowered flag tracks an empty queue. -/
theorem tracks_false {p : Platform} (hq : p.radio.frames = []) : Tracks false p := by
  simp [Tracks, hq]

/-- A raised flag tracks a queue that holds a frame. -/
theorem tracks_true {p : Platform} (hq : p.radio.frames ≠ []) : Tracks true p := by
  simp [Tracks, hq]

/-- Work for a shell whose flag is `ready`: every normal run flows, and run from a platform whose
queue `ready` tracks, ends at one whose queue the flag of its answer, read by `view`, tracks. -/
structure Reports {α : Type} (view : α → Bool) (ready : Bool) (act : PlatformM α) : Prop where
  flows : Flows act
  tracks : ∀ p b a p' b', exec act p b = (.ok (a, p'), b') → Tracks ready p → Tracks (view a) p'

namespace Reports

variable {α β : Type} {ready : Bool}

theorem pure {v : α → Bool} {a : α} (h : v a = ready) : Reports v ready (Pure.pure a : PlatformM α) where
  flows := (Still.pure a).flows
  tracks p b a' p' b' hrun hs := by
    simp only [exec_pure, Prod.mk.injEq, Except.ok.injEq] at hrun
    obtain ⟨⟨rfl, rfl⟩, rfl⟩ := hrun
    rwa [h]

/-- Still work keeps the flag in step: it leaves the queue alone. -/
theorem still {act : PlatformM α} (h : Still act) : Reports (fun _ => ready) ready act where
  flows := h.flows
  tracks _ _ _ _ _ hrun hs := hs.of_frames (h.frames hrun)

theorem bind {x : PlatformM α} {f : α → PlatformM β} {u : α → Bool} {v : β → Bool}
    (hx : Reports u ready x) (hf : ∀ a, Reports v (u a) (f a)) : Reports v ready (x >>= f) where
  flows := hx.flows.bind fun a => (hf a).flows
  tracks p b c p₂ b₂ h hs := by
    obtain ⟨a, p₁, b₁, h₁, h₂⟩ := exec_bind_ok h
    exact (hf a).tracks p₁ b₁ c p₂ b₂ h₂ (hx.tracks p b a p₁ b₁ h₁ hs)

theorem ite (c : Prop) [Decidable c] {v : α → Bool} {x y : PlatformM α} (hx : Reports v ready x)
    (hy : Reports v ready y) : Reports v ready (if c then x else y) := by
  split
  · exact hx
  · exact hy

theorem foldlM {γ : Type} {f : Shell → γ → PlatformM Shell}
    (hf : ∀ sh c, Reports framesReady sh.framesReady (f sh c)) :
    ∀ (l : List γ) (init : Shell), Reports framesReady init.framesReady (l.foldlM f init)
  | [], _ => pure rfl
  | c :: l, init => by
    rw [List.foldlM_cons]
    exact bind (hf init c) fun sh => foldlM hf l sh

end Reports

/-! ## Reports and waits -/

theorem still_reply (text : String) : Still (reply text) := by
  unfold reply
  refine Still.bind (Still.console _) fun r => ?_
  split
  · exact Still.pure _
  · exact Still.board _

/-- A report hands every queued frame to the console, a line each in queue order, empties the
queue and lowers the flag. -/
theorem flow_reportFrames {sh sh' : Shell} {p p' : Platform} {b b' : Board}
    (h : exec sh.reportFrames p b = (.ok (sh', p'), b')) :
    Flow sh.reportFrames p b sh' p' b' p.radio.frames [] ∧ p'.radio.frames = [] ∧
      sh' = { sh with framesReady := false } := by
  rw [exec_reportFrames] at h
  rcases hr : exec (reportLines sh.json p.radio.frames) (p.withFrames []) b with ⟨_ | ⟨⟨⟩, p₁⟩, b₁⟩ <;>
    rw [hr] at h
  · cases h
  simp only [Prod.mk.injEq, Except.ok.injEq] at h
  obtain ⟨⟨rfl, rfl⟩, rfl⟩ := h
  refine ⟨?_, (queueBlind_reportLines _ _).frames hr, rfl⟩
  -- the report reads the queue, prints that many frames, and answers with the flag lowered
  have hflow : Flow sh.reportFrames p b _ p₁ b₁ ([] ++ (p.radio.frames ++ [])) ([] ++ ([] ++ [])) :=
    (Flow.get p b).bind ((Flow.print hr).bind (Flow.pure { sh with framesReady := false } p₁ b₁))
  simpa only [List.nil_append, List.append_nil] using hflow

/-- A `wait` that succeeds reports at once what was queued and then what it decoded, and lowers
the flag; one that fails decoded nothing, and leaves the shell and the queue as they were. -/
theorem flow_wait {sh : Shell} {ms : Nat} {p p' : Platform} {b b' : Board} {res : Except Failure String × Shell}
    (h : exec (sh.run (.wait ms)) p b = (.ok (res, p'), b')) :
    ∃ S new, Flow (sh.run (.wait ms)) p b res p' b' S new ∧
      ((S = p.radio.frames ++ new ∧ p'.radio.frames = [] ∧ res.2.framesReady = false) ∨
        (S = [] ∧ new = [] ∧ res.2 = sh ∧ p'.radio.frames = p.radio.frames)) := by
  obtain ⟨v, p₁, b₁, h₁, h₂⟩ := exec_bind_ok h
  obtain ⟨r, hr, rfl⟩ := exec_onRadio_ok h₁
  obtain ⟨new, hnew, hlen⟩ := RadioLink.frames_waitForFrame hr
  have hradio := Flow.radio hr hnew
  cases v with
  | ok n =>
    obtain ⟨sh₁, p₂, b₂, h₃, h₄⟩ := exec_bind_ok h₂
    simp only [exec_pure, Prod.mk.injEq, Except.ok.injEq] at h₄
    obtain ⟨⟨rfl, rfl⟩, rfl⟩ := h₄
    obtain ⟨hf, hq, rfl⟩ := flow_reportFrames h₃
    refine ⟨_, _, hradio.bind (hf.bind (Flow.pure _ _ _)), .inl ⟨?_, hq, rfl⟩⟩
    simp [hnew]
  | error e =>
    -- a failed wait announces no frame, so it appended none; every failure is answered alike
    obtain rfl : new = [] := List.eq_nil_of_length_eq_zero hlen
    cases e
    all_goals
      simp only [exec_pure, Prod.mk.injEq, Except.ok.injEq] at h₂
      obtain ⟨⟨rfl, rfl⟩, rfl⟩ := h₂
      exact ⟨_, _, hradio.bind (Flow.pure _ _ _), .inr ⟨rfl, rfl, rfl, by simp [hnew]⟩⟩

/-! ## The shell's work keeps the flag in step -/

theorem still_alarmStart (t₀ dt : UInt32) : Still (alarmStart t₀ dt) :=
  Still.bind (Still.modify fun _ => rfl) fun _ => Still.board _

theorem still_reset : Still Platform.reset :=
  Still.bind (Still.board _) fun _ => Still.board _

/-- Every command keeps the flag in step; only `wait` reports. -/
theorem reports_run (sh : Shell) (c : Command) : Reports (·.2.framesReady) sh.framesReady (sh.run c) := by
  cases c with
  | wait ms =>
    refine ⟨fun p b a p' b' h => ?_, fun p b a p' b' h hs => ?_⟩
    · obtain ⟨S, new, hf, -⟩ := flow_wait h
      exact ⟨S, new, hf⟩
    · obtain ⟨S, new, -, ⟨-, hq, hf⟩ | ⟨-, -, rfl, hq⟩⟩ := flow_wait h
      · rw [hf]
        exact tracks_false hq
      · exact hs.of_frames hq
  | help => exact Reports.pure rfl
  | now => exact Reports.bind (Reports.still (Still.board _)) fun _ => Reports.pure rfl
  | alarm ms =>
    exact Reports.bind (Reports.still (Still.board _)) fun _ =>
      Reports.bind (Reports.still (still_alarmStart _ _)) fun _ => Reports.pure rfl
  | spinel frame =>
    refine Reports.bind (Reports.still (Still.radio fun _ _ _ _ _ h => RadioLink.frames_sendFrame h)) fun r => ?_
    split <;> exact Reports.pure rfl
  | counters => exact Reports.bind (Reports.still Still.get) fun _ => Reports.pure rfl
  | settingsGet key =>
    refine Reports.bind (Reports.still (Still.board _)) fun _ => ?_
    split <;> exact Reports.pure rfl
  | settingsSet key value | settingsDelete key =>
    -- a change of the settings is board work, made only when the store takes it
    refine Reports.bind (Reports.still (Still.board _)) fun _ => ?_
    split
    · exact Reports.bind (Reports.still (Still.board _)) fun _ => Reports.pure rfl
    · exact Reports.pure rfl
  | reset => exact Reports.bind (Reports.still still_reset) fun _ => Reports.pure rfl

theorem reports_execute (sh : Shell) (line : String) :
    Reports framesReady sh.framesReady (sh.execute line) := by
  unfold execute
  dsimp only
  split
  · refine Reports.bind (reports_run sh _) fun r => ?_
    -- the replies to the outcome come before the shell the command answered with
    split
    · exact Reports.bind (Reports.still (still_reply _)) fun _ =>
        Reports.bind (Reports.still (still_reply _)) fun _ => Reports.pure rfl
    · exact Reports.bind (Reports.still (still_reply _)) fun _ => Reports.pure rfl
  · simp only [pure_bind]
    exact Reports.bind (Reports.still (still_reply _)) fun _ => Reports.pure rfl

theorem reports_perform (sh : Shell) (e : LineEvent) : Reports framesReady sh.framesReady (perform sh e) := by
  cases e with
  | run line =>
    exact Reports.bind (reports_execute sh line) fun sh' =>
      Reports.bind (Reports.still (still_reply _)) fun _ => Reports.pure rfl
  | tooLong => exact Reports.bind (Reports.still (still_reply _)) fun _ => Reports.pure rfl

theorem reports_takeByte (sh : Shell) (b : UInt8) : Reports framesReady sh.framesReady (sh.takeByte b) := by
  rw [takeByte_eq]
  cases (edit sh.line b).2 with
  | none => exact Reports.pure rfl
  | some e =>
    dsimp only [Option.elim]
    exact reports_perform { sh with line := "" } e

theorem reports_uartReceived (sh : Shell) (data : List UInt8) :
    Reports framesReady sh.framesReady (Stack.uartReceived sh data) :=
  Reports.foldlM reports_takeByte data sh

/-- The tasklets of a shell whose flag tracks the queue report exactly the queued frames, leave
the queue empty and the flag down. -/
theorem flow_processTasklets {sh sh₁ : Shell} {p p₁ : Platform} {b b₁ : Board} (hs : sh.Synced p)
    (h : exec (Stack.processTasklets sh) p b = (.ok (sh₁, p₁), b₁)) :
    Flow (Stack.processTasklets sh) p b sh₁ p₁ b₁ p.radio.frames [] ∧ p₁.radio.frames = [] ∧
      sh₁.framesReady = false := by
  have hdef : Stack.processTasklets sh = if sh.framesReady then sh.reportFrames else pure sh := rfl
  rw [hdef] at h ⊢
  by_cases hf : sh.framesReady = true
  · rw [if_pos hf] at h ⊢
    obtain ⟨hflow, hq, rfl⟩ := flow_reportFrames h
    exact ⟨hflow, hq, rfl⟩
  · -- a lowered flag means an empty queue, which is all the tasklets have to report
    have hq : p.radio.frames = [] := not_not.mp (mt hs.2 hf)
    rw [if_neg hf] at h ⊢
    simp only [exec_pure, Prod.mk.injEq, Except.ok.injEq] at h
    obtain ⟨⟨rfl, rfl⟩, rfl⟩ := h
    exact ⟨hq ▸ Flow.pure sh p b, hq, Bool.eq_false_iff.mpr hf⟩

end Shell

/-! ## The passes run for the shell -/

namespace Platform

variable {σ : Type} [Stack σ]

/-- The first `count` extra sources' slots of the process pass, each event dispatched as it
comes. -/
def processSources (count : Nat) (s : σ) : PlatformM σ := do
  (List.range count).foldlM (fun s i => do
    match ← processSource i with
    | some e => dispatch s e
    | none => pure s) s

/-- The passes after the console's are the radio's slot with its upcall, then the sources'. -/
theorem processRest_eq (count : Nat) (s : σ) (ctx : PollContext) :
    processRest count s ctx =
      (onRadio (RadioLink.process ctx) >>= Stack.framesReceived s) >>= processSources count := by
  rw [bind_assoc]
  rfl

end Platform

namespace Runner

variable {σ : Type} [Stack σ]

/-- An iteration after its tasklets: the update, the wait, and the process pass. -/
def passes (s : σ) : PlatformM σ := do
  let ctx ← Platform.mainloopUpdate s (Platform.mainloopInit (← get))
  let ctx ← match ← Platform.mainloopPoll ctx with
    | .ok ready => pure ready
    | .error e =>
      if e.isInterrupted then pure ctx
      else Board.fatal s!"mainloop poll failed: {e.message}"
  Platform.mainloopProcess s ctx

/-- An iteration runs the tasklets before everything else. -/
theorem iteration_eq_passes (s : σ) : iteration s = Stack.processTasklets s >>= passes :=
  rfl

end Runner

namespace Shell

theorem reports_dispatch (sh : Shell) (e : PlatformEvent) :
    Reports framesReady sh.framesReady (dispatch sh e) := by
  cases e with
  | alarmFired =>
    -- the shell answers the alarm with a reply
    show Reports _ _ (if Stack.diagMode sh then Stack.diagAlarmFired sh else Stack.alarmFired sh)
    exact Reports.ite _ (Reports.pure rfl) (Reports.bind (Reports.still (Still.board _)) fun _ =>
      Reports.bind (Reports.still (still_reply _)) fun _ => Reports.pure rfl)
  | uartReceived data => exact reports_uartReceived sh data
  | uartSendDone => exact Reports.pure rfl

theorem reports_processHead (sh : Shell) (ctx : PollContext) :
    Reports framesReady sh.framesReady (processHead sh ctx) := by
  unfold processHead
  refine Reports.bind (Reports.still Still.get) fun p => Reports.bind (Reports.still (Still.board _)) fun _ => ?_
  exact Reports.bind (Reports.still still_processAlarm) fun _ =>
    Reports.ite _ (reports_dispatch sh _) (Reports.pure rfl)

theorem reports_deliver (sh : Shell) (o : Option (List UInt8)) :
    Reports framesReady sh.framesReady (deliver sh o) := by
  cases o with
  | none => exact Reports.pure rfl
  | some data => exact reports_dispatch sh (.uartReceived data)

theorem reports_dispatchSendsDone (n : Nat) (sh : Shell) :
    Reports framesReady sh.framesReady (dispatchSendsDone n sh) := by
  induction n generalizing sh with
  | zero => exact Reports.pure rfl
  | succ n ih => exact Reports.bind (reports_dispatch sh _) fun sh => ih sh

/-- The radio's slot appends what it decoded and raises the flag exactly when that is a frame or
more, so the flag goes on tracking the queue. -/
theorem reports_radioSlot (sh : Shell) (ctx : PollContext) :
    Reports framesReady sh.framesReady (onRadio (RadioLink.process ctx) >>= Stack.framesReceived sh) where
  flows := (Flows.radio fun _ _ _ _ _ h => (RadioLink.frames_process h).imp fun _ h => h.1).bind
    fun _ => (Still.pure _).flows
  tracks p b sh' p' b' h hs := by
    obtain ⟨k, p₁, b₁, h₁, h₂⟩ := exec_bind_ok h
    obtain ⟨r, hr, rfl⟩ := exec_onRadio_ok h₁
    obtain ⟨new, hnew, rfl⟩ := RadioLink.frames_process hr
    have hup : exec (Stack.framesReceived sh new.length) { p with radio := r } b₁ =
        (.ok (if new.length = 0 then sh else { sh with framesReady := true }, { p with radio := r }), b₁) :=
      rfl
    rw [hup] at h₂
    simp only [Prod.mk.injEq, Except.ok.injEq] at h₂
    obtain ⟨⟨rfl, rfl⟩, rfl⟩ := h₂
    by_cases hk : new.length = 0
    · rw [if_pos hk]
      exact hs.of_frames (by simp [hnew, List.eq_nil_of_length_eq_zero hk])
    · have hne : new ≠ [] := fun h => hk (by simp [h])
      rw [if_neg hk]
      exact tracks_true (by simp [hnew, hne])

theorem reports_processSources (count : Nat) (sh : Shell) :
    Reports framesReady sh.framesReady (processSources count sh) := by
  unfold processSources
  refine Reports.foldlM (fun sh i => ?_) _ _
  refine Reports.bind (Reports.still (still_processSource i)) fun e => ?_
  split
  · exact reports_dispatch sh _
  · exact Reports.pure rfl

theorem reports_mainloopProcess (sh : Shell) (ctx : PollContext) :
    Reports framesReady sh.framesReady (mainloopProcess sh ctx) := by
  rw [mainloopProcess_eq]
  refine Reports.bind (Reports.still Still.get) fun p₀ => Reports.bind (reports_processHead sh ctx) fun sh => ?_
  refine Reports.bind (Reports.still (Still.console _)) fun o => Reports.bind (reports_deliver sh o) fun sh => ?_
  refine Reports.bind (Reports.still (Still.console _)) fun n =>
    Reports.bind (reports_dispatchSendsDone n.toNat sh) fun sh => ?_
  rw [processRest_eq]
  exact Reports.bind (reports_radioSlot sh ctx) fun sh => reports_processSources _ sh

theorem reports_passes (sh : Shell) : Reports framesReady sh.framesReady (Runner.passes sh) := by
  unfold Runner.passes
  refine Reports.bind (Reports.still Still.get) fun p =>
    Reports.bind (Reports.still (still_mainloopUpdate sh _)) fun ctx => ?_
  refine Reports.bind (Reports.still (Still.board _)) fun r => ?_
  dsimp only
  split
  · exact Reports.bind (Reports.still (Still.pure _)) fun ctx => reports_mainloopProcess sh ctx
  · exact Reports.ite _ (Reports.bind (Reports.still (Still.pure _)) fun ctx => reports_mainloopProcess sh ctx)
      (Reports.bind (Reports.still (Still.board _)) fun ctx => reports_mainloopProcess sh ctx)

/-- An iteration of a shell whose flag tracks the queue. Its tasklets, which run before its
update and its wait, report exactly the frames queued when it began and leave the queue empty;
the rest of it reports the frames `S` and appends the frames `A`, and what it appended is what
it reported followed by what it leaves queued; the flag then tracks the queue it leaves. -/
theorem flow_iteration {sh sh' : Shell} {p p' : Platform} {b b' : Board} (hs : sh.Synced p)
    (h : exec (Runner.iteration sh) p b = (.ok (sh', p'), b')) :
    ∃ sh₁ p₁ b₁ S A, Flow (Stack.processTasklets sh) p b sh₁ p₁ b₁ p.radio.frames [] ∧
      p₁.radio.frames = [] ∧ Flow (Runner.passes sh₁) p₁ b₁ sh' p' b' S A ∧ A = S ++ p'.radio.frames ∧
      Flow (Runner.iteration sh) p b sh' p' b' (p.radio.frames ++ S) A ∧ sh'.Synced p' := by
  rw [Runner.iteration_eq_passes] at h
  obtain ⟨sh₁, p₁, b₁, h₁, h₂⟩ := exec_bind_ok h
  obtain ⟨ht, hq, hready⟩ := flow_processTasklets hs h₁
  obtain ⟨S, A, hp⟩ := (reports_passes sh₁).flows _ _ _ _ _ h₂
  -- after the tasklets the queue is empty, so what the rest appends it reports or leaves queued
  have hA : A = S ++ p'.radio.frames := by simpa [hq] using hp.frames
  have hw : Flow (Runner.iteration sh) p b sh' p' b' (p.radio.frames ++ S) ([] ++ A) := by
    rw [Runner.iteration_eq_passes]
    exact ht.bind hp
  have hs₁ : sh₁.Synced p₁ := by
    rw [Synced, hready]
    exact tracks_false hq
  exact ⟨sh₁, p₁, b₁, S, A, ht, hq, hp, hA, by simpa using hw, (reports_passes sh₁).tracks _ _ _ _ _ h₂ hs₁⟩

end Shell

/-! ## A platform comes up with an empty queue -/

/-- The frame in which a queue, read by `q`, that was empty stays empty. -/
def Board.emptyStays {σ : Type} (q : σ → List (List UInt8)) : Frame σ where
  holds s _ s' _ := q s = [] → q s' = []
  refl _ _ h := h
  trans h₁ h₂ h := h₂ (h₁ h)

theorem RadioLink.keeps_init : Keeps (emptyStays RadioLink.frames) RadioLink.init := by
  unfold RadioLink.init
  refine Keeps.bind Keeps.get fun r => ?_
  dsimp only
  refine Keeps.bind (Keeps.liftM fun _ _ _ _ _ => id) fun res => ?_
  split
  · exact Keeps.pure _
  refine Keeps.bind (Keeps.liftM fun _ _ _ _ _ => id) fun res => ?_
  split
  · exact Keeps.bind (Keeps.liftM fun _ _ _ _ _ => id) fun _ => Keeps.pure _
  -- the link that comes up starts from an empty queue
  exact Keeps.bind (Keeps.set fun _ _ _ => rfl) fun _ =>
    Keeps.bind (Keeps.liftM fun _ _ _ _ _ => id) fun _ => Keeps.pure _

theorem Platform.keeps_bringUp : Keeps (emptyStays (·.radio.frames)) bringUp := by
  unfold bringUp
  refine Keeps.bind Keeps.get fun p => Keeps.bind (Keeps.liftM fun _ _ _ _ _ => id) fun w => ?_
  split
  · exact Keeps.pure _
  refine Keeps.bind (Keeps.modify fun _ _ => id) fun _ =>
    Keeps.bind (keeps_onConsole fun _ _ _ _ _ _ => id) fun c => ?_
  split
  · exact Keeps.pure _
  refine Keeps.bind (keeps_onRadio fun _ _ _ _ _ h => RadioLink.keeps_init _ _ _ _ _ h) fun res => ?_
  split
  · exact Keeps.pure _
  refine Keeps.bind Keeps.get fun p => Keeps.bind (Keeps.liftM fun _ _ _ _ _ => id) fun bd => ?_
  split
  · exact Keeps.pure _
  exact Keeps.bind (Keeps.modify fun _ _ => id) fun _ => Keeps.bind (Keeps.liftM fun _ _ _ _ _ => id) fun _ =>
    Keeps.bind (Keeps.liftM fun _ _ _ _ _ => id) fun _ => Keeps.pure _

/-- A platform that comes up has an empty queue. -/
theorem Platform.frames_init {P : PlatformParams} {b b' : Board} {p : Platform}
    (h : (init P).run.run b = (.ok (.ok p), b')) : p.radio.frames = [] := by
  unfold init at h
  split at h
  · rw [run_pure] at h
    cases (Prod.mk.inj h).1
  obtain ⟨_, b₁, -, h⟩ := run_bind_ok h
  obtain ⟨b₂, b₃, -, h⟩ := run_bind_ok h
  obtain ⟨⟨res, q⟩, b₄, hup, h⟩ := run_bind_ok h
  -- only a bring-up that succeeded answers with its platform
  split at h
  rename_i hpair
  simp only [Prod.mk.injEq] at hpair
  obtain ⟨rfl, rfl⟩ := hpair
  split at h
  · rw [run_pure] at h
    cases (Prod.mk.inj h).1
    exact Platform.keeps_bringUp _ _ _ _ _ hup rfl
  · obtain ⟨_, b₅, -, h⟩ := run_bind_ok h
    rw [run_pure] at h
    cases (Prod.mk.inj h).1

/-! ## Along the runner's runs -/

namespace Runner

open Shell

/-- The runner's shell, whenever it holds one and a platform, has its flag track the platform's
queue. -/
def FramesFlagged (r : Runner Shell) : Prop :=
  ∀ p sh, r.platform = some p → r.stack = some sh → sh.Synced p

theorem still_start (json : Bool) : Still (Shell.start json) :=
  Still.bind (still_reply _) fun _ => Still.bind (still_reply _) fun _ => Still.pure _

/-- A step that brings the shell up leaves the runner running, holding a platform with an empty
queue and a shell with its flag down. -/
theorem step_resetting_fresh {json : Bool} {r r' : Runner Shell} {b b' : Board} {st : RunnerState}
    (hst : r.state = .resetting) (hx : exec (step (fun _ => Shell.start json)) r b = (.ok (st, r'), b')) :
    st = .running ∧ ∃ p', r'.platform = some p' ∧ r'.stack = some ⟨"", false, json⟩ ∧ p'.radio.frames = [] := by
  have hstep : exec (step (fun _ => Shell.start json)) r b =
      exec (restart (fun _ => Shell.start json) >>= fun _ => do return (← get).state) r b := by
    simp only [step, exec_bind, exec_get, hst]
  rw [hstep, restart_eq, bind_assoc] at hx
  obtain ⟨⟨⟩, r₁, b₁, -, hx⟩ := exec_bind_ok hx
  obtain ⟨⟨⟩, r₂, b₂, hreb, hret⟩ := exec_bind_ok hx
  obtain ⟨p₂, b₃, s', p', hi, hf, -, rfl⟩ := (rebuild_ok_iff _).1 hreb
  simp only [exec_bind, exec_get, exec_pure, Prod.mk.injEq, Except.ok.injEq] at hret
  obtain ⟨⟨rfl, rfl⟩, -⟩ := hret
  -- the greeting leaves the fresh queue alone, and the shell starts with its flag down
  have hanswer : Answers (· = ⟨"", false, json⟩) (Shell.start json) :=
    Answers.bind_any fun _ => Answers.bind_any fun _ => Answers.pure rfl
  refine ⟨rfl, p', rfl, by rw [hanswer _ _ _ _ _ hf], ?_⟩
  rw [(still_start json).frames hf]
  exact Platform.frames_init hi

/-- One step of a runner driving the shell keeps the flag tracking the queue. -/
theorem FramesFlagged.step {json : Bool} {r r' : Runner Shell} {b b' : Board} {st : RunnerState}
    (h : r.FramesFlagged) (hx : exec (step (fun _ => Shell.start json)) r b = (.ok (st, r'), b')) :
    r'.FramesFlagged := by
  cases hst : r.state with
  | resetting =>
    obtain ⟨-, p', hp', hs', hq⟩ := step_resetting_fresh hst hx
    intro p sh hp hs
    rw [hp', Option.some.injEq] at hp
    rw [hs', Option.some.injEq] at hs
    subst hp hs
    exact tracks_false hq
  | running =>
    -- a runner without a platform or a shell only stops running
    cases hp : r.platform with
    | none =>
      simp only [Runner.step, iterate, exec_bind, exec_get, hst, hp, exec_set, exec_pure, Prod.mk.injEq,
        Except.ok.injEq] at hx
      obtain ⟨⟨-, rfl⟩, -⟩ := hx
      exact fun _ _ hq => by cases hq
    | some p =>
      cases hs : r.stack with
      | none =>
        simp only [Runner.step, iterate, exec_bind, exec_get, hst, hp, hs, exec_set, exec_pure, Prod.mk.injEq,
          Except.ok.injEq] at hx
        obtain ⟨⟨-, rfl⟩, -⟩ := hx
        exact fun _ _ _ hs => by cases hs
      | some sh =>
        cases hreq : b.resetRequested with
        | true =>
          rw [step_reset_pending _ hst hp hs hreq] at hx
          simp only [Prod.mk.injEq, Except.ok.injEq] at hx
          obtain ⟨⟨-, rfl⟩, -⟩ := hx
          exact h
        | false =>
          obtain ⟨s', p', hit, -, rfl⟩ := (step_running_ok_iff _ hst hp hs hreq).1 hx
          rintro q sh' ⟨⟩ ⟨⟩
          obtain ⟨-, -, -, -, -, -, -, -, -, -, hsync⟩ := flow_iteration (h p sh hp hs) hit
          exact hsync

/-- Along every run of a runner driving the shell, another thread's requests for a pseudo-reset
included, the shell's flag tracks the queue whenever the runner holds both. -/
theorem framesFlagged_run {json : Bool} {P : PlatformParams} {G : List Nat} {r : Runner Shell} {b : Board}
    (hrun : Run (fun _ => Shell.start json) P G r b) : r.FramesFlagged := by
  induction hrun with
  | start => exact fun p sh hp => nomatch hp
  | step _ hx ih => exact ih.step hx
  | request _ ih => exact ih

/-- Received frames reach the console once each, in order, between two bring-ups. Along every
run, what the queue held followed by what was appended is what was handed to the console
followed by what is still queued. A report hands the whole queue over, a line each in queue
order, empties it and lowers the flag. A `wait` that succeeds reports at once what was queued
and then what it decoded; one that fails decoded nothing. Along every run of a runner driving
the shell the flag tracks the queue, and a step that runs an iteration runs the tasklets first,
which report exactly the frames queued when it began; the rest of the iteration appends frames,
of which it reports some and leaves the others queued, flagged for the next iteration's
tasklets. -/
theorem frames_reported_once (json : Bool) :
    (∀ {α : Type} {act : PlatformM α} {p p' : Platform} {b b' : Board} {a : α} {S A : List (List UInt8)},
      Flow act p b a p' b' S A → p.radio.frames ++ A = S ++ p'.radio.frames) ∧
    (∀ (sh sh' : Shell) (p p' : Platform) (b b' : Board), exec sh.reportFrames p b = (.ok (sh', p'), b') →
      Flow sh.reportFrames p b sh' p' b' p.radio.frames [] ∧ p'.radio.frames = [] ∧
        sh' = { sh with framesReady := false }) ∧
    (∀ (sh : Shell) (ms : Nat) (p p' : Platform) (b b' : Board) (res : Except Failure String × Shell),
      exec (sh.run (.wait ms)) p b = (.ok (res, p'), b') →
      ∃ S new, Flow (sh.run (.wait ms)) p b res p' b' S new ∧
        ((S = p.radio.frames ++ new ∧ p'.radio.frames = [] ∧ res.2.framesReady = false) ∨
          (S = [] ∧ new = [] ∧ res.2 = sh ∧ p'.radio.frames = p.radio.frames))) ∧
    (∀ (P : PlatformParams) (G : List Nat) (r : Runner Shell) (b : Board),
      Run (fun _ => Shell.start json) P G r b → r.FramesFlagged) ∧
    (∀ (r r' : Runner Shell) (b b' : Board) (st : RunnerState) (p : Platform) (sh : Shell),
      r.FramesFlagged → r.state = .running → r.platform = some p → r.stack = some sh →
      b.resetRequested = false → exec (step (fun _ => Shell.start json)) r b = (.ok (st, r'), b') →
      ∃ p' sh' sh₁ p₁ b₁ S A, r'.platform = some p' ∧ r'.stack = some sh' ∧
        Flow (Stack.processTasklets sh) p b sh₁ p₁ b₁ p.radio.frames [] ∧ p₁.radio.frames = [] ∧
        Flow (passes sh₁) p₁ b₁ sh' p' b' S A ∧ A = S ++ p'.radio.frames ∧
        Flow (iteration sh) p b sh' p' b' (p.radio.frames ++ S) A ∧ sh'.Synced p') := by
  refine ⟨Flow.frames, fun sh sh' p p' b b' h => flow_reportFrames h, fun sh ms p p' b b' res h => flow_wait h,
    fun P G r b hrun => framesFlagged_run hrun, ?_⟩
  intro r r' b b' st p sh hflag hst hp hs hreq hx
  obtain ⟨s', p', hit, -, rfl⟩ := (step_running_ok_iff _ hst hp hs hreq).1 hx
  obtain ⟨sh₁, p₁, b₁, S, A, ht, hq, hpass, hA, hw, hsync⟩ := flow_iteration (hflag p sh hp hs) hit
  exact ⟨p', s', sh₁, p₁, b₁, S, A, rfl, rfl, ht, hq, hpass, hA, hw, hsync⟩

/-- A runner that holds a platform and a shell is flagged when the shell's flag tracks the queue. -/
theorem framesFlagged_held {P : PlatformParams} {p : Platform} {sh : Shell} {st : RunnerState} {n : UInt32} :
    (⟨P, some p, some sh, st, n⟩ : Runner Shell).FramesFlagged ↔ sh.Synced p :=
  ⟨fun h => h p sh rfl rfl, by rintro h q sh' ⟨⟩ ⟨⟩; exact h⟩

/-- Work whose outcome, run out, is a success ends normally. -/
theorem exec_ok_of_toBool {σ α : Type} (act : StateT σ BoardM α) (s : σ) (b : Board)
    (h : (exec act s b).1.toBool = true) : ∃ a b', exec act s b = (.ok a, b') := by
  rcases hres : exec act s b with ⟨_ | a, b'⟩
  · rw [hres] at h
    cases h
  · exact ⟨a, b', rfl⟩

/-- On the standard board, a running shell with one frame queued and its flag up reports that
frame in the tasklets of its next step, and ends the step with its flag tracking the queue. -/
theorem frames_reported_at_next_tasklets :
    let P := PlatformParams.standard
    let b₀ := Board.new P
    let p₀ := (Platform.build b₀ P).withFrames [[0x80, 0x06, 0x00]]
    let sh₀ : Shell := ⟨"", true, false⟩
    let r₀ : Runner Shell := ⟨P, some p₀, some sh₀, .running, 1⟩
    ∃ st r' b' p' sh' sh₁ p₁ b₁ S A, exec (step (fun _ => Shell.start false)) r₀ b₀ = (.ok (st, r'), b') ∧
      r'.platform = some p' ∧ r'.stack = some sh' ∧
      Flow (Stack.processTasklets sh₀) p₀ b₀ sh₁ p₁ b₁ [[0x80, 0x06, 0x00]] [] ∧ p₁.radio.frames = [] ∧
      Flow (passes sh₁) p₁ b₁ sh' p' b' S A ∧ A = S ++ p'.radio.frames ∧ sh'.Synced p' := by
  intro P b₀ p₀ sh₀ r₀
  have hflag : r₀.FramesFlagged := framesFlagged_held.2 (tracks_true (List.cons_ne_nil _ _))
  obtain ⟨⟨st, r'⟩, b', hx⟩ := exec_ok_of_toBool (step (fun _ => Shell.start false)) r₀ b₀ (by decide)
  obtain ⟨p', sh', sh₁, p₁, b₁, S, A, hp', hs', ht, hq, hpass, hA, -, hsync⟩ :=
    (frames_reported_once false).2.2.2.2 r₀ r' b₀ b' st p₀ sh₀ hflag rfl rfl rfl rfl hx
  exact ⟨st, r', b', p', sh', sh₁, p₁, b₁, S, A, hx, hp', hs', ht, hq, hpass, hA, hsync⟩

/-- Frames queued when a pseudo-reset is taken are never reported. On the standard board, a
running shell with one frame queued and its flag up, asked for a pseudo-reset, stops running
without running its tasklets; its finalize reports nothing; and the bring-up that follows
drops the platform and starts the new shell, flag down, on an empty queue. -/
theorem reset_strands_queued_frames :
    let P := PlatformParams.standard
    let p₀ := (Platform.build (Board.new P) P).withFrames [[0x80, 0x06, 0x00]]
    let sh₀ : Shell := ⟨"", true, false⟩
    let r₀ : Runner Shell := ⟨P, some p₀, some sh₀, .running, 1⟩
    let b₀ : Board := { Board.new P with resetRequested := true }
    r₀.FramesFlagged ∧ Still (Stack.finalize sh₀) ∧
      ∃ b₁ r₂ b₂ p₂, exec (step (fun _ => Shell.start false)) r₀ b₀ =
          (.ok (.resetting, { r₀ with state := .resetting }), b₁) ∧
        exec (step (fun _ => Shell.start false)) { r₀ with state := .resetting } b₁ = (.ok (.running, r₂), b₂) ∧
        r₂.platform = some p₂ ∧ r₂.stack = some ⟨"", false, false⟩ ∧ p₂.radio.frames = [] := by
  intro P p₀ sh₀ r₀ b₀
  have hflag : r₀.FramesFlagged := framesFlagged_held.2 (tracks_true (List.cons_ne_nil _ _))
  have hfin : Still (Stack.finalize sh₀) := Still.bind (Still.board _) fun _ => Still.pure _
  have h₁ := step_reset_pending (fun _ => Shell.start false) (r := r₀) (b := b₀) rfl rfl rfl rfl
  -- the bring-up after it ends normally
  obtain ⟨⟨st, r₂⟩, b₂, hx⟩ := exec_ok_of_toBool (step (fun _ => Shell.start false)) { r₀ with state := .resetting }
    { b₀ with machine := { b₀.machine with journal := b₀.machine.journal.push ⟨.info, "pseudo reset"⟩ } }
    (by decide +kernel)
  obtain ⟨rfl, p₂, hp₂, hs₂, hq₂⟩ := step_resetting_fresh rfl hx
  exact ⟨hflag, hfin, _, r₂, b₂, p₂, h₁, hx, hp₂, hs₂, hq₂⟩

end Runner

end ThreadPlatform
