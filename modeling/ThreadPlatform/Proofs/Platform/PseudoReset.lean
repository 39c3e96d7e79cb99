import ThreadPlatform.Proofs.Platform.BringUp
import ThreadPlatform.Proofs.Platform.ConsoleInput
/-!
# The pseudo-reset cycle of the runner

A runner alternates between two phases. While running, each step is one mainloop iteration of
the stack it holds on the platform it holds, unless a pseudo-reset is pending: then the step
only logs it and ends the phase. While resetting, a step lets the stack finalize, drops the
platform, brings a new platform up with the same parameters and has the factory build a new
stack on it. Another thread may ask for a pseudo-reset at any time between steps.

This module follows the runner along every such run (`Runner.Run`) from a fresh start on a
board built from valid parameters, for any stack whose work keeps the platform up
(`Platform.upKept`: the descriptors it opens and closes, if any, are back as they were):

* `Runner.Sound`: between steps the runner either holds a stack and a platform that is up
  (`Platform.Up`: the wake event at 8, the console at 3, the radio at 4 and no other descriptor
  in use) or has brought none up yet on a clean board;
* `Runner.step_reset_pending`: the step that sees a pending request runs nothing else;
* `Runner.step_resetting_ok_iff`: a resetting step ends normally exactly as `Restarted` says: one
  finalize of the held stack on its platform, the release of that platform (`Released`), one
  platform init, one factory call, and one more start;
* `Runner.Sound.released_clean`, `Runner.Sound.init_ok`: the release leaves the board clean, so
  the init that follows cannot fail, and it clears the request;
* `Runner.run_pseudo_reset_cycle`: all of it along every run, with the bring-ups whose stacks were
  finalized, which are all but the current one, each once.

A bring-up is split in two (`release`, `rebuild`; `restart_eq`) so that each half has its own
lemma.
-/

namespace ThreadPlatform

open Board

namespace Platform

section Up
variable {P : PlatformParams} {p : Platform} {b : Board}

/-- A platform stays up on a board that keeps its table, its devices' ids and its flash. -/
theorem Up.of_board {b' : Board} (h : p.Up P b) (ht : b'.machine.table = b.machine.table)
    (he : b'.event = b.event) (hc : b'.cli = b.cli) (hr : b'.radio = b.radio)
    (hparts : b'.partitions = b.partitions) : p.Up P b' := by
  obtain ⟨⟨hapart, hflash⟩, htable, hw, hcon, hrad, hwd, hcd, hrd⟩ := h
  refine ⟨⟨by rw [hc, hr]; exact hapart, by rw [hparts]; exact hflash⟩, ?_, hw, hcon, hrad,
    by rw [he]; exact hwd, by rw [hc]; exact hcd, by rw [hr]; exact hrd⟩
  rw [ht, he, hc, hr]
  exact htable

/-- Being up reads only the platform's three parts, and of the console and the radio only their
descriptor and device. -/
theorem Up.of_parts {q : Platform} (h : p.Up P b) (hw : q.wake = p.wake) (hcfd : q.console.fd = p.console.fd)
    (hcdev : q.console.device = p.console.device) (hrfd : q.radio.fd = p.radio.fd)
    (hrdev : q.radio.device = p.radio.device) : q.Up P b :=
  ⟨h.fits, h.table, hw ▸ h.wake, hcfd.trans h.console, hrfd.trans h.radio, hw ▸ h.wakeDevice,
    hcdev.trans h.consoleDevice, hrdev.trans h.radioDevice⟩

end Up

/-- Work that leaves a platform for `P` up if it was. -/
def upKept (P : PlatformParams) : Frame Platform where
  holds p b p' b' := p.Up P b → p'.Up P b'
  refl _ _ h := h
  trans h₁ h₂ h := h₂ (h₁ h)

variable {P : PlatformParams}

/-- The platform's own passes keep it up: none of them opens or frees a descriptor. -/
theorem admits_upKept : Admits (upKept P) where
  trace _ _ _ h := h.of_board rfl rfl rfl rfl rfl
  journal _ _ _ h := h.of_board rfl rfl rfl rfl rfl
  select _ b ctx h :=
    let ⟨_, hX⟩ := @Machine.keepsWire_select 0 ctx b.machine
    h.of_board hX.table rfl rfl rfl rfl
  wake _ _ _ hm h := h.of_board hm.table rfl rfl rfl rfl
  radio p _ r _ hfd hdev hm h :=
    (h.of_parts (q := { p with radio := r }) rfl rfl rfl hfd hdev).of_board hm.table rfl rfl rfl rfl
  alarm _ _ _ h := h.of_parts rfl rfl rfl rfl rfl
  sources _ _ _ h := h.of_parts rfl rfl rfl rfl rfl
  sendsDone _ _ _ h := h.of_parts rfl rfl rfl rfl rfl

theorem upKept_read (p : Platform) (b : Board) (m : Machine) (hm : Machine.OnlyThrough p.console.fd b.machine m) :
    (upKept P).holds p b p { b with machine := m } :=
  fun h => h.of_board hm.table rfl rfl rfl rfl

/-- A console send keeps the platform up. -/
theorem keeps_send_up (data : List UInt8) : Keeps (upKept P) (onConsole (ConsolePort.send data)) :=
  keeps_onConsole fun p b _ c b' h hup => by
    obtain ⟨hc, hgain⟩ := ConsolePort.exec_send_ok h
    obtain ⟨m, rfl⟩ := ConsolePort.exec_send_board h
    obtain ⟨_, hX⟩ := hgain 0
    have hup' : p.Up P { b with machine := m } := hup.of_board hX.table rfl rfl rfl rfl
    rcases hc with ⟨-, -, rfl⟩ | ⟨-, rfl⟩ <;> exact hup'.of_parts rfl rfl rfl rfl rfl

/-- A request for a pseudo-reset keeps the platform up. -/
theorem keeps_reset_up : Keeps (upKept P) reset := by
  unfold reset
  refine Keeps.bind (admits_upKept.keeps_log _ _) fun _ => Keeps.liftM fun p b _ b' h => ?_
  cases h
  exact fun hup => hup.of_board rfl rfl rfl rfl rfl

end Platform

namespace Runner

variable {σ : Type} {r : Runner σ} {b : Board}

section Cycle
variable [Stack σ] (factory : Nat → PlatformM σ)

/-- A step taken while running with a pseudo-reset pending ends the running phase and does
nothing else: no tasklet, source or upcall runs, and the board only gets the log record. -/
theorem step_reset_pending {p : Platform} {s : σ} (hst : r.state = .running) (hp : r.platform = some p)
    (hs : r.stack = some s) (hreq : b.resetRequested = true) :
    exec (step factory) r b = (.ok (.resetting, { r with state := .resetting }),
      { b with machine := { b.machine with journal := b.machine.journal.push ⟨.info, "pseudo reset"⟩ } }) := by
  simp only [step, iterate, exec_bind, exec_get, hst, hp, hs, exec_getBoard, hreq, ↓reduceIte, Board.exec_log,
    exec_set, exec_pure]

/-- The first half of a bring-up: the old stack finalizes, and the old platform is dropped. -/
def release : StateT (Runner σ) BoardM Unit := do
  let r ← get
  if let (some p, some s) := (r.platform, r.stack) then
    let (_, p') ← (Stack.finalize s).run p
    set { r with platform := some p' }
  modify fun r => { r with stack := none }
  dropPlatform

/-- The second half: a new platform comes up, and the factory builds a stack on it. -/
def rebuild : StateT (Runner σ) BoardM Unit := do
  match ← Platform.init (← get).params with
  | .error e => Board.fatal s!"platform init failed: {e.message}"
  | .ok p =>
    let starts := (← get).starts
    let (s, p') ← (factory (starts.toNat + 1)).run p
    let n ← Board.increment startsSite starts
    modify fun r => { r with platform := some p', stack := some s, starts := n, state := .running }

theorem restart_eq : restart factory = (release >>= fun _ => rebuild factory) := by
  simp only [restart, release, rebuild, bind_assoc]
  refine bind_congr fun r => ?_
  -- the bring-up follows both branches of the finalize
  rcases r with ⟨_, _ | p, _ | s, _, _⟩ <;> simp only [bind_assoc] <;> rfl

/-- How the first half of a bring-up goes, from `(r, b)` to the board `b'`: a runner that holds
nothing lets go of nothing; one that holds a platform and a stack finalizes the stack once, on
that platform, and then releases the platform. -/
inductive Released (r : Runner σ) (b : Board) : Board → Prop
  | fresh : r.platform = none → r.stack = none → Released r b b
  | finalized {p p₁ p₂ : Platform} {s s₁ : σ} {b₁ b₂ : Board} :
      r.platform = some p → r.stack = some s →
      exec (Stack.finalize s) p b = (.ok (s₁, p₁), b₁) →
      exec Platform.deinit p₁ b₁ = (.ok ((), p₂), b₂) → Released r b b₂

/-- How a bring-up ends normally, from `(r, b)` to `(r', b')`: it lets go of what the runner
held, brings a platform up, has the factory build one stack on it, and counts one more
bring-up, the count of bring-ups below its largest value. -/
inductive Restarted (r : Runner σ) (b : Board) : Runner σ → Board → Prop
  | mk {b₁ b₂ b' : Board} {p₂ p' : Platform} {s' : σ} :
      Released r b b₁ →
      (Platform.init r.params).run.run b₁ = (.ok (.ok p₂), b₂) →
      exec (factory (r.starts.toNat + 1)) p₂ b₂ = (.ok (s', p'), b') →
      r.starts < 4294967295 →
      Restarted r b
        { r with platform := some p', stack := some s', starts := r.starts + 1, state := .running } b'

theorem exec_release_fresh (hp : r.platform = none) (hs : r.stack = none) :
    exec release r b = (.ok ((), { r with platform := none, stack := none }), b) := by
  simp only [release, dropPlatform, exec_bind, exec_get, hp, hs, exec_modify]

theorem exec_release_live {p : Platform} {s : σ} (hp : r.platform = some p) (hs : r.stack = some s) :
    exec release r b =
      match exec (Stack.finalize s) p b with
      | (.ok (_, p₁), b₁) =>
        match exec Platform.deinit p₁ b₁ with
        | (.ok _, b₂) => (.ok ((), { r with platform := none, stack := none }), b₂)
        | (.error e, b₂) => (.error e, b₂)
      | (.error e, b₁) => (.error e, b₁) := by
  simp only [release, dropPlatform, exec_bind, exec_get, hp, hs, exec_liftM]
  have hrun : ((Stack.finalize s).run p).run.run b = exec (Stack.finalize s) p b := rfl
  rw [hrun]
  rcases exec (Stack.finalize s) p b with ⟨_ | ⟨s₁, p₁⟩, b₁⟩
  · rfl
  have hdrun : (Platform.deinit.run p₁).run.run b₁ = exec Platform.deinit p₁ b₁ := rfl
  simp only [exec_set, exec_modify, exec_bind, exec_liftM, hdrun]
  rcases exec Platform.deinit p₁ b₁ with ⟨_ | ⟨⟨⟩, p₂⟩, b₂⟩ <;> rfl

/-- The first half ends normally exactly as `Released` says, and leaves the runner holding
nothing. -/
theorem release_ok_iff {r' : Runner σ} {b' : Board}
    (hheld : (r.platform = none ∧ r.stack = none) ∨ ∃ p s, r.platform = some p ∧ r.stack = some s) :
    exec release r b = (.ok ((), r'), b') ↔ r' = { r with platform := none, stack := none } ∧ Released r b b' := by
  rcases hheld with ⟨hp, hs⟩ | ⟨p, s, hp, hs⟩
  · rw [exec_release_fresh hp hs]
    constructor
    · intro h
      simp only [Prod.mk.injEq, Except.ok.injEq] at h
      obtain ⟨⟨-, rfl⟩, rfl⟩ := h
      exact ⟨rfl, .fresh hp hs⟩
    · rintro ⟨rfl, hrel⟩
      cases hrel with
      | fresh => rfl
      | finalized hp' => simp [hp] at hp'
  · rw [exec_release_live hp hs]
    constructor
    · intro h
      rcases hfin : exec (Stack.finalize s) p b with ⟨_ | ⟨s₁, p₁⟩, b₁⟩ <;> simp only [hfin] at h
      · cases h
      rcases hd : exec Platform.deinit p₁ b₁ with ⟨_ | ⟨⟨⟩, p₂⟩, b₂⟩ <;> simp only [hd] at h
      · cases h
      simp only [Prod.mk.injEq, Except.ok.injEq] at h
      obtain ⟨⟨-, rfl⟩, rfl⟩ := h
      exact ⟨rfl, .finalized hp hs hfin hd⟩
    · rintro ⟨rfl, hrel⟩
      cases hrel with
      | fresh hp' => simp [hp] at hp'
      | finalized hp' hs' hfin hd =>
        rw [hp] at hp'
        rw [hs] at hs'
        cases hp'
        cases hs'
        simp only [hfin, hd]

omit [Stack σ] in
/-- The second half ends normally exactly when the platform comes up, the factory then builds
its stack, and the count of bring-ups can take one more; the runner then holds both and counts
one more bring-up. -/
theorem rebuild_ok_iff {r' : Runner σ} {b' : Board} :
    exec (rebuild factory) r b = (.ok ((), r'), b') ↔
      ∃ p₂ b₂ s' p', (Platform.init r.params).run.run b = (.ok (.ok p₂), b₂) ∧
        exec (factory (r.starts.toNat + 1)) p₂ b₂ = (.ok (s', p'), b') ∧ r.starts < 4294967295 ∧
        r' = { r with platform := some p', stack := some s', starts := r.starts + 1, state := .running } := by
  have hfrun : ∀ p₂ b₂, ((factory (r.starts.toNat + 1)).run p₂).run.run b₂ =
      exec (factory (r.starts.toNat + 1)) p₂ b₂ :=
    fun _ _ => rfl
  simp only [rebuild, exec_bind, exec_get, exec_liftM]
  constructor
  · intro h
    rcases hi : (Platform.init r.params).run.run b with ⟨_ | (e | p₂), b₂⟩ <;> simp only [hi] at h
    · cases h
    · exact absurd h (exec_fatal_ne _ _)
    simp only [exec_bind, exec_get, exec_liftM, hfrun] at h
    rcases hf : exec (factory (r.starts.toNat + 1)) p₂ b₂ with ⟨_ | ⟨s', p'⟩, b₃⟩ <;> simp only [hf] at h
    · cases h
    -- the count of bring-ups takes one more, or the bring-up panics
    by_cases hlt : r.starts < 4294967295
    · simp only [run_increment, hlt, if_true, exec_modify, Prod.mk.injEq, Except.ok.injEq] at h
      obtain ⟨⟨-, rfl⟩, rfl⟩ := h
      exact ⟨p₂, b₂, s', p', rfl, hf, hlt, rfl⟩
    · simp only [run_increment, hlt, if_false] at h
      cases h
  · rintro ⟨p₂, b₂, s', p', hi, hf, hlt, rfl⟩
    simp only [hi, exec_bind, exec_get, exec_liftM, hfrun, hf, run_increment, hlt, if_true, exec_modify]

/-- A whole bring-up ends normally exactly as `Restarted` says. -/
theorem restart_ok_iff {r' : Runner σ} {b' : Board}
    (hheld : (r.platform = none ∧ r.stack = none) ∨ ∃ p s, r.platform = some p ∧ r.stack = some s) :
    exec (restart factory) r b = (.ok ((), r'), b') ↔ Restarted factory r b r' b' := by
  rw [restart_eq, exec_bind_ok_iff]
  constructor
  · rintro ⟨⟨⟩, r₁, b₁, hx, hreb⟩
    obtain ⟨rfl, hrel⟩ := (release_ok_iff hheld).1 hx
    obtain ⟨p₂, b₂, s', p', hi, hf, hlt, rfl⟩ := (rebuild_ok_iff factory).1 hreb
    exact .mk hrel hi hf hlt
  · rintro ⟨hrel, hi, hf, hlt⟩
    exact ⟨(), _, _, (release_ok_iff hheld).2 ⟨rfl, hrel⟩,
      (rebuild_ok_iff factory).2 ⟨_, _, _, _, hi, hf, hlt, rfl⟩⟩

theorem Restarted.state {r' : Runner σ} {b' : Board} (h : Restarted factory r b r' b') : r'.state = .running := by
  cases h
  rfl

/-- A step while resetting ends normally exactly when the bring-up does, and then runs. -/
theorem step_resetting_ok_iff {st : RunnerState} {r' : Runner σ} {b' : Board} (hst : r.state = .resetting)
    (hheld : (r.platform = none ∧ r.stack = none) ∨ ∃ p s, r.platform = some p ∧ r.stack = some s) :
    exec (step factory) r b = (.ok (st, r'), b') ↔ st = .running ∧ Restarted factory r b r' b' := by
  have hstep : exec (step factory) r b = exec (restart factory >>= fun _ => do return (← get).state) r b := by
    simp only [step, exec_bind, exec_get, hst]
  rw [hstep, exec_bind_ok_iff]
  constructor
  · rintro ⟨⟨⟩, r₁, b₁, hx, hret⟩
    simp only [exec_bind, exec_get, exec_pure, Prod.mk.injEq, Except.ok.injEq] at hret
    obtain ⟨⟨rfl, rfl⟩, rfl⟩ := hret
    have hR := (restart_ok_iff factory hheld).1 hx
    exact ⟨hR.state, hR⟩
  · rintro ⟨rfl, hR⟩
    refine ⟨(), r', b', (restart_ok_iff factory hheld).2 hR, ?_⟩
    simp only [exec_bind, exec_get, exec_pure, hR.state]

/-- A step while running with no reset pending is one iteration of the held stack on the held
platform. -/
theorem step_running_ok_iff {p : Platform} {s : σ} {st : RunnerState} {r' : Runner σ} {b' : Board}
    (hst : r.state = .running) (hp : r.platform = some p) (hs : r.stack = some s)
    (hreq : b.resetRequested = false) :
    exec (step factory) r b = (.ok (st, r'), b') ↔
      ∃ s' p', exec (iteration s) p b = (.ok (s', p'), b') ∧ st = .running ∧
        r' = { r with platform := some p', stack := some s' } := by
  have hrun : ((iteration s).run p).run.run b = exec (iteration s) p b := rfl
  simp only [step, iterate, exec_bind, exec_get, hst, hp, hs, exec_getBoard, hreq, Bool.false_eq_true,
    ↓reduceIte, exec_liftM, hrun]
  rcases exec (iteration s) p b with ⟨_ | ⟨s', p'⟩, b₁⟩
  · simp
  · simp only [exec_set, exec_pure, Prod.mk.injEq, Except.ok.injEq]
    constructor
    · rintro ⟨⟨rfl, rfl⟩, rfl⟩
      exact ⟨s', p', ⟨⟨rfl, rfl⟩, rfl⟩, rfl, rfl⟩
    · rintro ⟨s'', p'', ⟨⟨rfl, rfl⟩, rfl⟩, rfl, rfl⟩
      exact ⟨⟨rfl, rfl⟩, rfl⟩

end Cycle

section Sound
variable {P : PlatformParams}

/-- What holds between steps on a board built from `P`: either the runner holds a stack and a
platform that is up, after at least one bring-up, or it has made none yet and the board is
clean. -/
inductive Sound (P : PlatformParams) (r : Runner σ) (b : Board) : Prop
  | live {p : Platform} {s : σ} : r.params = P → r.platform = some p → r.stack = some s → 0 < r.starts →
      p.Up P b → Sound P r b
  | fresh : r.params = P → r.state = .resetting → r.platform = none → r.stack = none → r.starts = 0 →
      b.Clean P → Sound P r b

theorem Sound.params (h : Sound P r b) : r.params = P := by
  cases h <;> assumption

theorem Sound.held (h : Sound P r b) :
    (r.platform = none ∧ r.stack = none) ∨ ∃ p s, r.platform = some p ∧ r.stack = some s := by
  rcases h with ⟨-, hp, hs, -, -⟩ | ⟨-, -, hp, hs, -, -⟩
  · exact .inr ⟨_, _, hp, hs⟩
  · exact .inl ⟨hp, hs⟩

theorem Sound.up (h : Sound P r b) {p : Platform} (hp : r.platform = some p) : p.Up P b := by
  rcases h with ⟨-, hp', -, -, hup⟩ | ⟨-, -, hp', -, -, -⟩
  · rw [hp] at hp'
    cases hp'
    exact hup
  · rw [hp] at hp'
    cases hp'

/-- A running runner is live. -/
theorem Sound.running (h : Sound P r b) (hst : r.state = .running) :
    ∃ p s, r.platform = some p ∧ r.stack = some s ∧ 0 < r.starts := by
  rcases h with ⟨-, hp, hs, hpos, -⟩ | ⟨-, hst', -, -, -, -⟩
  · exact ⟨_, _, hp, hs, hpos⟩
  · rw [hst] at hst'
    cases hst'

/-- Another thread's request for a pseudo-reset keeps the runner sound. -/
theorem Sound.request (h : Sound P r b) : Sound P r (Board.requestReset.run.run b).2 := by
  rcases h with ⟨hpar, hp, hs, hpos, hup⟩ | ⟨hpar, hst, hp, hs, hz, hb⟩
  · exact .live hpar hp hs hpos (hup.of_board rfl rfl rfl rfl rfl)
  · exact .fresh hpar hst hp hs hz (hb.setReset true)

end Sound

/-- The bring-up whose stack a step finalizes: a resetting runner that holds a stack retires the
one its last bring-up built. -/
def retiring (r : Runner σ) : List Nat :=
  match r.state, r.stack with
  | .resetting, some _ => [r.starts.toNat]
  | _, _ => []

theorem range_push {k : Nat} (h : 0 < k) : List.range' 1 (k - 1) ++ [k] = List.range' 1 k := by
  obtain ⟨j, rfl⟩ : ∃ j, k = j + 1 := ⟨k - 1, by omega⟩
  rw [Nat.add_sub_cancel, List.range'_concat, Nat.one_mul, Nat.add_comm]

section Step
variable [Stack σ] (factory : Nat → PlatformM σ) {P : PlatformParams}

/-- A bring-up counts one more start and retires the stack it finalized, if any. -/
theorem Sound.retiring_restarted {r' : Runner σ} {b' : Board} (h : Sound P r b) (hst : r.state = .resetting)
    (hR : Restarted factory r b r' b') :
    List.range' 1 (r.starts.toNat - 1) ++ r.retiring = List.range' 1 (r'.starts.toNat - 1) := by
  obtain ⟨-, -, -, hlt⟩ := hR
  have hnext := UInt32.toNat_add_one_of_lt hlt
  rcases h with ⟨-, -, hs, hpos, -⟩ | ⟨-, -, -, hs, hz, -⟩
  · simp only [retiring, hst, hs, hnext, Nat.add_sub_cancel]
    exact range_push (UInt32.lt_iff_toNat_lt.1 hpos)
  · simp only [retiring, hst, hs, hz]
    rfl

variable (hfin : ∀ s : σ, Keeps (Platform.upKept P) (Stack.finalize s))
include hfin

/-- Letting go of what a sound runner holds leaves the board clean: the finalize keeps the
platform up, and releasing a platform that is up frees everything it took. -/
theorem Sound.released_clean {b₁ : Board} (h : Sound P r b) (hrel : Released r b b₁) : b₁.Clean P := by
  cases hrel with
  | fresh hp =>
    rcases h with ⟨-, hp', -, -, -⟩ | ⟨-, -, -, -, -, hb⟩
    · rw [hp] at hp'
      cases hp'
    · exact hb
  | finalized hp _ hf hd =>
    obtain ⟨p', b', hd', hclean⟩ := Platform.deinit_up (hfin _ _ _ _ _ _ hf (h.up hp))
    rw [hd] at hd'
    simp only [Prod.mk.injEq, Except.ok.injEq] at hd'
    obtain ⟨⟨-, rfl⟩, rfl⟩ := hd'
    exact hclean

/-- So the platform init of a bring-up never fails: it brings a platform up and clears any
pending pseudo-reset. -/
theorem Sound.init_ok (hP : P.validate = .ok ()) {b₁ : Board} (h : Sound P r b) (hrel : Released r b b₁) :
    ∃ p b₂, (Platform.init r.params).run.run b₁ = (.ok (.ok p), b₂) ∧ p.Up P b₂ ∧ b₂.resetRequested = false := by
  rw [h.params]
  exact Platform.init_clean hP (h.released_clean hfin hrel)

variable (hfac : ∀ n, Keeps (Platform.upKept P) (factory n))
include hfac

/-- A bring-up from a sound runner leaves it sound and holding what it brought up. -/
theorem Sound.restarted (hP : P.validate = .ok ()) {r' : Runner σ} {b' : Board} (h : Sound P r b)
    (hR : Restarted factory r b r' b') : Sound P r' b' := by
  obtain ⟨hrel, hi, hf, hlt⟩ := hR
  obtain ⟨p, b₂, hi', hup, -⟩ := h.init_ok hfin hP hrel
  rw [hi] at hi'
  cases hi'
  have hpos : 0 < r.starts + 1 := by
    rw [UInt32.lt_iff_toNat_lt, UInt32.toNat_add_one_of_lt hlt]
    exact Nat.succ_pos _
  exact .live h.params rfl rfl hpos (hfac _ _ _ _ _ _ hf hup)

/-- What one step does to a sound runner: it stays sound, and the finalized bring-ups go on
from where they were. -/
theorem Sound.step (hP : P.validate = .ok ()) (hk : Stack.Keeps (Platform.upKept P) σ)
    {st : RunnerState} {r' : Runner σ} {b' : Board}
    (h : Sound P r b) (hx : exec (step factory) r b = (.ok (st, r'), b')) :
    Sound P r' b' ∧ List.range' 1 (r.starts.toNat - 1) ++ r.retiring = List.range' 1 (r'.starts.toNat - 1) := by
  cases hst : r.state with
  | resetting =>
    obtain ⟨-, hR⟩ := (step_resetting_ok_iff factory hst h.held).1 hx
    exact ⟨h.restarted factory hfin hfac hP hR, h.retiring_restarted factory hst hR⟩
  | running =>
    -- a running runner is live, and retires nothing
    obtain ⟨p, s, hp, hs, hpos⟩ := h.running hst
    have hret : r.retiring = [] := by simp only [retiring, hst]
    cases hreq : b.resetRequested with
    | false =>
      obtain ⟨s', p', hit, -, rfl⟩ := (step_running_ok_iff factory hst hp hs hreq).1 hx
      have hup := keeps_iteration Platform.admits_upKept hk Platform.upKept_read s p b s' p' b' hit (h.up hp)
      exact ⟨.live h.params rfl rfl hpos hup, by rw [hret, List.append_nil]⟩
    | true =>
      rw [step_reset_pending factory hst hp hs hreq] at hx
      cases hx
      exact ⟨.live h.params hp hs hpos ((h.up hp).of_board rfl rfl rfl rfl rfl), by rw [hret, List.append_nil]⟩

end Step

section Run
variable [Stack σ] (factory : Nat → PlatformM σ)

/-- The runs of a runner started fresh on a board built from `P`, with the bring-ups whose
stacks were finalized so far, in order. Between steps another thread may ask for a
pseudo-reset. -/
inductive Run (P : PlatformParams) : List Nat → Runner σ → Board → Prop
  | start : Run P [] (Runner.new P) (Board.new P)
  | step {G : List Nat} {r r' : Runner σ} {b b' : Board} {st : RunnerState} :
      Run P G r b → exec (step factory) r b = (.ok (st, r'), b') → Run P (G ++ r.retiring) r' b'
  | request {G : List Nat} {r : Runner σ} {b : Board} : Run P G r b → Run P G r (Board.requestReset.run.run b).2

variable {P : PlatformParams} (hP : P.validate = .ok ()) (hk : Stack.Keeps (Platform.upKept P) σ)
  (hfin : ∀ s : σ, Keeps (Platform.upKept P) (Stack.finalize s)) (hfac : ∀ n, Keeps (Platform.upKept P) (factory n))
include hP hk hfin hfac

/-- Every run keeps the runner sound, and has finalized the stacks of bring-ups `1` to
`starts - 1`, each once and in order. -/
theorem Run.sound {G : List Nat} (hrun : Run factory P G r b) :
    Sound P r b ∧ G = List.range' 1 (r.starts.toNat - 1) := by
  induction hrun with
  | start => exact ⟨.fresh rfl rfl rfl rfl rfl (Board.clean_new P), rfl⟩
  | step _ hx ih =>
    obtain ⟨h, rfl⟩ := ih
    exact h.step factory hfin hfac hP hk hx
  | request _ ih => exact ⟨ih.1.request, ih.2⟩

/-- The pseudo-reset cycle of the runner, along every run from a fresh start on a board built
from valid parameters, for a stack whose work keeps the platform up. A running runner holds a
platform and a stack, and any platform it holds is up. A step taken while running with a reset
pending only logs it and moves to resetting. A resetting step lets the held stack finalize on
its platform, releases that platform, which leaves the board clean, brings a platform up with
an init that cannot fail and clears the request, and builds one new stack, counting one more
start. The stacks finalized so far are those of every bring-up but the current one, each once. -/
theorem run_pseudo_reset_cycle {G : List Nat} (hrun : Run factory P G r b) :
    (r.state = .running → ∃ p s, r.platform = some p ∧ r.stack = some s) ∧
    (∀ p, r.platform = some p → p.Up P b) ∧
    (r.state = .running → b.resetRequested = true →
      exec (step factory) r b = (.ok (.resetting, { r with state := .resetting }),
        { b with machine := { b.machine with journal := b.machine.journal.push ⟨.info, "pseudo reset"⟩ } })) ∧
    (r.state = .resetting →
      (∀ b₁, Released r b b₁ → b₁.Clean P ∧
        ∃ p b₂, (Platform.init P).run.run b₁ = (.ok (.ok p), b₂) ∧ p.Up P b₂ ∧ b₂.resetRequested = false) ∧
      ∀ st r' b', exec (step factory) r b = (.ok (st, r'), b') ↔ st = .running ∧ Restarted factory r b r' b') ∧
    G = List.range' 1 (r.starts.toNat - 1) := by
  obtain ⟨h, hG⟩ := hrun.sound factory hP hk hfin hfac
  refine ⟨fun hst => ?_, fun p hp => h.up hp, fun hst hreq => ?_, fun hst => ⟨fun b₁ hrel => ?_, fun st r' b' => ?_⟩, hG⟩
  · obtain ⟨p, s, hp, hs, -⟩ := h.running hst
    exact ⟨p, s, hp, hs⟩
  · obtain ⟨p, s, hp, hs, -⟩ := h.running hst
    exact step_reset_pending factory hst hp hs hreq
  · refine ⟨h.released_clean hfin hrel, ?_⟩
    have hinit := h.init_ok hfin hP hrel
    rwa [h.params] at hinit
  · exact step_resetting_ok_iff factory hst h.held

end Run

/-- On the standard board, a recording stack's first bring-up finds the platform init able to
come up. -/
theorem first_bring_up_standard :
    ∃ p b₂, (Platform.init PlatformParams.standard).run.run (Board.new PlatformParams.standard) =
      (.ok (.ok p), b₂) ∧ p.Up PlatformParams.standard b₂ ∧ b₂.resetRequested = false := by
  let s₀ : Recorder := { tag := "", tasklets := false, diag := false, echo := false, sendOnDone := 0, resetOn := none }
  have hk : Stack.Keeps (Platform.upKept PlatformParams.standard) Recorder :=
    Recorder.keeps Platform.admits_upKept Platform.keeps_send_up Platform.keeps_reset_up
  have hfin : ∀ s : Recorder, Keeps (Platform.upKept PlatformParams.standard) (Stack.finalize s) := fun s =>
    Keeps.bind (Recorder.keeps_note Platform.admits_upKept s "finalize") fun _ => Keeps.pure s
  have hcycle := run_pseudo_reset_cycle (fun _ => pure s₀) PlatformParams.validate_standard hk hfin (fun _ => Keeps.pure s₀) Run.start
  exact ((hcycle.2.2.2.1 rfl).1 _ (.fresh rfl rfl)).2


end Runner

end ThreadPlatform
