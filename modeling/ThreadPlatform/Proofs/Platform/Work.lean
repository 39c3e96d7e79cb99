import ThreadPlatform.Proofs.Radio.Transmit
import ThreadPlatform.Platform.Runner
/-!
# Running platform work

Work on the platform, on its console port, on its radio link and on the runner all runs in a
state monad over `BoardM`: it reads and changes a state of its own and the board, and may end
in a fatal condition. `Board.exec` runs such work; `Board.exec_bind_ok` takes a run of a
sequence that ended normally apart into runs of its parts.

A `Board.Frame` is a way the state and the board may change, closed under doing nothing and
under doing one change after another. `Board.Keeps F act` says that whenever `act` ends
normally it changed state and board only as `F` allows. The rules compose: `Keeps.bind`,
`Keeps.foldlM`, one rule per way of lifting work (`Keeps.liftM`, `Platform.keeps_onConsole`,
`Platform.keeps_onRadio`), and `Keeps.mono` to pass to a larger frame.
-/

namespace ThreadPlatform

namespace Board

/-- Work on a state of its own and the board, run from state `s` and board `b`: its answer and
its state after it, or the fatal condition it ended in, and the board after it. -/
def exec {σ α : Type} (act : StateT σ BoardM α) (s : σ) (b : Board) : Except Fatal (α × σ) × Board :=
  (act.run s).run.run b

section Exec
variable {σ α β : Type} {s s' s'' : σ} {b b' b'' : Board}

theorem exec_bind (x : StateT σ BoardM α) (f : α → StateT σ BoardM β) (s : σ) (b : Board) :
    exec (x >>= f) s b =
      match exec x s b with
      | (.ok (a, s'), b') => exec (f a) s' b'
      | (.error e, b') => (.error e, b') := by
  unfold exec
  simp only [StateT.run_bind, ExceptT.run_bind]
  rcases (x.run s).run.run b with ⟨_ | ⟨a, s'⟩, b'⟩ <;> rfl

/-- A sequence that ended normally ended normally in both its parts. -/
theorem exec_bind_ok {x : StateT σ BoardM α} {f : α → StateT σ BoardM β} {c : β}
    (h : exec (x >>= f) s b = (.ok (c, s''), b'')) :
    ∃ a s' b', exec x s b = (.ok (a, s'), b') ∧ exec (f a) s' b' = (.ok (c, s''), b'') := by
  rw [exec_bind] at h
  split at h
  · rename_i a s' b' hx
    exact ⟨a, s', b', hx, h⟩
  · cases h

/-- And a sequence whose parts ended normally, one after the other, ended normally. -/
theorem exec_bind_ok_iff {x : StateT σ BoardM α} {f : α → StateT σ BoardM β} {c : β} :
    exec (x >>= f) s b = (.ok (c, s''), b'') ↔
      ∃ a s' b', exec x s b = (.ok (a, s'), b') ∧ exec (f a) s' b' = (.ok (c, s''), b'') :=
  ⟨exec_bind_ok, fun ⟨_, _, _, hx, hf⟩ => by rw [exec_bind, hx]; exact hf⟩

@[simp] theorem exec_pure (a : α) : exec (pure a : StateT σ BoardM α) s b = (.ok (a, s), b) := rfl

@[simp] theorem exec_get : exec (get : StateT σ BoardM σ) s b = (.ok (s, s), b) := rfl

@[simp] theorem exec_getBoard (s : σ) (b : Board) :
    exec (getThe Board : StateT σ BoardM Board) s b = (.ok (b, s), b) := rfl

@[simp] theorem exec_set (s' : σ) : exec (set s' : StateT σ BoardM PUnit) s b = (.ok (⟨⟩, s'), b) := rfl

@[simp] theorem exec_modify (f : σ → σ) : exec (modify f : StateT σ BoardM PUnit) s b = (.ok (⟨⟩, f s), b) :=
  rfl

@[simp] theorem exec_modifyGet (f : σ → α × σ) :
    exec (modifyGet f : StateT σ BoardM α) s b = (.ok ((f s).1, (f s).2), b) := rfl

/-- Board work run inside work on a state leaves the state alone. -/
theorem exec_liftM (x : BoardM α) :
    exec (liftM x : StateT σ BoardM α) s b =
      match x.run.run b with
      | (.ok a, b') => (.ok (a, s), b')
      | (.error e, b') => (.error e, b') := by
  unfold exec
  simp only [liftM, monadLift, MonadLift.monadLift, StateT.run_lift, ExceptT.run_bind, StateT.run_bind]
  rcases x.run.run b with ⟨_ | a, b'⟩ <;> rfl

theorem exec_liftM_ok {x : BoardM α} {a : α} (h : exec (liftM x : StateT σ BoardM α) s b = (.ok (a, s'), b')) :
    x.run.run b = (.ok a, b') ∧ s' = s := by
  rw [exec_liftM] at h
  split at h
  · rename_i a' b₁ hx
    simp only [Prod.mk.injEq, Except.ok.injEq] at h
    obtain ⟨⟨rfl, rfl⟩, rfl⟩ := h
    exact ⟨hx, rfl⟩
  · cases h

/-- Work on the machine, run inside work on a state. -/
@[simp] theorem exec_onMachine (act : MachineM α) :
    exec (liftM (onMachine act) : StateT σ BoardM α) s b =
      (.ok ((act.run b.machine).1, s), { b with machine := (act.run b.machine).2 }) :=
  rfl

/-- A deadline named inside work on a state: the reading `span` from now, with the state and
the board as they were, or the overflow panic past the clock's range. -/
theorem exec_deadlineAfter (site : String) (span : Span) :
    exec (liftM (deadlineAfter site span) : StateT σ BoardM Nat) s b =
      (if b.machine.now + span.nanos < Span.instantLimit then .ok (b.machine.now + span.nanos, s)
        else .error ⟨Span.overflowMessage, some site⟩, b) := by
  rw [exec_liftM, run_deadlineAfter]
  by_cases h : b.machine.now + span.nanos < Span.instantLimit
  · simp only [h, if_true]
  · simp only [h, if_false]

theorem exec_deadlineAfter_ok {site : String} {span : Span} {d : Nat}
    (h : exec (liftM (deadlineAfter site span) : StateT σ BoardM Nat) s b = (.ok (d, s'), b')) :
    d = b.machine.now + span.nanos ∧ s' = s ∧ b' = b := by
  rw [exec_deadlineAfter] at h
  split at h
  · simp only [Prod.mk.injEq, Except.ok.injEq] at h
    obtain ⟨⟨rfl, rfl⟩, rfl⟩ := h
    exact ⟨rfl, rfl, rfl⟩
  · simp only [Prod.mk.injEq, reduceCtorEq, false_and] at h

/-- A counter's increment inside work on a state leaves the state and the board alone: one more,
or the add overflow panic. -/
theorem exec_increment (site : String) (n : UInt32) :
    exec (liftM (increment site n) : StateT σ BoardM UInt32) s b =
      (if n < 4294967295 then .ok (n + 1, s) else .error ⟨addOverflow, some site⟩, b) := by
  rw [exec_liftM, run_increment]
  by_cases hlt : n < 4294967295
  · simp only [hlt, if_true]
  · simp only [hlt, if_false]

/-- An increment inside work on a state that ended normally stepped its counter by one without
passing its 32 bits, and changed nothing else. -/
theorem exec_increment_ok {site : String} {n m : UInt32}
    (h : exec (liftM (increment site n) : StateT σ BoardM UInt32) s b = (.ok (m, s'), b')) :
    m = n + 1 ∧ m.toNat = n.toNat + 1 ∧ s' = s ∧ b' = b := by
  obtain ⟨hrun, rfl⟩ := exec_liftM_ok h
  obtain ⟨hm, hnat, rfl⟩ := run_increment_ok hrun
  exact ⟨hm, hnat, rfl, rfl⟩

/-- A fatal condition never ends work normally. -/
theorem exec_fatal_ne (msg : String) (a : α) : exec (liftM (fatal msg : BoardM α)) s b ≠ (.ok (a, s'), b') := by
  intro h
  exact run_fatal_ne msg a b b' (exec_liftM_ok h).1

end Exec

/-! ## Frames -/

/-- A way the state and the board may change, closed under doing nothing and under doing one
change after another. -/
structure Frame (σ : Type) where
  holds : σ → Board → σ → Board → Prop
  refl : ∀ s b, holds s b s b
  trans : ∀ {s₁ s₂ s₃ : σ} {b₁ b₂ b₃ : Board}, holds s₁ b₁ s₂ b₂ → holds s₂ b₂ s₃ b₃ → holds s₁ b₁ s₃ b₃

/-- Both frames at once. -/
def Frame.and {σ : Type} (F G : Frame σ) : Frame σ where
  holds s b s' b' := F.holds s b s' b' ∧ G.holds s b s' b'
  refl s b := ⟨F.refl s b, G.refl s b⟩
  trans h₁ h₂ := ⟨F.trans h₁.1 h₂.1, G.trans h₁.2 h₂.2⟩

/-- Whenever the work ends normally, it changed its state and the board as `F` allows. -/
def Keeps {σ α : Type} (F : Frame σ) (act : StateT σ BoardM α) : Prop :=
  ∀ s b a s' b', exec act s b = (.ok (a, s'), b') → F.holds s b s' b'

namespace Keeps

variable {σ α β : Type} {F G : Frame σ}

theorem pure (a : α) : Keeps F (Pure.pure a : StateT σ BoardM α) := by
  intro s b a' s' b' h
  simp only [exec_pure, Prod.mk.injEq, Except.ok.injEq] at h
  obtain ⟨⟨-, rfl⟩, rfl⟩ := h
  exact F.refl s b

theorem bind {x : StateT σ BoardM α} {f : α → StateT σ BoardM β} (hx : Keeps F x) (hf : ∀ a, Keeps F (f a)) :
    Keeps F (x >>= f) := by
  intro s b c s'' b'' h
  obtain ⟨a, s', b', h₁, h₂⟩ := exec_bind_ok h
  exact F.trans (hx s b a s' b' h₁) (hf a s' b' c s'' b'' h₂)

theorem map {x : StateT σ BoardM α} (f : α → β) (hx : Keeps F x) : Keeps F (f <$> x) := by
  rw [← bind_pure_comp]
  exact bind hx fun a => pure (f a)

theorem ite (c : Prop) [Decidable c] {x y : StateT σ BoardM α} (hx : Keeps F x) (hy : Keeps F y) :
    Keeps F (if c then x else y) := by
  split
  · exact hx
  · exact hy

theorem mono {act : StateT σ BoardM α} (h : Keeps F act) (hFG : ∀ s b s' b', F.holds s b s' b' → G.holds s b s' b') :
    Keeps G act :=
  fun s b a s' b' hx => hFG s b s' b' (h s b a s' b' hx)

theorem get : Keeps F (MonadState.get : StateT σ BoardM σ) := by
  intro s b a s' b' h
  simp only [exec_get, Prod.mk.injEq, Except.ok.injEq] at h
  obtain ⟨⟨-, rfl⟩, rfl⟩ := h
  exact F.refl s b

/-- Work that first reads its state keeps `F` when, from every state, what it does next keeps
`F` run from that state. -/
theorem get_bind {f : σ → StateT σ BoardM α}
    (h : ∀ s b a s' b', exec (f s) s b = (.ok (a, s'), b') → F.holds s b s' b') :
    Keeps F (MonadState.get >>= f) := by
  intro s b a s' b' hx
  rw [exec_bind, exec_get] at hx
  exact h s b a s' b' hx

/-- Board work inside work on a state, when every normal run of it is allowed with the state
left alone. -/
theorem liftM {x : BoardM α} (h : ∀ s b a b', x.run.run b = (.ok a, b') → F.holds s b s b') :
    Keeps F (liftM x : StateT σ BoardM α) := by
  intro s b a s' b' hx
  obtain ⟨hrun, hs⟩ := exec_liftM_ok hx
  rw [hs]
  exact h s b a b' hrun

theorem and {act : StateT σ BoardM α} (hF : Keeps F act) (hG : Keeps G act) : Keeps (F.and G) act :=
  fun s b a s' b' h => ⟨hF s b a s' b' h, hG s b a s' b' h⟩

theorem modify {f : σ → σ} (h : ∀ s b, F.holds s b (f s) b) : Keeps F (MonadState.modifyGet fun s => (PUnit.unit, f s) : StateT σ BoardM PUnit) := by
  intro s b a s' b' hx
  simp only [exec_modifyGet, Prod.mk.injEq, Except.ok.injEq] at hx
  obtain ⟨⟨-, rfl⟩, rfl⟩ := hx
  exact h s b

theorem set {s₀ : σ} (h : ∀ s b, F.holds s b s₀ b) : Keeps F (MonadStateOf.set s₀ : StateT σ BoardM PUnit) := by
  intro s b a s' b' hx
  simp only [exec_set, Prod.mk.injEq, Except.ok.injEq] at hx
  obtain ⟨⟨-, rfl⟩, rfl⟩ := hx
  exact h s b

/-- A fatal condition keeps every frame: it never ends normally. -/
theorem fatal (msg : String) : Keeps F (monadLift (Board.fatal msg : BoardM α) : StateT σ BoardM α) :=
  fun _ _ _ _ _ h => absurd h (exec_fatal_ne msg _)

/-- A counter's increment keeps every frame: when it ends normally it changed nothing. -/
theorem increment (site : String) (n : UInt32) :
    Keeps F (monadLift (Board.increment site n) : StateT σ BoardM UInt32) :=
  Keeps.liftM fun s b _ _ h => by
    obtain ⟨-, -, rfl⟩ := run_increment_ok h
    exact F.refl s _

theorem foldlM {γ : Type} {f : β → γ → StateT σ BoardM β} (hf : ∀ x c, Keeps F (f x c)) :
    ∀ (l : List γ) (init : β), Keeps F (l.foldlM f init)
  | [], init => pure init
  | c :: l, init => by
    rw [List.foldlM_cons]
    exact bind (hf init c) fun x => foldlM hf l x

end Keeps

end Board

namespace Platform

open Board

section Lift
variable {α : Type} {p p' : Platform} {b b' : Board}

/-- Console work run on the platform works on its console port. -/
theorem exec_onConsole (act : StateT ConsolePort BoardM α) (p : Platform) (b : Board) :
    exec (onConsole act) p b =
      match exec act p.console b with
      | (.ok (a, c), b') => (.ok (a, { p with console := c }), b')
      | (.error e, b') => (.error e, b') := by
  unfold onConsole
  rw [exec_bind, exec_get]
  dsimp only
  rw [exec_bind, exec_liftM]
  have hrun : (act.run p.console).run.run b = exec act p.console b := rfl
  rw [hrun]
  rcases exec act p.console b with ⟨_ | ⟨a, c⟩, b'⟩ <;> rfl

/-- Link work run on the platform works on its radio link. -/
theorem exec_onRadio (act : StateT RadioLink BoardM α) (p : Platform) (b : Board) :
    exec (onRadio act) p b =
      match exec act p.radio b with
      | (.ok (a, r), b') => (.ok (a, { p with radio := r }), b')
      | (.error e, b') => (.error e, b') := by
  unfold onRadio
  rw [exec_bind, exec_get]
  dsimp only
  rw [exec_bind, exec_liftM]
  have hrun : (act.run p.radio).run.run b = exec act p.radio b := rfl
  rw [hrun]
  rcases exec act p.radio b with ⟨_ | ⟨a, r⟩, b'⟩ <;> rfl

theorem exec_onConsole_ok {act : StateT ConsolePort BoardM α} {a : α}
    (h : exec (onConsole act) p b = (.ok (a, p'), b')) :
    ∃ c, exec act p.console b = (.ok (a, c), b') ∧ p' = { p with console := c } := by
  rw [exec_onConsole] at h
  split at h
  · rename_i a' c b₁ hx
    simp only [Prod.mk.injEq, Except.ok.injEq] at h
    obtain ⟨⟨rfl, rfl⟩, rfl⟩ := h
    exact ⟨c, hx, rfl⟩
  · cases h

theorem exec_onRadio_ok {act : StateT RadioLink BoardM α} {a : α}
    (h : exec (onRadio act) p b = (.ok (a, p'), b')) :
    ∃ r, exec act p.radio b = (.ok (a, r), b') ∧ p' = { p with radio := r } := by
  rw [exec_onRadio] at h
  split at h
  · rename_i a' r b₁ hx
    simp only [Prod.mk.injEq, Except.ok.injEq] at h
    obtain ⟨⟨rfl, rfl⟩, rfl⟩ := h
    exact ⟨r, hx, rfl⟩
  · cases h

end Lift

/-- Console work whose every normal run, put back on the platform, is allowed by `F`. -/
theorem keeps_onConsole {α : Type} {F : Frame Platform} {act : StateT ConsolePort BoardM α}
    (h : ∀ p b a c b', exec act p.console b = (.ok (a, c), b') → F.holds p b { p with console := c } b') :
    Keeps F (onConsole act) := by
  intro p b a p' b' hx
  obtain ⟨c, hc, rfl⟩ := exec_onConsole_ok hx
  exact h p b a c b' hc

/-- Link work whose every normal run, put back on the platform, is allowed by `F`. -/
theorem keeps_onRadio {α : Type} {F : Frame Platform} {act : StateT RadioLink BoardM α}
    (h : ∀ p b a r b', exec act p.radio b = (.ok (a, r), b') → F.holds p b { p with radio := r } b') :
    Keeps F (onRadio act) := by
  intro p b a p' b' hx
  obtain ⟨r, hr, rfl⟩ := exec_onRadio_ok hx
  exact h p b a r b' hr

end Platform

end ThreadPlatform
