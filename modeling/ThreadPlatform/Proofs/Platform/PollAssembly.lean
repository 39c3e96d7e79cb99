import ThreadPlatform.Proofs.Machine.SelectOutcome
import ThreadPlatform.Proofs.Platform.AlarmTiming
import ThreadPlatform.Proofs.Platform.Passes

/-!
# What one update pass asks the poll to wait for

`Platform.mainloopUpdate` builds its poll context out of calls on it (`PollCall`): the wake
event, the console and the radio add their open descriptors for reading, the alarm shortens
the wait to its time left, the extra sources make their own calls, and pending tasklets or
console sends the stack has not heard of ask for no wait at all (`Platform.updateCalls`,
`Platform.exec_mainloopUpdate`).

What a list of calls does to a context is stated one field at a time:

* a descriptor is waited on for a condition exactly when it was before or a call added it
  for that condition (`PollCall.contains_waiting_foldl`);
* the wait is zero once a call asked for no wait, and otherwise the shortest of the wait
  before and every bound a call passed (`PollCall.timeout_foldl`, `Span.foldl_min_least`);
* the largest descriptor named stays the largest descriptor of interest
  (`PollContext.TopTracked`, kept by every call).

`Platform.poll_set_assembly` reads the context of an update pass off these.
-/

namespace ThreadPlatform

namespace FdSet

/-- `top` is the largest member of `s`, or `none` when `s` has no member. -/
def IsTop (s : FdSet) : Option Fd → Prop
  | none => ∀ fd, s.contains fd = false
  | some m => s.contains m = true ∧ ∀ fd, s.contains fd = true → fd.toNat ≤ m.toNat

theorem isTop_none (s : FdSet) : s.IsTop none ↔ ∀ fd, s.contains fd = false := Iff.rfl

theorem isTop_some (s : FdSet) (m : Fd) :
    s.IsTop (some m) ↔ s.contains m = true ∧ ∀ fd, s.contains fd = true → fd.toNat ≤ m.toNat := Iff.rfl

end FdSet

namespace Span

theorem min_le_left (a b : Span) : a.min b ≤ a := by
  unfold min
  split
  · rename_i h
    exact Nat.le_of_lt h
  · exact Nat.le_refl _

theorem min_le_right (a b : Span) : a.min b ≤ b := by
  unfold min
  split
  · exact Nat.le_refl _
  · rename_i h
    exact Nat.le_of_not_lt h

theorem min_eq_or (a b : Span) : a.min b = a ∨ a.min b = b := by
  unfold min
  split
  · exact .inr rfl
  · exact .inl rfl

theorem le_trans {a b c : Span} (hab : a ≤ b) (hbc : b ≤ c) : a ≤ c := Nat.le_trans hab hbc

theorem foldl_min_zero (bs : List Span) : bs.foldl min zero = zero := by
  induction bs with
  | nil => rfl
  | cons b bs ih =>
    have hz : zero.min b = zero := by
      unfold min
      exact if_neg (Nat.not_lt_zero b.nanos)
    rw [List.foldl_cons, hz, ih]

/-- Folding `min` over bounds from `t` gives the least of `t` and the bounds. -/
theorem foldl_min_least (t : Span) (bs : List Span) :
    bs.foldl min t ∈ t :: bs ∧ ∀ w ∈ t :: bs, bs.foldl min t ≤ w := by
  induction bs generalizing t with
  | nil => exact ⟨List.mem_singleton_self t, fun w hw => by rw [List.mem_singleton.1 hw]; exact Nat.le_refl _⟩
  | cons b bs ih =>
    obtain ⟨hmem, hle⟩ := ih (t.min b)
    have hfirst := hle (t.min b) (List.mem_cons_self ..)
    rw [List.foldl_cons]
    refine ⟨?_, fun w hw => ?_⟩
    · rcases List.mem_cons.1 hmem with h | h
      · rw [h]
        rcases min_eq_or t b with h' | h' <;> simp [h']
      · exact List.mem_cons_of_mem t (List.mem_cons_of_mem b h)
    · rcases List.mem_cons.1 hw with rfl | hw
      · exact le_trans hfirst (min_le_left _ _)
      rcases List.mem_cons.1 hw with rfl | hw
      · exact le_trans hfirst (min_le_right _ _)
      · exact hle w (List.mem_cons_of_mem _ hw)

end Span

namespace PollContext

open FdSet

section Calls
variable (ctx : PollContext) (fd : Fd) (c : Condition)

@[simp] theorem waiting_raiseMax : (ctx.raiseMax fd).waiting c = ctx.waiting c := by
  unfold raiseMax
  split
  · split <;> rfl
  · rfl

@[simp] theorem timeout_raiseMax : (ctx.raiseMax fd).timeout = ctx.timeout := by
  unfold raiseMax
  split
  · split <;> rfl
  · rfl

/-- Which descriptor ends up the largest named depends only on the one before. -/
theorem maxFd_raiseMax_congr {ctx' : PollContext} (h : ctx'.maxFd = ctx.maxFd) :
    (ctx'.raiseMax fd).maxFd = (ctx.raiseMax fd).maxFd := by
  unfold raiseMax
  rw [h]
  cases ctx.maxFd with
  | none => rfl
  | some m =>
    dsimp only
    by_cases hlt : m < fd
    · rw [if_pos hlt, if_pos hlt]
    · rw [if_neg hlt, if_neg hlt]
      exact h

/-- The largest descriptor named is the largest descriptor of interest. -/
def TopTracked : Prop := ctx.interest.IsTop ctx.maxFd

theorem topTracked_new (t : Span) : (new t).TopTracked := by
  unfold TopTracked
  rw [new, isTop_none]
  intro fd
  simp [interest, contains_union]

/-- Naming one more descriptor of interest keeps the largest one tracked. -/
theorem TopTracked.raiseMax {ctx : PollContext} (h : ctx.TopTracked) {s : FdSet}
    (hs : ∀ g, s.contains g = (ctx.interest.contains g || decide (fd = g))) :
    s.IsTop (ctx.raiseMax fd).maxFd := by
  unfold TopTracked at h
  unfold PollContext.raiseMax
  cases hm : ctx.maxFd with
  | none =>
    rw [hm, isTop_none] at h
    refine (isTop_some ..).2 ⟨by simp [hs], fun g hg => ?_⟩
    rw [hs, h g, Bool.false_or, decide_eq_true_eq] at hg
    exact Nat.le_of_eq (congrArg Fd.toNat hg.symm)
  | some m =>
    rw [hm, isTop_some] at h
    obtain ⟨hmem, hle⟩ := h
    dsimp only
    by_cases hlt : m < fd
    · -- `fd` is the new largest
      rw [if_pos hlt]
      refine (isTop_some ..).2 ⟨by simp [hs], fun g hg => ?_⟩
      rw [hs] at hg
      rcases Bool.or_eq_true_iff.1 hg with hg | hg
      · exact Nat.le_of_lt (Nat.lt_of_le_of_lt (hle g hg) hlt)
      · have hg : fd = g := of_decide_eq_true hg
        exact Nat.le_of_eq (congrArg Fd.toNat hg.symm)
    · rw [if_neg hlt, hm]
      refine (isTop_some ..).2 ⟨by simp [hs, hmem], fun g hg => ?_⟩
      rw [hs] at hg
      rcases Bool.or_eq_true_iff.1 hg with hg | hg
      · exact hle g hg
      · have hg : fd = g := of_decide_eq_true hg
        rw [← hg]
        exact Nat.le_of_not_lt hlt

end Calls

end PollContext

namespace PollCall

open PollContext

/-- The call that adds `fd` to the set waited on for `c`. -/
def add : Condition → Fd → PollCall
  | .readable, fd => .read fd
  | .writable, fd => .write fd
  | .error, fd => .error fd

/-- The bound a call shortens the wait to. -/
def bound? : PollCall → Option Span
  | .tighten bound => some bound
  | .read _ | .write _ | .error _ | .immediate => none

section Step
variable (ctx : PollContext) (call : PollCall) (c : Condition) (fd : Fd)

/-- One call adds at most its own descriptor, to its own set. -/
theorem contains_waiting_apply :
    ((call.apply ctx).waiting c).contains fd = ((ctx.waiting c).contains fd || decide (call = add c fd)) := by
  cases call <;> cases c <;> simp only [apply, add, addRead, addWrite, addError, waiting_raiseMax] <;>
    simp [waiting, tighten_eq_min, setImmediate, FdSet.contains_insert]

theorem contains_interest_apply (g : Fd) :
    ((add c fd).apply ctx).interest.contains g = (ctx.interest.contains g || decide (fd = g)) := by
  simp only [contains_interest, contains_waiting_apply]
  -- the descriptor lands in one of the three sets; what is left is reordering a disjunction
  cases c <;> simp [add] <;> grind

theorem maxFd_apply_add : ((add c fd).apply ctx).maxFd = (ctx.raiseMax fd).maxFd := by
  cases c <;> exact maxFd_raiseMax_congr ctx fd rfl

theorem topTracked_apply_add {ctx : PollContext} (h : ctx.TopTracked) : ((add c fd).apply ctx).TopTracked := by
  unfold TopTracked
  rw [maxFd_apply_add]
  exact h.raiseMax fd (contains_interest_apply ctx c fd)

/-- Every call keeps the largest descriptor tracked. -/
theorem topTracked_apply (h : ctx.TopTracked) : (call.apply ctx).TopTracked := by
  cases call with
  | read fd => exact topTracked_apply_add .readable fd h
  | write fd => exact topTracked_apply_add .writable fd h
  | error fd => exact topTracked_apply_add .error fd h
  | tighten bound => rw [apply, tighten_eq_min]; exact h
  | immediate => exact h

end Step

section Run
variable (calls : List PollCall) (ctx : PollContext)

/-- After a run of calls, a descriptor is waited on for `c` exactly when it was before or a
call added it for `c`. -/
theorem contains_waiting_foldl (c : Condition) (fd : Fd) :
    ((calls.foldl apply ctx).waiting c).contains fd = ((ctx.waiting c).contains fd || decide (add c fd ∈ calls)) := by
  induction calls generalizing ctx with
  | nil => simp
  | cons call calls ih =>
    rw [List.foldl_cons, ih, contains_waiting_apply]
    simp [List.mem_cons, Bool.or_assoc, eq_comm]

/-- After a run of calls, the wait is zero if a call asked for none, and otherwise the
shorter of the wait before and every bound a call passed. -/
theorem timeout_foldl :
    (calls.foldl apply ctx).timeout =
      if immediate ∈ calls then Span.zero else (calls.filterMap bound?).foldl Span.min ctx.timeout := by
  induction calls generalizing ctx with
  | nil => simp
  | cons call calls ih =>
    rw [List.foldl_cons, ih]
    cases call with
    | immediate =>
      simp only [List.mem_cons_self, if_true, apply, setImmediate]
      split
      · rfl
      · exact Span.foldl_min_zero _
    | tighten bound => simp [apply, tighten_eq_min, bound?]
    | read fd | write fd | error fd =>
      rw [List.filterMap_cons_none rfl]
      simp [apply, addRead, addWrite, addError]

theorem topTracked_foldl (h : ctx.TopTracked) : (calls.foldl apply ctx).TopTracked := by
  induction calls generalizing ctx with
  | nil => exact h
  | cons call calls ih => exact ih _ (topTracked_apply ctx call h)

end Run

end PollCall

/-! ## The update pass as a list of calls -/

theorem WakeSource.update_eq (w : WakeSource) (ctx : PollContext) :
    w.update ctx = (w.fd.toList.map PollCall.read).foldl PollCall.apply ctx := by
  unfold WakeSource.update
  cases w.fd <;> rfl

theorem Alarm.update_eq (a : Alarm) (now : UInt32) (ctx : PollContext) :
    a.update now ctx =
      ((a.remaining now).toList.map fun r => PollCall.tighten (Span.ofMillis r.toNat)).foldl PollCall.apply ctx := by
  -- the span is kept abstract: with `ofMillis` in view the kernel unfolds its product while
  -- comparing the two sides of `tighten`
  have key : ∀ (o : Option UInt32) (f : UInt32 → Span),
      Option.casesOn (motive := fun _ => PollContext) o ctx (fun r => ctx.tighten (f r)) =
        (o.toList.map fun r => PollCall.tighten (f r)).foldl PollCall.apply ctx := by
    intro o f
    cases o <;> rfl
  have hupdate : a.update now ctx =
      Option.casesOn (motive := fun _ => PollContext) (a.remaining now) ctx
        (fun r => ctx.tighten (Span.ofMillis r.toNat)) := by
    unfold Alarm.update
    cases a.remaining now <;> rfl
  rw [hupdate]
  exact key (a.remaining now) fun r => Span.ofMillis r.toNat

theorem ConsolePort.update_eq (c : ConsolePort) (ctx : PollContext) :
    c.update ctx = (c.fd.toList.map PollCall.read).foldl PollCall.apply ctx := by
  unfold ConsolePort.update
  cases c.fd <;> rfl

theorem RadioLink.update_eq (r : RadioLink) (ctx : PollContext) :
    r.update ctx = (r.fd.toList.map PollCall.read).foldl PollCall.apply ctx := by
  unfold RadioLink.update
  cases r.fd <;> rfl

namespace Platform

open Board PollCall
open PollContext (Condition)

/-- The calls the extra sources make in one update pass, source after source. -/
def sourceCalls (p : Platform) : List PollCall := p.sources.flatMap ScriptedSource.calls

/-- The calls the built-in sources make in one update pass at alarm time `now`: the wake
event's, the alarm's, the console's and the radio's. -/
def builtinCalls (p : Platform) (now : UInt32) : List PollCall :=
  p.wake.fd.toList.map read ++ ((p.alarm.remaining now).toList.map fun r => tighten (Span.ofMillis r.toNat)) ++
    p.console.fd.toList.map read ++ p.radio.fd.toList.map read

/-- Every call of one update pass with stack `s` at alarm time `now`. -/
def updateCalls {σ : Type} [Stack σ] (s : σ) (p : Platform) (now : UInt32) : List PollCall :=
  p.builtinCalls now ++ p.sourceCalls ++
    if Stack.taskletsPending s || decide (0 < p.console.sendsDone) then [immediate] else []

section Update
variable {σ : Type} [Stack σ] (s : σ) (p : Platform)

theorem builtin_update_eq (now : UInt32) (ctx : PollContext) :
    p.radio.update (p.console.update (p.alarm.update now (p.wake.update ctx))) =
      (p.builtinCalls now).foldl PollCall.apply ctx := by
  simp only [builtinCalls, List.foldl_append, WakeSource.update_eq, Alarm.update_eq, ConsolePort.update_eq,
    RadioLink.update_eq]

/-- The extra sources' update passes make their calls one source after another, and note
each pass in the trace. -/
theorem exec_sources_update (srcs : List ScriptedSource) (ctx : PollContext) (b : Board) :
    exec (srcs.foldlM (fun ctx src => (liftM (src.update ctx) : PlatformM PollContext)) ctx) p b =
      (.ok ((srcs.flatMap ScriptedSource.calls).foldl PollCall.apply ctx, p),
        { b with trace := srcs.foldl (fun t src => t.push s!"update:{src.name}") b.trace }) := by
  induction srcs generalizing ctx b with
  | nil => rfl
  | cons src srcs ih =>
    rw [List.foldlM_cons, exec_bind]
    have hsrc : exec (liftM (src.update ctx) : PlatformM PollContext) p b =
        (.ok (src.calls.foldl PollCall.apply ctx, p), { b with trace := b.trace.push s!"update:{src.name}" }) :=
      rfl
    rw [hsrc]
    dsimp only
    rw [ih, List.flatMap_cons, List.foldl_append, List.foldl_cons]

/-- One update pass makes the calls `updateCalls` lists, at the alarm time the board's clock
shows, and changes the board only by noting the extra sources' passes. -/
theorem exec_mainloopUpdate (ctx : PollContext) (b : Board) :
    exec (mainloopUpdate s ctx) p b =
      (.ok ((p.updateCalls s b.clock.nowMillis).foldl PollCall.apply ctx, p),
        { b with trace := p.sources.foldl (fun t src => t.push s!"update:{src.name}") b.trace }) := by
  unfold mainloopUpdate
  rw [exec_bind, exec_get]
  dsimp only
  rw [exec_bind, exec_alarmNow]
  dsimp only
  rw [exec_bind, builtin_update_eq, exec_sources_update]
  dsimp only
  rw [updateCalls, List.foldl_append, List.foldl_append]
  split <;> rfl

/-- The waits an update pass at alarm time `now` is bounded by: the configured one, the
alarm's time left when it is armed, and every bound an extra source passes. -/
def waitBounds (p : Platform) (now : UInt32) : List Span :=
  p.params.mainloopTimeout ::
    (((p.alarm.remaining now).toList.map fun r => Span.ofMillis r.toNat) ++ p.sourceCalls.filterMap bound?)

section Calls
variable (now : UInt32)

/-- Only pending tasklets, unreported console sends or an extra source ask for no wait. -/
theorem immediate_mem_updateCalls :
    immediate ∈ p.updateCalls s now ↔
      Stack.taskletsPending s = true ∨ 0 < p.console.sendsDone ∨ immediate ∈ p.sourceCalls := by
  simp only [updateCalls, builtinCalls]
  simp
  exact or_rotate

/-- Without a call for no wait, the bounds of an update pass are the alarm's and the extra
sources'. -/
theorem filterMap_bound_updateCalls (h : ¬ (Stack.taskletsPending s = true ∨ 0 < p.console.sendsDone)) :
    (p.updateCalls s now).filterMap bound? =
      ((p.alarm.remaining now).toList.map fun r => Span.ofMillis r.toNat) ++ p.sourceCalls.filterMap bound? := by
  have hread : ∀ l : List Fd, (l.map read).filterMap bound? = [] := fun l =>
    List.filterMap_map.trans (List.filterMap_eq_nil_iff.2 fun _ _ => rfl)
  have htighten : ∀ l : List UInt32,
      (l.map fun r => tighten (Span.ofMillis r.toNat)).filterMap bound? = l.map fun r => Span.ofMillis r.toNat :=
    fun l => List.filterMap_map.trans (congrFun List.filterMap_eq_map l)
  simp only [updateCalls, builtinCalls, Bool.or_eq_true, decide_eq_true_eq, if_neg h, List.append_nil,
    List.filterMap_append, hread, htighten, List.nil_append]

/-- The built-in sources add their open descriptors for reading, the extra sources what they ask for. -/
theorem add_mem_updateCalls (c : Condition) (fd : Fd) :
    add c fd ∈ p.updateCalls s now ↔
      (c = .readable ∧ (p.wake.fd = some fd ∨ p.console.fd = some fd ∨ p.radio.fd = some fd)) ∨
        add c fd ∈ p.sourceCalls := by
  cases c <;> simp [updateCalls, builtinCalls, add, or_assoc]

end Calls

/-- What one update pass from `mainloopInit` asks the poll to wait for. -/
theorem poll_set_assembly (b : Board) :
    let now := b.clock.nowMillis
    ∃ ctx b', exec (mainloopUpdate s (mainloopInit p)) p b = (.ok (ctx, p), b') ∧
      (if Stack.taskletsPending s = true ∨ 0 < p.console.sendsDone ∨ immediate ∈ p.sourceCalls then
          ctx.timeout = Span.zero
        else ctx.timeout ∈ p.waitBounds now ∧ ∀ w ∈ p.waitBounds now, ctx.timeout ≤ w) ∧
      (∀ fd, ctx.readFds.contains fd = true ↔
        (p.wake.fd = some fd ∨ p.console.fd = some fd ∨ p.radio.fd = some fd) ∨ read fd ∈ p.sourceCalls) ∧
      (∀ fd, ctx.writeFds.contains fd = true ↔ write fd ∈ p.sourceCalls) ∧
      (∀ fd, ctx.errorFds.contains fd = true ↔ error fd ∈ p.sourceCalls) ∧
      ctx.interest.IsTop ctx.maxFd := by
  intro now
  -- every set is empty before the pass, so a descriptor is in one exactly when a call added it
  have hset : ∀ c fd, (((p.updateCalls s now).foldl apply (mainloopInit p)).waiting c).contains fd = true ↔
      (c = .readable ∧ (p.wake.fd = some fd ∨ p.console.fd = some fd ∨ p.radio.fd = some fd)) ∨
        add c fd ∈ p.sourceCalls := by
    intro c fd
    rw [contains_waiting_foldl, ← add_mem_updateCalls s p now]
    cases c <;> simp [mainloopInit, PollContext.new, PollContext.waiting]
  refine ⟨_, _, exec_mainloopUpdate s p _ b, ?_, fun fd => ?_, fun fd => ?_, fun fd => ?_,
    topTracked_foldl _ _ (PollContext.topTracked_new _)⟩
  · rw [timeout_foldl]
    by_cases hc : Stack.taskletsPending s = true ∨ 0 < p.console.sendsDone ∨ immediate ∈ p.sourceCalls
    · rw [if_pos hc, if_pos ((immediate_mem_updateCalls s p now).2 hc)]
    · rw [if_neg hc, if_neg (mt (immediate_mem_updateCalls s p now).1 hc),
        filterMap_bound_updateCalls s p now (fun h => hc (h.elim .inl (.inr ∘ .inl)))]
      exact Span.foldl_min_least _ _
  · exact (hset .readable fd).trans (by simp [add])
  · exact (hset .writable fd).trans (by simp [add])
  · exact (hset .error fd).trans (by simp [add])

end Update

end Platform

end ThreadPlatform
