import Mathlib
import ThreadPlatform.Platform.Alarm

/-!
# When the millisecond alarm fires

The alarm is armed at `t0` for `dt` milliseconds on the wrapping 32-bit counter. At a reading
`now` of that counter, `d = now - t0` (taken modulo `2 ^ 32`) is how far the counter has moved
since arming, and `dt - d` the distance left to the deadline. The deadline is measured as a signed
distance, so it is trusted only within half the circle:

* `Millis.remaining_ahead`: while `d < dt` and `dt - d < 2 ^ 31`, the time left is `dt - d`;
* `Millis.remaining_far`: an alarm `2 ^ 31` ms or more ahead reads as already due;
* `Millis.remaining_passed`: from the deadline until `2 ^ 31` ms after it, the alarm is due.

`Alarm.timing_on_wrapping_counter` puts these together for the alarm's two passes: `update` waits
no longer than the time left, or not at all once due, and `process` fires exactly when it is due,
once. A stopped alarm never shortens a wait and never fires. Counting from the microsecond clock,
the counter is the whole milliseconds modulo `2 ^ 32` (`Millis.ofMicros_toNat`).
-/

namespace ThreadPlatform

namespace Millis

/-- The counter's value is the whole milliseconds of the reading, modulo `2 ^ 32`. -/
theorem ofMicros_toNat (micros : UInt64) : (ofMicros micros).toNat = micros.toNat / 1000 % 2 ^ 32 := by
  simp [ofMicros, UInt64.toNat_div]

/-- The distance from `now` to `t0 + dt` is `dt` less the distance already covered since `t0`. -/
theorem deadline_sub (t0 dt now : UInt32) : t0 + dt - now = dt - (now - t0) := by
  apply UInt32.toNat_inj.mp
  have := t0.toNat_lt
  have := dt.toNat_lt
  have := now.toNat_lt
  simp only [UInt32.toNat_sub, UInt32.toNat_add]
  omega

/-- No time is left exactly when the distance to the deadline is zero or, read as a signed
32-bit number, negative. -/
theorem remaining_eq_none_iff (t0 dt now : UInt32) :
    remaining t0 dt now = none ↔ dt - (now - t0) = 0 ∨ 2 ^ 31 ≤ (dt - (now - t0)).toNat := by
  unfold remaining
  rw [deadline_sub]
  generalize dt - (now - t0) = r
  have hlt : r < 0x80000000 ↔ r.toNat < 2 ^ 31 := UInt32.lt_iff_toNat_lt
  by_cases hz : r = 0
  · simp [hz]
  · by_cases hr : r.toNat < 2 ^ 31
    · simp [hz, hlt.2 hr]
      omega
    · have hnot : ¬ r < 0x80000000 := fun h => hr (hlt.1 h)
      simp [hz, hnot]
      omega

/-- Before the deadline the distance left is not zero. -/
theorem sub_ne_zero_of_lt {d dt : UInt32} (hd : d < dt) : dt - d ≠ 0 := by
  intro h0
  have hlt := UInt32.lt_iff_toNat_lt.1 hd
  have hsub := congrArg UInt32.toNat h0
  simp only [UInt32.toNat_sub, UInt32.toNat_zero] at hsub
  have := dt.toNat_lt
  omega

/-- Before the deadline, and less than half the circle from it, the time left is `dt - d`. -/
theorem remaining_ahead {t0 dt now : UInt32} (hd : now - t0 < dt) (hh : (dt - (now - t0)).toNat < 2 ^ 31) :
    remaining t0 dt now = some (dt - (now - t0)) := by
  rw [remaining_eq_some_iff, deadline_sub]
  exact ⟨rfl, sub_ne_zero_of_lt hd, UInt32.lt_iff_toNat_lt.2 hh⟩

/-- A deadline half the circle or more ahead reads as passed. -/
theorem remaining_far {t0 dt now : UInt32} (hh : 2 ^ 31 ≤ (dt - (now - t0)).toNat) :
    remaining t0 dt now = none :=
  (remaining_eq_none_iff t0 dt now).2 (.inr hh)

/-- From the deadline on, for half the circle, no time is left. -/
theorem remaining_passed {t0 dt now : UInt32} (hd : dt.toNat ≤ (now - t0).toNat)
    (hh : (now - t0).toNat < dt.toNat + 2 ^ 31) : remaining t0 dt now = none := by
  rw [remaining_eq_none_iff]
  generalize now - t0 = d at hd hh ⊢
  by_cases he : d.toNat = dt.toNat
  · left
    rw [UInt32.toNat_inj.mp he, UInt32.sub_self]
  · right
    have := d.toNat_lt
    simp only [UInt32.toNat_sub]
    omega

end Millis

namespace PollContext

/-- Tightening keeps the sets and takes the shorter of the two waits. -/
theorem tighten_eq_min (ctx : PollContext) (bound : Span) :
    ctx.tighten bound = { ctx with timeout := ctx.timeout.min bound } := by
  unfold tighten Span.min
  split <;> rfl

end PollContext

namespace Alarm

section Passes
variable {a : Alarm} {now : UInt32} (ctx : PollContext)

/-- A stopped alarm leaves every wait as it is and never fires. -/
theorem stopped_passes (hr : a.running = false) : a.update now ctx = ctx ∧ a.process now = (false, a) := by
  have hrem : a.remaining now = none := by simp [remaining, hr]
  exact ⟨by simp [update, hrem], by simp [process, hrem]⟩

/-- An alarm with time left shortens the wait to it and does not fire. -/
theorem pending_passes {r : UInt32} (hrem : a.remaining now = some r) (hr : r ≠ 0) :
    a.update now ctx = { ctx with timeout := ctx.timeout.min (Span.ofMillis r.toNat) } ∧
      a.process now = (false, a) := by
  refine ⟨by simp [update, hrem, PollContext.tighten_eq_min], ?_⟩
  simp [process, hrem, hr]

/-- A due alarm ends the wait at once, fires, and is stopped. -/
theorem due_passes (hrem : a.remaining now = some 0) :
    a.update now ctx = { ctx with timeout := Span.zero } ∧ a.process now = (true, a.stop) := by
  refine ⟨?_, by simp [process, hrem]⟩
  simp only [update, hrem, PollContext.tighten_eq_min]
  -- a wait of no time is the shorter one whatever the context asked for
  have hmin : ctx.timeout.min (Span.ofMillis (0 : UInt32).toNat) = Span.zero := by
    unfold Span.min
    split
    · rfl
    · next h =>
      have : ctx.timeout.nanos = 0 := by
        simp only [Span.ofMillis, UInt32.toNat_zero, Nat.zero_mul] at h
        change ¬ 0 < ctx.timeout.nanos at h
        omega
      exact congrArg Span.mk this
  rw [hmin]

end Passes

theorem remaining_startAt (t0 dt now : UInt32) :
    (startAt t0 dt).remaining now = some ((Millis.remaining t0 dt now).getD 0) := rfl

@[simp] theorem stop_running (a : Alarm) : a.stop.running = false := rfl

/-- The alarm armed by `startAt t0 dt`, read at the counter value `now = ofMicros micros` with
`d = now - t0`. Less than half the circle before its deadline it waits for the time left and does
not fire; half the circle or more before it, it counts as due; from the deadline on, for half the
circle, it ends the wait at once and fires, once. A stopped alarm does nothing. -/
theorem timing_on_wrapping_counter (t0 dt : UInt32) (micros : UInt64) (ctx : PollContext) :
    let now := Millis.ofMicros micros
    let d := now - t0
    let a := startAt t0 dt
    now.toNat = micros.toNat / 1000 % 2 ^ 32 ∧
    (d < dt → (dt - d).toNat < 2 ^ 31 →
      a.update now ctx = { ctx with timeout := ctx.timeout.min (Span.ofMillis (dt - d).toNat) } ∧
        a.process now = (false, a)) ∧
    (d < dt → 2 ^ 31 ≤ (dt - d).toNat →
      a.update now ctx = { ctx with timeout := Span.zero } ∧ a.process now = (true, a.stop)) ∧
    (dt.toNat ≤ d.toNat → d.toNat < dt.toNat + 2 ^ 31 →
      a.update now ctx = { ctx with timeout := Span.zero } ∧ a.process now = (true, a.stop) ∧
        ∀ later : UInt32, (a.stop.process later).1 = false) ∧
    (∀ b : Alarm, b.running = false → ∀ (now : UInt32) (ctx : PollContext),
      b.update now ctx = ctx ∧ b.process now = (false, b)) := by
  intro now d a
  refine ⟨Millis.ofMicros_toNat micros, fun hd hh => ?_, fun _ hh => ?_, fun hd hh => ?_,
    fun b hb now ctx => stopped_passes ctx hb⟩
  · have hrem : a.remaining now = some (dt - d) := by
      rw [remaining_startAt, Millis.remaining_ahead hd hh]
      rfl
    exact pending_passes ctx hrem (Millis.sub_ne_zero_of_lt hd)
  · have hrem : a.remaining now = some 0 := by
      rw [remaining_startAt, Millis.remaining_far hh]
      rfl
    exact due_passes ctx hrem
  · have hrem : a.remaining now = some 0 := by
      rw [remaining_startAt, Millis.remaining_passed hd hh]
      rfl
    obtain ⟨hu, hp⟩ := due_passes ctx hrem
    exact ⟨hu, hp, fun later => congrArg Prod.fst (@stopped_passes a.stop later ctx (stop_running a)).2⟩

/-- Armed 100 ms before the counter wraps for 300 ms: 150 ms after the wrap, 49 ms are left and
the alarm waits; 250 ms after it, the alarm is due and fires. -/
theorem timing_across_counter_wrap :
    let a := startAt 4294967195 300
    let ctx := PollContext.new PollContext.defaultTimeout
    (Millis.ofMicros 150000 - 4294967195 < (300 : UInt32) ∧
      ((300 : UInt32) - (Millis.ofMicros 150000 - 4294967195)).toNat < 2 ^ 31 ∧
      a.update (Millis.ofMicros 150000) ctx =
        { ctx with timeout := ctx.timeout.min (Span.ofMillis 49) } ∧
      a.process (Millis.ofMicros 150000) = (false, a)) ∧
    ((300 : UInt32).toNat ≤ (Millis.ofMicros 250000 - 4294967195).toNat ∧
      (Millis.ofMicros 250000 - 4294967195).toNat < (300 : UInt32).toNat + 2 ^ 31 ∧
      a.process (Millis.ofMicros 250000) = (true, a.stop)) := by
  intro a ctx
  have h₁ := (timing_on_wrapping_counter 4294967195 300 150000 ctx).2.1 (by decide) (by decide)
  have h₂ := (timing_on_wrapping_counter 4294967195 300 250000 ctx).2.2.2.1 (by decide) (by decide)
  exact ⟨⟨by decide, by decide, h₁.1, h₁.2⟩, by decide, by decide, h₂.2.1⟩

/-- Armed half the circle ahead, read at the moment of arming: although the deadline is still
`2 ^ 31` ms away, it reads as passed, so the alarm ends the wait and fires at once. -/
theorem armed_half_circle_ahead_fires_at_once :
    let a := startAt 0 2147483648
    let ctx := PollContext.new PollContext.defaultTimeout
    Millis.ofMicros 0 - 0 < (2147483648 : UInt32) ∧
      a.update (Millis.ofMicros 0) ctx = { ctx with timeout := Span.zero } ∧
      a.process (Millis.ofMicros 0) = (true, a.stop) := by
  intro a ctx
  exact ⟨by decide, due_passes ctx (by decide)⟩

end Alarm

end ThreadPlatform
