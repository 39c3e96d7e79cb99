/-!
# The wrapping millisecond counter

Platform time in milliseconds is a 32-bit counter that wraps around
(`ofMicros`: microseconds divided by a thousand, modulo `2 ^ 32`). A deadline
`t0 + dt` is measured on that circle: `remaining` is the distance from `now`
to the deadline, read as a signed 32-bit number, and only a positive distance
counts as time left. So a deadline more than `2 ^ 31 - 1` ms ahead, or one
already reached, leaves no time.
-/

namespace ThreadPlatform.Millis

/-- Milliseconds on the wrapping counter for a microsecond reading. -/
def ofMicros (micros : UInt64) : UInt32 :=
  (micros / 1000).toUInt32

/-- Milliseconds from `now` until `t0 + dt`, if that lies ahead within half the circle. -/
def remaining (t0 dt now : UInt32) : Option UInt32 :=
  let r := t0 + dt - now
  if r != 0 && r < 0x80000000 then some r else none

theorem remaining_eq_some_iff (t0 dt now r : UInt32) :
    remaining t0 dt now = some r ↔
      r = t0 + dt - now ∧ r ≠ 0 ∧ r < 0x80000000 := by
  unfold remaining
  by_cases h : (t0 + dt - now != 0 && t0 + dt - now < 0x80000000) = true
  · simp only [h, if_true, Option.some.injEq]
    simp at h
    constructor
    · intro e; subst e; exact ⟨rfl, h⟩
    · rintro ⟨rfl, _⟩; rfl
  · simp only [h, Bool.false_eq_true, if_false, reduceCtorEq, false_iff]
    simp at h
    rintro ⟨rfl, h1, h2⟩
    exact absurd h2 (UInt32.not_lt.mpr (h h1))

end ThreadPlatform.Millis
