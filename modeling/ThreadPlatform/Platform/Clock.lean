import ThreadPlatform.Core.Millis

/-!
# The manual clock

`ManualClock` is time since boot in microseconds that only moves when told to:
`setMillis` sets it to a whole number of milliseconds, `advance` adds
microseconds, wrapping around at `2 ^ 64` as the counter does. The alarm reads
it as the wrapping 32-bit millisecond counter (`nowMillis`).
-/

namespace ThreadPlatform

/-- Time since boot in microseconds, moved by hand. -/
structure ManualClock where
  micros : UInt64
  deriving DecidableEq, Repr, Inhabited

namespace ManualClock

/-- The clock at zero. -/
def zero : ManualClock := ⟨0⟩

/-- Sets the clock to `ms` milliseconds. -/
def setMillis (_ : ManualClock) (ms : Nat) : ManualClock := ⟨(ms * 1000).toUInt64⟩

/-- Moves the clock on by `us` microseconds, wrapping around. -/
def advance (c : ManualClock) (us : Nat) : ManualClock := ⟨c.micros + us.toUInt64⟩

/-- The wrapping millisecond counter. -/
def nowMillis (c : ManualClock) : UInt32 := Millis.ofMicros c.micros

end ManualClock

end ThreadPlatform
