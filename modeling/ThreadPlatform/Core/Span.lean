/-!
# Spans of time

A `Span` is a length of time in nanoseconds. It is written as whole seconds
and the nanoseconds beyond them (`secs`, `subsecNanos`), and read back in whole
milliseconds by truncation (`toMillis`).

A reading of the monotonic clock is a count of nanoseconds too. It is held as
whole seconds in a signed 64-bit count and the nanoseconds within the second,
so a reading of `instantLimit` or more cannot be named: `after?` is the reading
a span after another, when there is one, and adding a span that passes the
limit is a panic of the runtime (`overflowMessage`).
-/

namespace ThreadPlatform

/-- A length of time, in nanoseconds. -/
structure Span where
  nanos : Nat
  deriving DecidableEq, Repr, Inhabited

namespace Span

/-- No time at all. -/
def zero : Span := ⟨0⟩

/-- Nanoseconds per millisecond. -/
def nanosPerMilli : Nat := 1000000

/-- Nanoseconds per second. -/
def nanosPerSec : Nat := 1000000000

/-- A whole number of milliseconds. -/
def ofMillis (ms : Nat) : Span := ⟨ms * nanosPerMilli⟩

/-- A whole number of microseconds. -/
def ofMicros (us : Nat) : Span := ⟨us * 1000⟩

/-- Seconds and extra nanoseconds; nanoseconds past a second carry into the seconds. -/
def ofSecsNanos (secs nanos : Nat) : Span := ⟨secs * nanosPerSec + nanos⟩

/-- Whole seconds. -/
def secs (s : Span) : Nat := s.nanos / nanosPerSec

/-- Nanoseconds beyond the whole seconds. -/
def subsecNanos (s : Span) : Nat := s.nanos % nanosPerSec

/-- Whole milliseconds, rounded down. -/
def toMillis (s : Span) : Nat := s.nanos / nanosPerMilli

/-- Whole milliseconds as a 64-bit count, which wraps around. -/
def toMillis64 (s : Span) : Nat := s.toMillis % 18446744073709551616

/-- Whole microseconds, rounded down. -/
def toMicros (s : Span) : Nat := s.nanos / 1000

instance : LE Span := ⟨fun a b => a.nanos ≤ b.nanos⟩
instance : LT Span := ⟨fun a b => a.nanos < b.nanos⟩
instance (a b : Span) : Decidable (a ≤ b) := inferInstanceAs (Decidable (a.nanos ≤ b.nanos))
instance (a b : Span) : Decidable (a < b) := inferInstanceAs (Decidable (a.nanos < b.nanos))

/-- The shorter of two spans. -/
def min (a b : Span) : Span := if b < a then b else a

/-- One past the last clock reading, in nanoseconds: the first whole second past
the signed 64-bit range. -/
def instantLimit : Nat := 9223372036854775808 * nanosPerSec

/-- The clock reading `s` after `now`, if the clock can name it. -/
def after? (s : Span) (now : Nat) : Option Nat :=
  if now + s.nanos < instantLimit then some (now + s.nanos) else none

/-- What the runtime panics with when a span takes a reading past the limit. -/
def overflowMessage : String := "overflow when adding duration to instant"

theorem toMillis_ofMillis (ms : Nat) : (ofMillis ms).toMillis = ms := by
  simp [ofMillis, toMillis, nanosPerMilli]

end Span

end ThreadPlatform
