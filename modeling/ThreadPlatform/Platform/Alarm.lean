import ThreadPlatform.Platform.Clock
import ThreadPlatform.Core.PollContext
import ThreadPlatform.Log

/-!
# The millisecond alarm

`Alarm` is the one millisecond alarm the stack schedules its timers on. Arming
it (`startAt t0 dt`) replaces any earlier alarm; it is due `dt` milliseconds
after `t0` on the wrapping counter. While it runs, `remaining` is the time
left, or zero once it is due; the mainloop waits no longer than that, and the
first process pass that finds it due stops it and reports it, once.
-/

namespace ThreadPlatform

/-- The millisecond alarm. -/
structure Alarm where
  t0 : UInt32
  dt : UInt32
  running : Bool
  deriving DecidableEq, Repr, Inhabited

namespace Alarm

/-- A stopped alarm. -/
def new : Alarm := ⟨0, 0, false⟩

/-- The source's name. -/
def name : String := "alarm"

/-- Arms the alarm to be due `dt` milliseconds after `t0`. -/
def startAt (t0 dt : UInt32) : Alarm := ⟨t0, dt, true⟩

/-- The record arming writes. -/
def startNote (t0 dt : UInt32) : LogRecord := ⟨.debug, s!"alarm start running, t0={t0}, dt={dt}"⟩

/-- The record firing writes. -/
def firedNote : LogRecord := ⟨.debug, "alarm fired"⟩

/-- Stops the alarm. -/
def stop (a : Alarm) : Alarm := { a with running := false }

/-- Milliseconds left at `now`, zero once due; nothing while stopped. -/
def remaining (a : Alarm) (now : UInt32) : Option UInt32 :=
  if a.running then some ((Millis.remaining a.t0 a.dt now).getD 0) else none

/-- The mainloop waits no longer than the time left. -/
def update (a : Alarm) (now : UInt32) (ctx : PollContext) : PollContext :=
  match a.remaining now with
  | some r => ctx.tighten (Span.ofMillis r.toNat)
  | none => ctx

/-- Stops a due alarm and tells whether it fired. -/
def process (a : Alarm) (now : UInt32) : Bool × Alarm :=
  if a.remaining now = some 0 then (true, a.stop) else (false, a)

theorem process_fires_once (a : Alarm) (now : UInt32) :
    ((a.process now).2.process now).1 = false := by
  unfold process
  split <;> simp_all [remaining, stop]

end Alarm

end ThreadPlatform
