import ThreadPlatform.Proofs.Platform.Console
import ThreadPlatform.Proofs.Platform.BringUp
import ThreadPlatform.Cli.Serve
/-!
# Deadlines and the clock's range

A console send and a radio wait for room name their deadline as a span from now
(`Board.deadlineAfter`): the console's write timeout and the radio's longest wait, both the
configuration's `radioMaxWait`, which `validate` does not bound. A clock reading of
`Span.instantLimit` or more cannot be named, and naming one is a panic.

* `PlatformParams.validate_radioMaxWait`: no check of `validate` reads the wait.
* `ConsolePort.exec_send_in_range`: a console send whose port is down or whose deadline is in
  range never panics naming it: its write loop never stops the platform
  (`ConsolePort.total_writeOut`), so it ends normally, unless its 32-bit count of completed sends
  is at its largest, where a send that wrote everything panics with the count's overflow.
* `ConsolePort.exec_send_overflow`: a send on an up port whose deadline is past the range panics
  before it writes anything, and leaves the board as it was.
* `RadioLink.run_waitWritable`: a wait for room whose deadline is in range lasts until then; past
  the range it panics at once.

`deadline_panics_only_past_clock_range` gathers these for the ports of a configuration, and
`greeting_deadline_overflows` runs the host on a configuration whose wait is the longest a
duration holds: the first turn brings the platform up and stops at the greeting.
-/

namespace ThreadPlatform

open Board

namespace PlatformParams

/-- No check of `validate` reads the radio's wait, so every wait passes with the rest. -/
theorem validate_radioMaxWait (P : PlatformParams) (w : Span) :
    { P with radioMaxWait := w }.validate = P.validate := rfl

end PlatformParams

namespace Board

/-- Board work that ends normally from every board: no fatal condition and no panic. -/
def Total {α : Type} (act : BoardM α) : Prop :=
  ∀ b, ∃ a b', act.run.run b = (.ok a, b')

namespace Total
variable {α β : Type}

theorem bind {x : BoardM α} {f : α → BoardM β} (hx : Total x) (hf : ∀ a, Total (f a)) :
    Total (x >>= f) := by
  intro b
  obtain ⟨a, b₁, h₁⟩ := hx b
  obtain ⟨c, b₂, h₂⟩ := hf a b₁
  exact ⟨c, b₂, by rw [run_bind, h₁]; exact h₂⟩

theorem pure (a : α) : Total (Pure.pure a : BoardM α) := fun b => ⟨a, b, rfl⟩

theorem onMachine (act : MachineM α) : Total (Board.onMachine act) := fun _ => ⟨_, _, rfl⟩

theorem now : Total Board.now := fun b => ⟨_, b, rfl⟩

end Total

end Board

namespace ConsolePort

/-- The console's write loop never stops the platform: a line failure is only logged. -/
theorem total_writeOut (fd : Fd) (deadline : Nat) :
    ∀ fuel rest, Board.Total (writeOut fd deadline fuel rest) :=
  Loop.writeOut (Q := Board.Total)
    ⟨.pure, .bind, .now, fun _ _ => .onMachine _, fun _ => .onMachine _, fun _ _ => .onMachine _⟩ fd deadline

/-- A send on a port that is down, or whose write timeout from now is in the clock's range, never
panics naming its deadline: it ends normally, or, having written all of its octets with its count
of completed sends at the largest value, panics with the count's add overflow. -/
theorem exec_send_in_range {data : List UInt8} {c : ConsolePort} {b : Board}
    (h : c.fd = none ∨ b.machine.now + c.writeTimeout.nanos < Span.instantLimit) :
    (∃ r c' b', exec (send data) c b = (.ok (r, c'), b')) ∨
      c.sendsDone = 4294967295 ∧ ∃ b', exec (send data) c b = (.error ⟨addOverflow, some sendsDoneSite⟩, b') := by
  unfold send
  simp only [exec_bind, exec_get]
  cases hfd : c.fd with
  | none => exact .inl ⟨_, _, _, rfl⟩
  | some fd =>
    have hin : b.machine.now + c.writeTimeout.nanos < Span.instantLimit :=
      h.resolve_left (by simp [hfd])
    -- the deadline is named, then the write loop runs to its end
    obtain ⟨rest, b', hrun⟩ := total_writeOut fd (b.machine.now + c.writeTimeout.nanos)
      (2 * data.length + 2 * b.machine.eventsLeft + 4) data b
    simp only [exec_bind, exec_getBoard, exec_deadlineAfter, hin, if_true]
    rw [exec_liftM, hrun]
    dsimp only
    split
    · -- everything went out: the count takes one more, or is at its largest and overflows
      rw [exec_bind, exec_increment]
      by_cases hmax : c.sendsDone < 4294967295
      · exact .inl ⟨_, _, _, by simp only [hmax, if_true]; rfl⟩
      · exact .inr ⟨UInt32.eq_of_not_lt_max hmax, b', by simp only [hmax, if_false]⟩
    · exact .inl ⟨_, _, _, rfl⟩

/-- A send on an up port whose write timeout from now passes the clock's range panics with the
overflow before it writes anything: the board is as it was. -/
theorem exec_send_overflow {data : List UInt8} {c : ConsolePort} {b : Board} {fd : Fd}
    (hfd : c.fd = some fd) (h : Span.instantLimit ≤ b.machine.now + c.writeTimeout.nanos) :
    exec (send data) c b = (.error ⟨Span.overflowMessage, some deadlineSite⟩, b) := by
  have hout : ¬b.machine.now + c.writeTimeout.nanos < Span.instantLimit := Nat.not_lt.2 h
  unfold send
  simp only [exec_bind, exec_get, hfd, exec_getBoard, exec_deadlineAfter, hout, if_false]

end ConsolePort

/-- Deadlines of a configuration's ports. `validate` admits every radio wait, and the console's
write timeout is that wait too. While the clock reading at which a deadline is named plus the
wait stays below `Span.instantLimit`, neither panics naming it: a console send ends normally,
unless it completes with its count of completed sends at the largest value and panics on that
count, and a radio wait for room lasts until its deadline. Past the range, both panic with the
overflow at once and leave the board as it was. -/
theorem deadline_panics_only_past_clock_range {P : PlatformParams} (hP : P.validate = .ok ()) :
    (∀ w : Span, { P with radioMaxWait := w }.validate = .ok ()) ∧
    (∀ (c : ConsolePort) (b : Board) (data : List UInt8), c.writeTimeout = P.radioMaxWait →
      (b.machine.now + P.radioMaxWait.nanos < Span.instantLimit →
        (∃ r c' b', exec (ConsolePort.send data) c b = (.ok (r, c'), b')) ∨
          c.sendsDone = 4294967295 ∧
            ∃ b', exec (ConsolePort.send data) c b = (.error ⟨addOverflow, some ConsolePort.sendsDoneSite⟩, b')) ∧
      ∀ fd, c.fd = some fd → Span.instantLimit ≤ b.machine.now + P.radioMaxWait.nanos →
        exec (ConsolePort.send data) c b =
          (.error ⟨Span.overflowMessage, some ConsolePort.deadlineSite⟩, b)) ∧
    ∀ (fd : Fd) (b : Board),
      (b.machine.now + P.radioMaxWait.nanos < Span.instantLimit →
        (RadioLink.waitWritable fd P.radioMaxWait).run.run b =
          (RadioLink.awaitWritable fd (b.machine.now + P.radioMaxWait.nanos)
            (b.machine.eventsLeft + 2)).run.run b) ∧
      (Span.instantLimit ≤ b.machine.now + P.radioMaxWait.nanos →
        (RadioLink.waitWritable fd P.radioMaxWait).run.run b =
          (.error ⟨Span.overflowMessage, some RadioLink.deadlineSite⟩, b)) := by
  refine ⟨fun w => (P.validate_radioMaxWait w).trans hP, ?_, ?_⟩
  · intro c b data hw
    rw [← hw]
    exact ⟨fun h => ConsolePort.exec_send_in_range (.inr h), fun fd hfd h =>
      ConsolePort.exec_send_overflow hfd h⟩
  · intro fd b
    rw [RadioLink.run_waitWritable]
    exact ⟨fun h => if_pos h, fun h => if_neg (Nat.not_lt.2 h)⟩

/-- The standard configuration's console, up on the standard board whose clock reads zero and
with no send counted yet, sends without a panic. -/
theorem standard_send_within_clock_range :
    let b := Board.new PlatformParams.standard
    let c := { (Platform.build b PlatformParams.standard).console with fd := some Fd.three }
    PlatformParams.standard.validate = .ok () ∧ c.writeTimeout = PlatformParams.standard.radioMaxWait ∧
      b.machine.now + PlatformParams.standard.radioMaxWait.nanos < Span.instantLimit ∧
      ∃ r c' b', exec (ConsolePort.send [0x6F, 0x6B]) c b = (.ok (r, c'), b') := by
  intro b c
  have hw : c.writeTimeout = PlatformParams.standard.radioMaxWait := rfl
  have hnow : b.machine.now + PlatformParams.standard.radioMaxWait.nanos < Span.instantLimit := by
    decide
  have hcount : c.sendsDone ≠ 4294967295 := by decide
  exact ⟨PlatformParams.validate_standard, hw, hnow,
    (((deadline_panics_only_past_clock_range PlatformParams.validate_standard).2.1 c b _ hw).1 hnow).resolve_right
      fun h => hcount h.1⟩

/-- The configuration text whose radio wait is the longest a duration holds, `2^64 - 1` seconds,
reads and validates; the host's first turn on it brings the platform up and stops with the
overflow panic at the greeting, before anything reaches the console. -/
theorem greeting_deadline_overflows :
    let text := "\x7b\"radio_max_wait\":\x7b\"secs\":18446744073709551615,\"nanos\":0\x7d\x7d"
    let P := { PlatformParams.standard with radioMaxWait := Span.ofSecsNanos 18446744073709551615 0 }
    let t := ((Cli.Host.new ⟨none, some "config.json", .upTo .info, false⟩ P).turn 0).1
    (Cli.loadConfig (some "config.json") (.text text)).toOption = some P ∧
      t.fatal = some ⟨Span.overflowMessage, some ConsolePort.deadlineSite⟩ ∧ t.console = [] := by
  intro text P t
  dsimp only [text, P, t]
  decide +kernel

end ThreadPlatform
