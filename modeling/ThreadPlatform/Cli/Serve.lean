import ThreadPlatform.Cli.Launch
import ThreadPlatform.Platform.Runner
import ThreadPlatform.Host.Shell
import ThreadPlatform.Host.Logger

/-!
# Serving

Once launched, the host program runs the mainloop of a board with the shell
as its stack, in turns. Before a turn the outside hands over the console lines
that arrived and the time since start; after it, the outside writes the
console's output to standard output and the records that pass the log level to
standard error. While a turn runs, readers on the other end of the console
take its output every millisecond, so a long reply never waits on a full
FIFO. Bytes for the radio have no link to go to and are dropped, as a sink
would read them. A fatal condition ends the run.

A turn in which the mainloop found nothing to do is idle; the outside then
lets real time pass before the next one.
-/

namespace ThreadPlatform.Cli

/-- The program while it serves: the board and the runner on it, and whether
frames are shown as JSON. -/
structure Host where
  board : Board
  runner : Runner Shell
  json : Bool

/-- What a turn leaves for the outside. -/
structure Turn where
  console : List UInt8
  records : List LogRecord
  fatal : Option Fatal
  idle : Bool

namespace Host

/-- A fresh host for a configuration. -/
def new (o : Options) (params : PlatformParams) : Host :=
  ⟨Board.new params, Runner.new params, o.json⟩

/-- Hands a console line to the board, with its line feed; what the receive
ring cannot hold is lost, as on the wire. -/
def feed (h : Host) (line : String) : Host :=
  let b := h.board
  let (_, m) := (Machine.receive b.cli (line ++ "\n").toUTF8.toList).run b.machine
  { h with board := { b with machine := m } }

/-- The record the sink writes for dropped radio bytes. -/
def dropNote (b : Board) (count : Nat) : List LogRecord :=
  if count = 0 then []
  else
    let port := match b.machine.devices[b.radio]? with
      | some (.uart u) => u.port
      | _ => 0
    [⟨.debug, s!"discarded {count} bytes for UART{port}"⟩]

/-- Readers of the console's output during a turn, one each millisecond, as
the other end of the line reads it while the mainloop writes. -/
def readers : Nat := 64

/-- The bytes the readers took, in the order they took them. -/
def taken (results : List WireResult) : List UInt8 :=
  results.flatMap fun
    | .data bytes => bytes
    | _ => []

/-- One runner step at `micros` since start. -/
def turn (h : Host) (micros : Nat) : Turn × Host :=
  let b := { h.board with clock := ⟨micros.toUInt64⟩ }
  let spawnReaders : MachineM Unit :=
    (List.range readers).forM fun i => Machine.spawn b.cli .takeTx (i + 1)
  let (_, m) := spawnReaders.run b.machine
  let b := { b with machine := m }
  let before := b.machine.now
  let ((outcome, b)) := ((Runner.step (fun _ => Shell.start h.json)).run h.runner).run.run b
  let idle := before < b.machine.now
  let collect : MachineM (List UInt8 × List UInt8 × List LogRecord) := do
    let read ← Machine.join
    let rest ← Machine.takeTx b.cli
    let radio ← Machine.takeTx b.radio
    return (taken read ++ rest, radio, ← Machine.takeJournal)
  let ((console, radio, records), m) := collect.run b.machine
  let b := { b with machine := m }
  let records := records ++ dropNote b radio.length
  match outcome with
  | .ok (_, r) => (⟨console, records, none, idle⟩, { h with board := b, runner := r })
  | .error f => (⟨console, records, some f, idle⟩, { h with board := b })

end Host

/-- Whether log records are coloured: forced by a set `CLICOLOR_FORCE` other
than `0`, else off when `NO_COLOR` is set, else on when `CLICOLOR` is not `0`
and standard output is a terminal. -/
def colorWanted (clicolorForce noColor clicolor : Option String) (stdoutTty : Bool) : Bool :=
  if clicolorForce.any (· != "0") then true
  else if noColor.isSome then false
  else clicolor != some "0" && stdoutTty

/-- The target named in the platform's records. -/
def platformTarget : String := "OT_ESP32_PLAT"

/-- The target named in the host's own records. -/
def hostTarget : String := "ot_host"

/-- The host's note, before it serves, that it has no link to the radio. -/
def noRadioNote : LogRecord := ⟨.warn, "no --radio given, frames sent to the RCP are discarded"⟩

/-- The lines written to standard error for records, at time of day `clock`. -/
def logLines (filter : Host.LevelFilter) (color : Bool) (clock target : String)
    (records : List LogRecord) : String :=
  String.join (records.filter (filter.allows ·.level) |>.map fun r =>
    Host.formatRecord color clock r.level target r.text)

end ThreadPlatform.Cli
