import ThreadPlatform.Platform.Mainloop
import ThreadPlatform.Console.Command
import ThreadPlatform.Json.Value

/-!
# The host shell

`Shell` is the line console the host runs in place of a protocol stack. Bytes
from the console UART are collected into a line, one character per byte (so a
byte is read as the code point of the same value); a carriage return or line
feed ends the line. A line that is blank once trimmed is ignored; any other is
run as a command and followed by the prompt. A line may hold at most 256 bytes
of its UTF-8 text: a byte arriving at a full line discards it, with an error.

Commands answer with their output and `Done`, or with `Error:` and the failure.
Every reply is one send on the console; a reply that cannot be sent is logged
and dropped.

Received radio frames raise the pending-tasklets flag through the receive
callback; running the tasklets prints each queued frame on a line of its own,
with the host's time of day, as text or as a JSON object.
-/

namespace ThreadPlatform

/-- The line being typed, whether frames wait to be printed, and how they are printed. -/
structure Shell where
  line : String
  framesReady : Bool
  json : Bool
  deriving DecidableEq, Repr

namespace Shell

open Console

/-- The prompt. -/
def prompt : String := "> "

/-- The most UTF-8 bytes a line may hold. -/
def maxLine : Nat := 256

/-- The most bytes of a setting that are shown. -/
def maxSetting : Nat := 256

/-- The text of `help`. -/
def helpText : String :=
  "help                          this text\n" ++
  "now                           platform time in microseconds\n" ++
  "alarm <ms>                    arm the millisecond alarm\n" ++
  "spinel <hex>                  send one Spinel frame to the RCP\n" ++
  "wait <ms>                     block until the RCP answers\n" ++
  "counters                      radio frame counters\n" ++
  "settings get|delete <key>     read or remove a setting\n" ++
  "settings set <key> <hex>      store a setting\n" ++
  "reset                         pseudo-reset the platform\n"

/-- Sends a reply on the console; one that cannot be sent is logged. -/
def reply (text : String) : PlatformM Unit := do
  match ← Platform.onConsole (ConsolePort.send text.toUTF8.toList) with
  | .ok () => pure ()
  | .error e => Board.log .warn s!"console write failed: {e.message}"

/-- A number with at least `width` digits. -/
def padded (width n : Nat) : String :=
  let digits := toString n
  String.ofList (List.replicate (width - digits.length) '0') ++ digits

/-- The time of day `ms` milliseconds after midnight, as `HH:MM:SS.mmm`. -/
def clockText (ms : Nat) : String :=
  let secs := ms / 1000
  s!"{padded 2 (secs / 3600 % 24)}:{padded 2 (secs / 60 % 60)}:{padded 2 (secs % 60)}.{padded 3 (ms % 1000)}"

/-- The line printed for a received frame. -/
def frameLine (json : Bool) (wallMillis : Nat) (frame : List UInt8) : String :=
  if json then
    Json.render (.obj [("frame", .str (Hex.encode frame)), ("len", .nat frame.length),
      ("time", .str s!"1970-01-01T{clockText wallMillis}+00:00")])
  else s!"[{clockText wallMillis}] spinel {Hex.encode frame}"

/-- Prints the queued frames, each on a line of its own. -/
def printFrames (json : Bool) : Nat → PlatformM Unit
  | 0 => pure ()
  | fuel + 1 => do
    match ← Platform.onRadio RadioLink.takeFrame with
    | none => pure ()
    | some frame =>
      reply (frameLine json (← getThe Board).wallMillis frame)
      reply "\n"
      printFrames json fuel

/-- Clears the flag and prints every queued frame. -/
def reportFrames (sh : Shell) : PlatformM Shell := do
  printFrames sh.json ((← get).radio.frames.length)
  return { sh with framesReady := false }

/-- A stack error under a context. -/
def failed (ctx : String) (e : ThreadError) : Failure := ⟨s!"{ctx}: {e.message}"⟩

/-- Runs a command: its output, or why it failed. -/
def run (sh : Shell) : Command → PlatformM (Except Failure String × Shell)
  | .help => return (.ok helpText, sh)
  | .now => return (.ok s!"{← Platform.timeMicros} us\n", sh)
  | .alarm ms => do
    Platform.alarmStart (← Platform.alarmNow) ms.toUInt32
    return (.ok "", sh)
  | .spinel frame => do
    match ← Platform.onRadio (RadioLink.sendFrame frame) with
    | .ok () => return (.ok "", sh)
    | .error e => return (.error (failed "send failed" e), sh)
  | .wait ms => do
    match ← Platform.onRadio (RadioLink.waitForFrame (Span.ofMillis ms)) with
    | .ok _ => return (.ok "", ← sh.reportFrames)
    | .error .responseTimeout => return (.error ⟨s!"no response within {ms} ms"⟩, sh)
    | .error e => return (.error (failed "wait failed" e), sh)
  | .counters => do
    let c := (← get).radio.counters
    return (.ok s!"tx {c.txFrames} rx {c.rxFrames} dropped {c.rxDropped}\n", sh)
  | .settingsGet key => do
    match (← getThe Board).settings.get key 0 maxSetting with
    | .ok (_, value) => return (.ok s!"{Hex.encode value}\n", sh)
    | .error e => return (.error (failed "get failed" e), sh)
  | .settingsSet key value => do
    match (← getThe Board).settings.set key value with
    | .ok s =>
      modifyThe Board fun b => { b with settings := s }
      return (.ok "", sh)
    | .error e => return (.error (failed "set failed" e), sh)
  | .settingsDelete key => do
    match (← getThe Board).settings.delete key none with
    | .ok s =>
      modifyThe Board fun b => { b with settings := s }
      return (.ok "", sh)
    | .error e => return (.error (failed "delete failed" e), sh)
  | .reset => do
    Platform.reset
    return (.ok "", sh)

/-- Runs a line and replies with its outcome. -/
def execute (sh : Shell) (line : String) : PlatformM Shell := do
  let (outcome, sh) ← match Command.parse line with
    | .ok c => sh.run c
    | .error f => pure (.error f, sh)
  match outcome with
  | .ok out =>
    reply out
    reply "Done\n"
  | .error f => reply s!"Error: {f.message}\n"
  return sh

/-- Takes one byte from the console. -/
def takeByte (sh : Shell) (b : UInt8) : PlatformM Shell := do
  if b = 13 || b = 10 then
    let line := trim sh.line
    let sh := { sh with line := "" }
    if line.isEmpty then return sh
    let sh ← sh.execute line
    reply prompt
    return sh
  else if maxLine ≤ sh.line.utf8ByteSize then
    reply "Error: line too long\n"
    return { sh with line := "" }
  else return { sh with line := sh.line.push (Char.ofNat b.toNat) }

/-- A shell on a platform that has just come up: it greets and prompts. -/
def start (json : Bool) : PlatformM Shell := do
  reply "ot-host ready, type 'help'\n"
  reply prompt
  return ⟨"", false, json⟩

instance : Stack Shell where
  taskletsPending sh := sh.framesReady
  processTasklets sh := if sh.framesReady then sh.reportFrames else return sh
  diagMode _ := false
  alarmFired sh := do
    reply s!"alarm fired at {← Platform.alarmNow} ms\n"
    return sh
  diagAlarmFired sh := return sh
  uartReceived sh data := data.foldlM takeByte sh
  uartSendDone sh := return sh
  finalize sh := do
    Board.log .info "shell going down for reset"
    return sh
  framesReceived sh n := return if n = 0 then sh else { sh with framesReady := true }

end Shell

end ThreadPlatform
