import ThreadPlatform.Cli.Serve
import Std.Time.Zoned

/-!
# The host program

Reads its arguments, finds what the configuration path holds, and either ends
at once or serves: standard input feeds the console line by line, the
console's output goes to standard output and log records to standard error.
Everything it decides is in `Cli`; this layer only moves bytes and time.

This build has no sockets, so a radio link is refused as unsupported.
-/

namespace ThreadPlatform.Cli

/-- A build without sockets: every connection is refused as unsupported. -/
def Network.absent : Network where
  connect _ := .error (.invalidInput "operation not supported on this platform")
  resolve _ := .error (.invalidInput "operation not supported on this platform")

/-- What an operating system error says, by its number. -/
def osText (code : UInt32) : String :=
  match code.toNat with
  | 1 => "Operation not permitted"
  | 2 => "No such file or directory"
  | 5 => "Input/output error"
  | 13 => "Permission denied"
  | 20 => "Not a directory"
  | 21 => "Is a directory"
  | 36 => "File name too long"
  | 40 => "Too many levels of symbolic links"
  | n => s!"Unknown error {n}"

/-- The file state a failed read reports. -/
def stateOfError (e : IO.Error) : FileState :=
  let os (code : UInt32) : FileState :=
    match code.toNat with
    | 2 => .missing
    | 20 => .underFile
    | 21 => .directory
    | n => .unreadable (.os n (osText code))
  match e with
  | .noFileOrDirectory _ code _ => os code
  | .inappropriateType _ code _ => os code
  | .permissionDenied _ code _ => os code
  | .invalidArgument _ code _ => os code
  | .noSuchThing _ code _ => os code
  | .resourceExhausted _ code _ => os code
  | .otherError code _ => os code
  | .hardwareFault code _ => os code
  | _ => .unreadable (.invalidInput (toString e))

/-- What the program finds at `path`. -/
def fileState (path : String) : IO FileState := do
  try
    let bytes ← IO.FS.readBinFile path
    match String.fromUTF8? bytes with
    | some text => return .text text
    | none => return .bytes
  catch e => return stateOfError e

/-- The time of day as the log shows it, `HH:MM:SS.mmm`. -/
def clockNow : IO String := do
  let t ← Std.Time.PlainTime.now
  let ms := t.toMilliseconds.toInt.toNat
  return Shell.clockText ms

/-- Writes records to standard error. -/
def writeLog (filter : Host.LevelFilter) (color : Bool) (target : String)
    (records : List LogRecord) : IO Unit := do
  if records.any (filter.allows ·.level) then
    let err ← IO.getStderr
    err.putStr (logLines filter color (← clockNow) target records)
    err.flush

/-- Feeds standard input to the inbox line by line; a line loses its line end. -/
partial def readInput (inbox : IO.Ref (Array String)) (log : List LogRecord → IO Unit) : IO Unit := do
  let stdin ← IO.getStdin
  let line ← stdin.getLine
  if line.isEmpty then
    log [⟨.info, "console input closed"⟩]
  else
    let line := if line.endsWith "\n" then (line.dropEnd 1).toString else line
    let line := if line.endsWith "\r" then (line.dropEnd 1).toString else line
    inbox.modify (·.push line)
    readInput inbox log

/-- Serves until a fatal condition; the exit status then. -/
partial def serveLoop (inbox : IO.Ref (Array String)) (start : Nat) (log : List LogRecord → IO Unit)
    (h : Host) : IO UInt32 := do
  let lines ← inbox.modifyGet fun q => (q, #[])
  let h := lines.foldl Host.feed h
  let micros := ((← IO.monoNanosNow) - start) / 1000
  let (t, h) := h.turn micros
  unless t.console.isEmpty do
    let out ← IO.getStdout
    out.write ⟨t.console.toArray⟩
    out.flush
  log t.records
  match t.fatal with
  | some f =>
    if let some site := f.site then
      let err ← IO.getStderr
      err.putStr (panicReport site f.message)
      err.flush
    return 134
  | none =>
    if t.idle then IO.sleep 10
    serveLoop inbox start log h

/-- Serves a launched configuration. -/
def serve (o : Options) (params : PlatformParams) : IO UInt32 := do
  let env (name : String) := IO.getEnv name
  let color := colorWanted (← env "CLICOLOR_FORCE") (← env "NO_COLOR") (← env "CLICOLOR")
    (← (← IO.getStdout).isTty)
  let hostLog := writeLog o.logLevel color hostTarget
  if o.radio.isNone then
    hostLog [noRadioNote]
  let inbox ← IO.mkRef #[]
  let _ ← IO.asTask (readInput inbox hostLog) .dedicated
  serveLoop inbox (← IO.monoNanosNow) (writeLog o.logLevel color platformTarget) (Host.new o params)

end ThreadPlatform.Cli

open ThreadPlatform.Cli in
/-- Runs the host program. -/
def main (args : List String) : IO UInt32 := do
  let file ← match Request.ofArgs args with
    | .run o =>
      match o.config with
      | some path => fileState path
      | none => pure .missing
    | _ => pure .missing
  match Launch.plan args (fun _ => file) Network.absent with
  | .exit e =>
    let out ← IO.getStdout
    out.putStr e.stdout
    out.flush
    let err ← IO.getStderr
    err.putStr e.stderr
    err.flush
    return (e.status.getD 134).toUInt32
  | .serve o params => serve o params
