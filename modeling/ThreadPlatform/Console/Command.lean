import ThreadPlatform.Console.Text
import ThreadPlatform.Hex

/-!
# Console commands

A command line is split into words; the first names the command and the rest
are its arguments. Numbers are unsigned decimals of the width the command
needs (32 bits for milliseconds, 16 for keys); frame and setting bytes are the
remaining words joined and read as hexadecimal.

A `Failure` is the message the console shows: the context a step adds comes
first, followed by `: ` and the failure it wraps.
-/

namespace ThreadPlatform.Console

/-- A failure as the console shows it. -/
structure Failure where
  message : String
  deriving DecidableEq, Repr

/-- The failure with a context in front. -/
def Failure.context (ctx : String) (f : Failure) : Failure := ⟨ctx ++ ": " ++ f.message⟩

/-- A console command. -/
inductive Command where
  | help
  | now
  | alarm (ms : Nat)
  | spinel (frame : List UInt8)
  | wait (ms : Nat)
  | counters
  | settingsGet (key : Nat)
  | settingsSet (key : Nat) (value : List UInt8)
  | settingsDelete (key : Nat)
  | reset
  deriving DecidableEq, Repr

/-- Bytes written as hexadecimal with blanks anywhere. -/
def parseHex (text : String) : Except Failure (List UInt8) :=
  (Hex.decode text).mapError fun e => ⟨e.message⟩

/-- The number in `word`, described as `what` in failures. -/
def number (word : Option String) (what : String) (max : Nat) : Except Failure Nat :=
  match word with
  | none => .error ⟨s!"missing {what}"⟩
  | some w =>
    (parseNumber w max).mapError fun e => Failure.context s!"invalid {what} '{w}'" ⟨e.message⟩

/-- The largest 32-bit and 16-bit values. -/
def max32 : Nat := 4294967295
def max16 : Nat := 65535

/-- The command a line names. -/
def Command.parse (line : String) : Except Failure Command := do
  match words line with
  | [] => throw ⟨"empty command"⟩
  | name :: rest =>
    match name with
    | "help" => return .help
    | "now" => return .now
    | "alarm" => return .alarm (← number rest.head? "milliseconds" max32)
    | "spinel" =>
      let frame ← parseHex (String.join rest)
      if frame.isEmpty then throw ⟨"missing frame bytes"⟩
      return .spinel frame
    | "wait" => return .wait (← number rest.head? "milliseconds" max32)
    | "counters" => return .counters
    | "settings" =>
      match rest with
      | "get" :: args => return .settingsGet (← number args.head? "key" max16)
      | "delete" :: args => return .settingsDelete (← number args.head? "key" max16)
      | "set" :: args =>
        let key ← number args.head? "key" max16
        return .settingsSet key (← parseHex (String.join args.tail))
      | _ => throw ⟨"usage: settings get|set|delete <key> [hex]"⟩
    | "reset" => return .reset
    | other => throw ⟨s!"unknown command '{other}'"⟩

end ThreadPlatform.Console
