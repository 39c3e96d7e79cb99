import ThreadPlatform.Cli.Similarity
import ThreadPlatform.Host.Logger

/-!
# Command-line options

The host program takes four options: `--radio <ADDR>`, `--config <FILE>`,
`--log-level <LEVEL>` (default `info`) and the flag `--json`, plus `-h`/`--help`
and `-V`/`--version`. Arguments are read from left to right, and the first
that cannot be taken decides the outcome:

* help and version are answered as soon as they are met;
* a long option takes its value after `=` or as the next argument, unless that
  argument looks like an option itself or comes after a bare `--`, after which
  every argument is a word the program does not take;
* an option given twice, an unknown option (with the most similar known one as
  a hint) or any other word is a usage error, as is a value that does not fit.

An option whose value is the next argument is settled only when the next
known option is met or the arguments end, so an unknown argument after it is
reported before anything wrong with it.

The usage line of an unknown long option lists the options given so far and
the suggested one; with none to list it sums them up as `[OPTIONS]`. That of a
value given to a flag lists the options given and the flag, the program's own
options written as their group `<--radio <ADDR>|...|--json>`.

A usage error ends the program with status 2 and its message on standard
error; help and version are written to standard output.
-/

namespace ThreadPlatform.Cli

/-- The options of a run. -/
structure Options where
  radio : Option String
  config : Option String
  logLevel : Host.LevelFilter
  json : Bool

/-- How a run of the program ends: its exit status, none when the runtime aborts it, and what it
wrote. -/
structure Exit where
  status : Option Nat
  stdout : String
  stderr : String
  deriving DecidableEq, Repr

/-- Why the arguments cannot be taken. An unknown argument and a value given
to a flag carry the options their usage line shows; the latter also whether
the program's own options are summed up there as one group. -/
inductive UsageError where
  | unexpectedArgument (arg : String) (similar : Option String) (shown : List String)
  | missingValue (spec : String)
  | repeated (spec : String)
  | invalidValue (value spec reason : String)
  | unexpectedValue (value spec : String) (shown : List String) (grouped : Bool)
  deriving DecidableEq, Repr

/-- The program's name. -/
def programName : String := "ot-host"

/-- The release of the program. -/
def release : String := "0.1.0"

/-- How an option is written in messages. -/
def spec : String → String
  | "radio" => "--radio <ADDR>"
  | "config" => "--config <FILE>"
  | "log-level" => "--log-level <LEVEL>"
  | name => "--" ++ name

/-- The program's own options, as opposed to help and version. -/
def ownNames : List String := ["radio", "config", "log-level", "json"]

/-- The program's own options summed up as one group. -/
def groupSpec : String := "<" ++ "|".intercalate (ownNames.map spec) ++ ">"

/-- The usage line: the options shown, in order, or all of them summed up when
none is shown. When `grouped`, the program's own options among them give way
to their group, written after the others. -/
def usageLine (shown : List String) (grouped : Bool) : String :=
  let parts :=
    if grouped then (shown.filter (!ownNames.contains ·)).map spec ++ [groupSpec]
    else shown.map spec
  match parts with
  | [] => s!"Usage: {programName} [OPTIONS]"
  | _ => s!"Usage: {programName} " ++ " ".intercalate parts

/-- The help text. -/
def helpText : String :=
  "Runs the OpenThread ESP32 platform mainloop on a host\n\n" ++ usageLine [] false ++ "\n\n" ++
  "Options:\n" ++
  "      --radio <ADDR>       RCP link, e.g. a socat bridge to the radio's serial port\n" ++
  "      --config <FILE>      Platform configuration as JSON; missing fields keep their defaults\n" ++
  "      --log-level <LEVEL>  [default: info]\n" ++
  "      --json               Print received frames as JSON objects\n" ++
  "  -h, --help               Print help\n" ++
  "  -V, --version            Print version\n"

/-- The closing line of every usage error. -/
def moreInformation : String := "For more information, try '--help'.\n"

namespace UsageError

/-- The message of the error as the program writes it. -/
def render : UsageError → String
  | .unexpectedArgument arg similar shown =>
    let tip := match similar with
      | some s => s!"\n\n  tip: a similar argument exists: '{s}'"
      | none => ""
    s!"error: unexpected argument '{arg}' found{tip}\n\n{usageLine shown false}\n\n" ++ moreInformation
  | .missingValue spec =>
    s!"error: a value is required for '{spec}' but none was supplied\n\n" ++ moreInformation
  | .repeated spec =>
    s!"error: the argument '{spec}' cannot be used multiple times\n\n{usageLine [] false}\n\n" ++
      moreInformation
  | .invalidValue value spec reason =>
    s!"error: invalid value '{value}' for '{spec}': {reason}\n\n" ++ moreInformation
  | .unexpectedValue value spec shown grouped =>
    s!"error: unexpected value '{value}' for '{spec}' found; no more were expected\n\n" ++
      s!"{usageLine shown grouped}\n\n" ++ moreInformation

end UsageError

/-- What the arguments ask for. -/
inductive Request where
  | help
  | version
  | run (o : Options)
  | refuse (e : UsageError)

/-- How the request ends when it does not run: help, version or a usage error. -/
def Request.exit? : Request → Option Exit
  | .help => some ⟨some 0, helpText, ""⟩
  | .version => some ⟨some 0, s!"{programName} {release}\n", ""⟩
  | .refuse e => some ⟨some 2, "", e.render⟩
  | .run _ => none

/-- The long options, in the order they are declared. -/
def longNames : List String := ["radio", "config", "log-level", "json", "help", "version"]

/-- Whether an argument looks like an option rather than a value. -/
def looksLikeOption (arg : String) : Bool := arg.startsWith "-" && arg != "-"

/-- An option met without a value after `=`: its name and the argument taken
as its value, once read. -/
structure Pending where
  name : String
  value : Option String

/-- Options read so far; the options given, in the order they were first
given; the option still waiting to be settled; and whether a bare `--` has
ended the options. -/
structure Reading where
  options : Options
  given : List String
  pending : Option Pending
  trailing : Bool

namespace Reading

/-- Counts option `name` as given; one given before keeps its place. -/
def mark (r : Reading) (name : String) : Reading :=
  if r.given.contains name then r else { r with given := r.given ++ [name] }

/-- Takes option `name` with its value, if one was given: an option needs a
value, may be given once, and its value must fit. The reading after the
attempt comes with what went wrong: an option without a value is not counted
as given, one given twice is no longer counted, and one whose value does not
fit still is. -/
def take (r : Reading) (name : String) : Option String → Reading × Option UsageError
  | none => (r, some (.missingValue (spec name)))
  | some value =>
    if r.given.contains name then
      ({ r with given := r.given.erase name }, some (.repeated (spec name)))
    else
      let r := r.mark name
      match name with
      | "radio" => ({ r with options := { r.options with radio := some value } }, none)
      | "config" =>
        if value.isEmpty then (r, some (.missingValue (spec name)))
        else ({ r with options := { r.options with config := some value } }, none)
      | _ =>
        match Host.LevelFilter.ofName? value with
        | some f => ({ r with options := { r.options with logLevel := f } }, none)
        | none => (r, some (.invalidValue value (spec name)
            "attempted to convert a string that doesn't match an existing log level"))

/-- Settles the waiting option. This happens when the next known option is
met or the arguments end; an argument that cannot be taken is reported before
it, and what was wrong with the waiting option is then never seen. -/
def settle (r : Reading) : Reading × Option UsageError :=
  match r.pending with
  | none => (r, none)
  | some p => { r with pending := none }.take p.name p.value

/-- Settles the waiting option, ending the reading if it cannot be taken. -/
def settled (r : Reading) : Except Request Reading :=
  match r.settle with
  | (r, none) => .ok r
  | (_, some e) => .error (.refuse e)

end Reading

/-- The name and the value after = of a long option. -/
def splitLong (body : String) : String × Option String :=
  match body.splitOn "=" with
  | [name] => (name, none)
  | name :: rest => (name, some ("=".intercalate rest))
  | [] => (body, none)

/-- Whether a long option is a flag, which takes no value. -/
def isFlag (name : String) : Bool := name == "help" || name == "version" || name == "json"

namespace Reading

/-- Meets flag `name`, after settling the waiting option. -/
def flag (r : Reading) (name : String) : Except Request Reading := do
  let r ← r.settled
  if name == "help" then .error .help
  else if name == "version" then .error .version
  else if r.given.contains name then .error (.refuse (.repeated (spec name)))
  else .ok { r.mark name with options := { r.options with json := true } }

/-- Meets an unknown long option. Its usage line shows the options given,
the waiting one settled, and the suggested one. -/
def unknown (r : Reading) (name : String) : Request :=
  let r := r.settle.1
  match mostSimilar name longNames with
  | some s => .refuse (.unexpectedArgument s!"--{name}" (some s!"--{s}") (r.mark s).given)
  | none => .refuse (.unexpectedArgument s!"--{name}" none r.given)

/-- Meets long option `name`, with the value after = if there is one. A value
given to a flag is refused before the waiting option is settled; its usage
line sums the program's own options up as a group once one of them is given. -/
def long (r : Reading) (name : String) (inline : Option String) : Except Request Reading :=
  if !longNames.contains name then .error (r.unknown name)
  else if isFlag name then
    match inline with
    | some v =>
      .error (.refuse (.unexpectedValue v (spec name) (r.mark name).given !r.given.isEmpty))
    | none => r.flag name
  else do
    let r ← r.settled
    match inline with
    | some v =>
      match r.take name (some v) with
      | (r, none) => .ok r
      | (_, some e) => .error (.refuse e)
    | none => .ok { r with pending := some ⟨name, none⟩ }

/-- Meets a cluster of short flags; only the first can be taken, as both short
flags end the reading. -/
def short (r : Reading) : List Char → Except Request Reading
  | [] => .ok r
  | 'h' :: _ => r.flag "help"
  | 'V' :: _ => r.flag "version"
  | c :: _ => .error (.refuse (.unexpectedArgument s!"-{c}" none []))

/-- Meets a word that is no option: the value of the option waiting for one,
unless a bare `--` came between, else an argument the program does not take. -/
def word (r : Reading) (arg : String) : Except Request Reading :=
  match r.pending, r.trailing with
  | some ⟨name, none⟩, false => .ok { r with pending := some ⟨name, some arg⟩ }
  | _, _ => .error (.refuse (.unexpectedArgument arg none []))

/-- Meets one argument. -/
def next (r : Reading) (arg : String) : Except Request Reading :=
  if r.trailing then r.word arg
  else if arg == "--" then .ok { r with trailing := true }
  else if arg.startsWith "--" then
    let (name, inline) := splitLong (arg.drop 2).toString
    r.long name inline
  else if looksLikeOption arg then r.short (arg.drop 1).toString.toList
  else r.word arg

end Reading

/-- Reads the arguments from left to right. -/
def readArgs (r : Reading) : List String → Request
  | [] =>
    match r.settle with
    | (r, none) => .run r.options
    | (_, some e) => .refuse e
  | arg :: rest =>
    match r.next arg with
    | .ok r => readArgs r rest
    | .error req => req

/-- What the arguments ask for. -/
def Request.ofArgs (args : List String) : Request :=
  readArgs ⟨⟨none, none, .upTo .info, false⟩, [], none, false⟩ args

end ThreadPlatform.Cli
