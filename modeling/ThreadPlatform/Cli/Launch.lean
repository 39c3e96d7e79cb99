import ThreadPlatform.Cli.Options
import ThreadPlatform.Config.Read

/-!
# Launching the host program

Before the mainloop starts the program reads its configuration and, when asked,
connects the radio link. Each step can end the run with a status of 1 and a
report on standard error: the step that failed and, when the failure has a
cause below it, that cause after a blank line and `Caused by:`.

The configuration comes from the file that `--config` names, or is the default
one; a read one must parse and every configuration must pass
`PlatformParams.validate`. The board is then built; a swap region too large for
its counter aborts the process there. The radio link is set up after the configuration:
the address is read first, and only an address that reads reaches the network.
What the file system and the network answer is given by the caller, so every
step here is a plain function of it.
-/

namespace ThreadPlatform.Cli

/-- Why a file system or network call failed, as the system says it. -/
inductive SystemError where
  | os (code : Nat) (text : String)
  | invalidInput (text : String)
  | lookup (text : String)
  deriving DecidableEq, Repr

namespace SystemError

/-- No entry of that name. -/
def noEntry : SystemError := .os 2 "No such file or directory"

/-- A directory where a file was wanted. -/
def isDirectory : SystemError := .os 21 "Is a directory"

/-- A file where a directory was wanted. -/
def notDirectory : SystemError := .os 20 "Not a directory"

/-- No route to any network. -/
def unreachable : SystemError := .os 101 "Network is unreachable"

/-- The failure as it is shown. -/
def render : SystemError → String
  | .os code text => s!"{text} (os error {code})"
  | .invalidInput text => text
  | .lookup text => s!"failed to lookup address information: {text}"

end SystemError

/-- What the program finds at a path it reads. -/
inductive FileState where
  | missing
  | directory
  | underFile
  | text (content : String)
  | bytes
  | unreadable (cause : SystemError)
  deriving DecidableEq, Repr

/-- The text of a file, or why it cannot be read as text. -/
def FileState.read : FileState → Except SystemError String
  | .missing => .error .noEntry
  | .directory => .error .isDirectory
  | .underFile => .error .notDirectory
  | .text content => .ok content
  | .bytes => .error (.invalidInput "stream did not contain valid UTF-8")
  | .unreadable cause => .error cause

/-- Why the program could not start. -/
inductive LaunchError where
  | reading (path : String) (cause : SystemError)
  | parsing (path : String) (fault : Config.Fault)
  | invalid (e : ConfigError)
  | connecting (addr : String) (cause : SystemError)
  deriving DecidableEq, Repr

namespace LaunchError

/-- The step that failed and the cause below it, if any. -/
def parts : LaunchError → String × Option String
  | .reading path cause => (s!"reading {path}", some cause.render)
  | .parsing path fault => (s!"parsing {path}", some fault.render)
  | .invalid e => (e.message, none)
  | .connecting addr cause => (s!"connecting to RCP at {addr}", some cause.render)

/-- The report on standard error. -/
def render (e : LaunchError) : String :=
  match e.parts with
  | (step, some cause) => s!"Error: {step}\n\nCaused by:\n    {cause}\n"
  | (step, none) => s!"Error: {step}\n"

/-- How the run ends. -/
def exit (e : LaunchError) : Exit := ⟨some 1, "", e.render⟩

end LaunchError

/-- The configuration of a run: the file's, or the default one, validated. -/
def loadConfig (path : Option String) (file : FileState) : Except LaunchError PlatformParams := do
  let params ← match path with
    | none => pure PlatformParams.standard
    | some path =>
      let text ← file.read.mapError (.reading path)
      (Config.Text.readPlatform text).mapError (.parsing path)
  params.validate.mapError .invalid
  return params

/-- The family of an internet address. -/
inductive Family where
  | v4
  | v6
  deriving DecidableEq, Repr

/-- The value of a digit in base `base`. -/
def digitIn (base : Nat) (c : Char) : Option Nat :=
  let v := if c.isDigit then some (c.toNat - '0'.toNat)
    else if 'a' ≤ c && c ≤ 'z' then some (c.toNat - 'a'.toNat + 10)
    else if 'A' ≤ c && c ≤ 'Z' then some (c.toNat - 'A'.toNat + 10)
    else none
  v.filter (· < base)

/-- The value of digits in base `base`. -/
def digitsValue (base : Nat) (cs : List Char) : Nat :=
  cs.foldl (fun n c => base * n + (digitIn base c).getD 0) 0

/-- Reads a number at the front of `cs`: every digit of base `base` there, at
least one and at most `most` when a most is given, its value below `bound`, and
with no leading zero unless `zeroPrefix` allows it. -/
def readNumber (base : Nat) (most : Option Nat) (bound : Nat) (zeroPrefix : Bool)
    (cs : List Char) : Option (Nat × List Char) :=
  let ds := cs.takeWhile fun c => (digitIn base c).isSome
  let v := digitsValue base ds
  if ds.isEmpty || most.any (· < ds.length) || bound ≤ v ||
      (!zeroPrefix && ds.head? == some '0' && 1 < ds.length) then none
  else some (v, cs.drop ds.length)

/-- Reads a dotted IPv4 address at the front of `cs`: four decimal parts below
256, without leading zeros. -/
def readIpv4 (cs : List Char) : Option (List Char) := do
  let (_, cs) ← readNumber 10 (some 3) 256 false cs
  let cs ← match cs with | '.' :: rest => some rest | _ => none
  let (_, cs) ← readNumber 10 (some 3) 256 false cs
  let cs ← match cs with | '.' :: rest => some rest | _ => none
  let (_, cs) ← readNumber 10 (some 3) 256 false cs
  let cs ← match cs with | '.' :: rest => some rest | _ => none
  let (_, cs) ← readNumber 10 (some 3) 256 false cs
  return cs

/-- Reads up to `left` groups of an IPv6 address at the front of `cs`, `i`
read before, each after a colon but the first: one to four hexadecimal digits,
or a dotted IPv4 address taking two groups where two are left. The count read,
whether the last was an IPv4 address, and what follows. -/
def readGroups : Nat → Nat → List Char → Nat × Bool × List Char
  | 0, i, cs => (i, false, cs)
  | left + 1, i, cs =>
    let after := if i = 0 then some cs else match cs with
      | ':' :: rest => some rest
      | _ => none
    match after with
    | none => (i, false, cs)
    | some after =>
      match (if 0 < left then readIpv4 after else none) with
      | some rest => (i + 2, true, rest)
      | none =>
        match readNumber 16 (some 4) 65536 true after with
        | some (_, rest) => readGroups left (i + 1) rest
        | none => (i, false, cs)

/-- Reads an IPv6 address at the front of `cs`: eight groups, or fewer with
one `::` standing for at least one group of zeros, an IPv4 address only at the
end. -/
def readIpv6 (cs : List Char) : Option (List Char) :=
  let (head, v4, rest) := readGroups 8 0 cs
  if head = 8 then some rest
  else if v4 then none
  else
    match rest with
    | ':' :: ':' :: rest => some (readGroups (7 - head) 0 rest).2.2
    | _ => none

/-- Whether a whole text is read by `reader`. -/
def readsWhole (reader : List Char → Option (List Char)) (s : String) : Bool :=
  reader s.toList == some []

/-- Reads a port after its colon: decimal digits below `65536`. -/
def readPort (cs : List Char) : Option (List Char) :=
  match cs with
  | ':' :: rest => (readNumber 10 none 65536 true rest).map (·.2)
  | _ => none

/-- Reads a bracketed IPv6 socket address: the address, a decimal scope after
`%` if one is given, and the port. -/
def readSocketV6 (cs : List Char) : Option (List Char) := do
  let cs ← match cs with | '[' :: rest => some rest | _ => none
  let cs ← readIpv6 cs
  let cs := match cs with
    | '%' :: rest => ((readNumber 10 none (Nat.pow 2 32) true rest).map (·.2)).getD cs
    | _ => cs
  let cs ← match cs with | ']' :: rest => some rest | _ => none
  readPort cs

/-- The family of a socket address written as one, if it is. -/
def socketFamily (s : String) : Option Family :=
  if readsWhole (fun cs => readIpv4 cs >>= readPort) s then some .v4
  else if readsWhole readSocketV6 s then some .v6
  else none

/-- A port as a host name and port pair gives it: decimal digits, a `+` in
front allowed, below `65536`. -/
def isPort (s : String) : Bool :=
  let ds := match s.toList with
    | '+' :: rest => rest
    | cs => cs
  !ds.isEmpty && ds.all Char.isDigit && digitsValue 10 ds < 65536

/-- The value of a part of a numeric host address: hexadecimal after `0x`,
octal after a leading `0`, else decimal. -/
def hostPartValue (p : String) : Option Nat :=
  match p.toList with
  | '0' :: x :: ds =>
    if x == 'x' || x == 'X' then
      if !ds.isEmpty && ds.all (fun c => (digitIn 16 c).isSome) then some (digitsValue 16 ds)
      else none
    else
      let ds := x :: ds
      if ds.all (fun c => (digitIn 8 c).isSome) then some (digitsValue 8 ds) else none
  | ds => if !ds.isEmpty && ds.all Char.isDigit then some (digitsValue 10 ds) else none

/-- Whether a host name is a numeric IPv4 address in any of the classic forms:
one to four parts, every part but the last one byte, the last filling the
bytes that are left. -/
def isNumericV4 (host : String) : Bool :=
  let parts := host.splitOn "."
  match parts.mapM hostPartValue with
  | none => false
  | some vs =>
    vs.length ≤ 4 && vs.dropLast.all (· < 256) &&
      vs.getLast?.any (· < Nat.pow 2 (8 * (5 - vs.length)))

/-- The address a host name stands for without a lookup: a numeric IPv4
address, or an IPv6 address with a decimal scope if it has one. A scope of
any other form, like an empty host, names nothing and is refused. -/
def numericHost (host : String) : Option (Except SystemError Family) :=
  if host.isEmpty then some (.error (.lookup "Name or service not known"))
  else if isNumericV4 host then some (.ok .v4)
  else
    match host.splitOn "%" with
    | [body] => if readsWhole readIpv6 body then some (.ok .v6) else none
    | body :: scope =>
      if !readsWhole readIpv6 body then none
      else if readsWhole (fun cs => (readNumber 10 none (Nat.pow 2 32) true cs).map (·.2))
          ("%".intercalate scope) then some (.ok .v6)
      else some (.error (.lookup "Name or service not known"))
    | [] => none

/-- Where a radio address points. -/
inductive Endpoint where
  | address (family : Family)
  | host (name : String)
  deriving DecidableEq, Repr

/-- Where an address points: a socket address as it stands, else a host and a
port split at the last colon; the host may be an address itself. Addresses of
neither form are refused. -/
def Endpoint.ofAddress (addr : String) : Except SystemError Endpoint :=
  match socketFamily addr with
  | some f => .ok (.address f)
  | none =>
    let parts := addr.splitOn ":"
    let port := parts.getLastD ""
    let host := ":".intercalate parts.dropLast
    if parts.length < 2 then .error (.invalidInput "invalid socket address")
    else if !isPort port then .error (.invalidInput "invalid port value")
    else
      match numericHost host with
      | some (.ok f) => .ok (.address f)
      | some (.error e) => .error e
      | none => .ok (.host host)

/-- What the network answers: to a connection to an address of a family, and
to a host name, which it resolves to addresses or refuses. -/
structure Network where
  connect : Family → Except SystemError Unit
  resolve : String → Except SystemError (List Family)

/-- A host whose network is down: IPv4 connections find no route, IPv6 ones
no local address to leave from, and only `localhost` is known by name. -/
def Network.down : Network where
  connect
    | .v4 => .error .unreachable
    | .v6 => .error (.os 99 "Cannot assign requested address")
  resolve name :=
    if name = "localhost" then .ok [.v4]
    else .error (.lookup "Temporary failure in name resolution")

/-- Connects to each address in turn until one answers; the last failure if
none does. -/
def connectAny (net : Network) : List Family → Except SystemError Unit
  | [] => .error (.invalidInput "could not resolve to any addresses")
  | [f] => net.connect f
  | f :: rest =>
    match net.connect f with
    | .ok () => .ok ()
    | .error _ => connectAny net rest

/-- Connects the radio link to `addr`. -/
def connectRadio (net : Network) (addr : String) : Except LaunchError Unit :=
  (do
    match ← Endpoint.ofAddress addr with
    | .address f => net.connect f
    | .host name => connectAny net (← net.resolve name)).mapError (.connecting addr)

/-- What the runtime writes to standard error when the main thread panics at `site` with
`message`; the process then aborts. -/
def panicReport (site message : String) : String :=
  "\nthread 'main' (3) panicked at " ++ site ++ ":\n" ++ message ++ "\n" ++
    "note: run with `RUST_BACKTRACE=1` environment variable to display a backtrace\n"

/-- How the run ends when the board is built for a configuration whose swap
region overflows its counter: the process aborts with the panic report. -/
def overflowAbort : Exit :=
  ⟨none, "", panicReport "ot/platform/src/config.rs:104:9" multiplyOverflow⟩

/-- How a run starts: it ends at once, or serves with its options and
configuration. -/
inductive Launch where
  | exit (e : Exit)
  | serve (o : Options) (params : PlatformParams)

/-- How a run with arguments `args` starts, given what the configuration path
holds and what the network answers. -/
def Launch.plan (args : List String) (file : String → FileState) (net : Network) : Launch :=
  match Request.ofArgs args with
  | .run o =>
    -- the board is built between the configuration and the radio link
    let started : Except Exit PlatformParams := do
      let params ← (loadConfig o.config (file (o.config.getD ""))).mapError LaunchError.exit
      if params.flash.swapOverflows then throw overflowAbort
      if let some addr := o.radio then (connectRadio net addr).mapError LaunchError.exit
      return params
    match started with
    | .ok params => .serve o params
    | .error e => .exit e
  | req => .exit ((req.exit?).getD ⟨some 0, "", ""⟩)

end ThreadPlatform.Cli
