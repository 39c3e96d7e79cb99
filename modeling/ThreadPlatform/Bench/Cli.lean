import ThreadPlatform.Bench.Request
import ThreadPlatform.Cli.Serve

/-!
# Bench: the host program

A run of the host program in an empty working directory that holds at most
one entry, `config.json`: a file with the request's text, or an empty
directory. The network is down, and standard input stays open and silent. A
run that starts serving then ends only if its first turn, which brings the
platform up and greets on the console, stops it; otherwise it never ends, and
its answer says so.
-/

namespace ThreadPlatform.Bench

namespace CliBench

/-- What `config.json` is in the working directory. -/
inductive Entry where
  | none
  | file (text : String)
  | directory

/-- Where a walk along a path stands. -/
inductive Place where
  | work
  | config
  | outside
  | nowhere
  | pastFile
  | tooLong

/-- The longest name a directory holds, in bytes. -/
def nameMax : Nat := 255

/-- The length from which a whole path is refused, in bytes. -/
def pathMax : Nat := 4096

/-- One component further along a path. An empty component or `.` stays in a
directory, `..` leaves it, and anything after a file is refused. A name too
long for a directory is refused when the directory is searched for it. -/
def Place.enter (entry : Entry) (here : Place) (name : String) : Place :=
  let stays := name = "" || name = "."
  let lookup (found : Place) : Place := if nameMax < name.utf8ByteSize then .tooLong else found
  match here with
  | .nowhere => .nowhere
  | .pastFile => .pastFile
  | .tooLong => .tooLong
  | .config =>
    match entry with
    | .directory => if stays then .config else if name = ".." then .work else lookup .nowhere
    | _ => .pastFile
  | .work =>
    if stays then .work
    else if name = ".." then .outside
    else if name = "config.json" then
      match entry with
      | .none => .nowhere
      | _ => .config
    else lookup .nowhere
  | .outside => if stays || name = ".." then .outside else lookup .nowhere

/-- What the program finds at `path`. A path from the root reaches only the
root and the directories above the working one, as nothing else of the file
system is known. -/
def fileAt (entry : Entry) (path : String) : Cli.FileState :=
  let parts := path.splitOn "/"
  let place :=
    if pathMax ≤ path.utf8ByteSize then Place.tooLong
    else if path.startsWith "/" then (parts.drop 1).foldl (Place.enter entry) .outside
    else parts.foldl (Place.enter entry) .work
  match place with
  | .work | .outside => .directory
  | .nowhere => .missing
  | .pastFile => .underFile
  | .tooLong => .unreadable (.os 36 "File name too long")
  | .config =>
    match entry with
    | .file text => .text text
    | .directory => .directory
    | .none => .missing

/-- The arguments of a request; none unless `args` is a list, whose items
must all be strings. -/
def argsArg (req : Json) : Read (List String) := do
  match req.get? "args" with
  | some (.arr items) =>
    items.mapM fun
      | .str s => pure s
      | _ => bad "args must be strings"
  | _ => return []

/-- The entry a request puts in the working directory: a directory when
`config_dir` is true, else a file when `config_file` is a text. The file is
written first, so asking for both finds the name taken. -/
def entryArg (req : Json) : Read Entry :=
  match req.get? "config_dir", req.get? "config_file" with
  | some (.bool true), some (.str _) => bad "File exists (os error 17)"
  | some (.bool true), _ => .ok .directory
  | _, some (.str text) => .ok (.file text)
  | _, _ => .ok .none

/-- How a served run ends when its first turn stops on `f`: the host's own records and the
turn's on standard error, then the runtime's report of a panic it raised, and an abort. -/
def stopped (o : Cli.Options) (t : Cli.Turn) (f : Fatal) : Cli.Exit :=
  let clock := "HH:MM:SS.mmm"
  let own := if o.radio.isNone then [Cli.noRadioNote] else []
  ⟨none, (String.fromUTF8? ⟨t.console.toArray⟩).getD "",
    Cli.logLines o.logLevel false clock Cli.hostTarget own ++
      Cli.logLines o.logLevel false clock Cli.platformTarget t.records ++
      (f.site.map (Cli.panicReport · f.message)).getD ""⟩

/-- `host_cli`: one run of the host program. -/
def run (req : Json) : Json := answer do
  let entry ← entryArg req
  let args ← argsArg req
  let exit (e : Cli.Exit) : Json :=
    .obj [("status", (e.status.map Json.nat).getD .null), ("stdout", .str (Host.maskTimes e.stdout)),
      ("stderr", .str (Host.maskTimes e.stderr))]
  match Cli.Launch.plan args (fileAt entry) Cli.Network.down with
  | .exit e => return exit e
  | .serve o params =>
    let t := ((Cli.Host.new o params).turn 0).1
    match t.fatal with
    | some f => return exit (stopped o t f)
    | none => return .obj [("error", .str "timeout")]

end CliBench

end ThreadPlatform.Bench
