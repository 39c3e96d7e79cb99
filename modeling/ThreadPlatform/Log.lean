/-!
# Log records

Components report what happens through log records: a severity and a line of
text. A `Journal` keeps them in the order they were emitted, so the records of
one piece of work are the ones appended while it ran.
-/

namespace ThreadPlatform

/-- Severity of a log record, most severe first. -/
inductive Level where
  | error
  | warn
  | info
  | debug
  | trace
  deriving DecidableEq, Repr, Inhabited

namespace Level

/-- The upper-case name of the severity. -/
def name : Level → String
  | .error => "ERROR"
  | .warn => "WARN"
  | .info => "INFO"
  | .debug => "DEBUG"
  | .trace => "TRACE"

/-- Rank of the severity: 1 for `error` up to 5 for `trace`. -/
def rank : Level → Nat
  | .error => 1
  | .warn => 2
  | .info => 3
  | .debug => 4
  | .trace => 5

/-- Every severity, most severe first. -/
def all : List Level := [.error, .warn, .info, .debug, .trace]

end Level

/-- One log record. -/
structure LogRecord where
  level : Level
  text : String
  deriving DecidableEq, Repr, Inhabited

/-- The record as a line: severity name, a blank, the text. -/
def LogRecord.line (r : LogRecord) : String := s!"{r.level.name} {r.text}"

end ThreadPlatform
