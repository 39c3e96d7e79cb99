/-!
# Status codes of the Thread stack

`ThreadError` is what a platform operation reports to the Thread stack when it
fails. Each code has the name the stack API gives it (`name`) and a sentence
for people (`message`).
-/

namespace ThreadPlatform

/-- A failure reported to the Thread stack, in the order the stack declares them. -/
inductive ThreadError where
  | failed
  | noBufs
  | parse
  | responseTimeout
  | notFound
  | invalidArgs
  | invalidState
  deriving DecidableEq, Repr

namespace ThreadError

/-- The code's name in the stack API. -/
def name : ThreadError → String
  | .failed => "Failed"
  | .noBufs => "NoBufs"
  | .parse => "Parse"
  | .responseTimeout => "ResponseTimeout"
  | .notFound => "NotFound"
  | .invalidArgs => "InvalidArgs"
  | .invalidState => "InvalidState"

/-- The sentence shown to people for the code. -/
def message : ThreadError → String
  | .failed => "Operation failed"
  | .noBufs => "Insufficient buffers"
  | .parse => "Failed to parse data"
  | .responseTimeout => "Response timeout"
  | .notFound => "Item not found"
  | .invalidArgs => "Invalid arguments"
  | .invalidState => "Invalid state"

/-- Every code, in declaration order. -/
def all : List ThreadError :=
  [.failed, .noBufs, .parse, .responseTimeout, .notFound, .invalidArgs, .invalidState]

end ThreadError

end ThreadPlatform
