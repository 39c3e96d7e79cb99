import ThreadPlatform.Core.Descriptor
import ThreadPlatform.Core.Span

/-!
# Poll contexts

A `PollContext` is what one pass of the mainloop asks to wait for: descriptors
of interest for reading, for writing and for errors, the largest descriptor
named so far, and how long to wait at most. Sources add descriptors and may
shorten the wait (`tighten`, `setImmediate`); after a poll the three sets hold
the ready descriptors instead, and `readyCount` counts them.
-/

namespace ThreadPlatform

/-- Interest sets, largest descriptor named, and the longest wait. -/
structure PollContext where
  readFds : FdSet
  writeFds : FdSet
  errorFds : FdSet
  maxFd : Option Fd
  timeout : Span
  deriving DecidableEq, Repr

namespace PollContext

/-- The default longest wait, ten seconds. -/
def defaultTimeout : Span := Span.ofMillis 10000

/-- Nothing of interest yet, waiting at most `timeout`. -/
def new (timeout : Span) : PollContext :=
  ⟨FdSet.empty, FdSet.empty, FdSet.empty, none, timeout⟩

/-- The descriptor becomes the largest named if it is larger than all before. -/
def raiseMax (ctx : PollContext) (fd : Fd) : PollContext :=
  match ctx.maxFd with
  | some m => if m < fd then { ctx with maxFd := some fd } else ctx
  | none => { ctx with maxFd := some fd }

/-- Wait for `fd` to be readable. -/
def addRead (ctx : PollContext) (fd : Fd) : PollContext :=
  { ctx with readFds := ctx.readFds.insert fd }.raiseMax fd

/-- Wait for `fd` to be writable. -/
def addWrite (ctx : PollContext) (fd : Fd) : PollContext :=
  { ctx with writeFds := ctx.writeFds.insert fd }.raiseMax fd

/-- Wait for an error on `fd`. -/
def addError (ctx : PollContext) (fd : Fd) : PollContext :=
  { ctx with errorFds := ctx.errorFds.insert fd }.raiseMax fd

/-- Wait no longer than `bound`. -/
def tighten (ctx : PollContext) (bound : Span) : PollContext :=
  if bound < ctx.timeout then { ctx with timeout := bound } else ctx

/-- Do not wait at all. -/
def setImmediate (ctx : PollContext) : PollContext :=
  { ctx with timeout := Span.zero }

/-- Every descriptor of any interest. -/
def interest (ctx : PollContext) : FdSet :=
  (ctx.readFds.union ctx.writeFds).union ctx.errorFds

/-- Whether `fd` is in the read set. -/
def isReadable (ctx : PollContext) (fd : Fd) : Bool := ctx.readFds.contains fd

/-- Whether `fd` is in the write set. -/
def isWritable (ctx : PollContext) (fd : Fd) : Bool := ctx.writeFds.contains fd

/-- Whether `fd` is in the error set. -/
def hasError (ctx : PollContext) (fd : Fd) : Bool := ctx.errorFds.contains fd

/-- Members of the three sets, counted once per set. -/
def readyCount (ctx : PollContext) : Nat :=
  ctx.readFds.size + ctx.writeFds.size + ctx.errorFds.size

/-- The same context with the three sets emptied. -/
def cleared (ctx : PollContext) : PollContext :=
  { ctx with readFds := FdSet.empty, writeFds := FdSet.empty, errorFds := FdSet.empty }

end PollContext

end ThreadPlatform
