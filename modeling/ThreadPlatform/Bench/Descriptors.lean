import ThreadPlatform.Bench.Request
import ThreadPlatform.Core.PollContext
import ThreadPlatform.Core.Millis

/-!
# Bench: descriptors, poll contexts, milliseconds

Requests on single descriptors, descriptor sets, poll contexts and the wrapping
millisecond counter.
-/

namespace ThreadPlatform.Bench

/-- A descriptor argument: an unsigned number, then below 64. -/
def fdArg (item : Json) (key : String := "fd") : Read Fd := do
  let raw ← needNat item key u64Max
  match Fd.ofNat? raw with
  | some fd => return fd
  | none => throw (.invalidFd raw)

/-- A list of descriptors; an absent or null list is empty. -/
def fdListArg (item : Json) (key : String) : Read (List Fd) := do
  match item.get? key with
  | none | some .null => return []
  | some (.arr xs) =>
    xs.mapM fun x => do
      match x with
      | .int n =>
        if 0 ≤ n ∧ n.toNat ≤ u64Max then
          match Fd.ofNat? n.toNat with
          | some fd => pure fd
          | none => throw (.invalidFd n.toNat)
        else bad s!"field '{key}' must be a list of integers"
      | _ => bad s!"field '{key}' must be a list of integers"
  | some _ => bad s!"field '{key}' must be a list of integers"

/-- Descriptors in ascending order, as numbers. -/
def fdsJson (s : FdSet) : Json := .arr (s.iter.toList.map fun fd => .nat fd.toNat)

/-- A poll context as the bench shows it. -/
def ctxJson (ctx : PollContext) : Json :=
  .obj [("read", fdsJson ctx.readFds), ("write", fdsJson ctx.writeFds),
    ("error", fdsJson ctx.errorFds), ("max_fd", .optNat (ctx.maxFd.map Fd.toNat)),
    ("timeout_ms", .nat ctx.timeout.toMillis64)]

/-- Readiness flags as the bench shows them. -/
def flagsJson (readable writable error : Bool) : Json :=
  .obj [("readable", .bool readable), ("writable", .bool writable), ("error", .bool error)]

namespace Descriptors

/-- `fd_new`: a descriptor number checked against the table size. -/
def fdNew (req : Json) : Json := answer do
  let raw ← needNat req "raw" u8Max
  match Fd.ofNat? raw with
  | some fd =>
    return .obj [("fd", .nat fd.toNat), ("reserved", .bool fd.isReserved), ("display", .str fd.display)]
  | none => return .obj [("fd", .null)]

/-- A descriptor set as the bench shows it. -/
def setJson (s : FdSet) : Json :=
  .obj [("fds", fdsJson s), ("len", .nat s.size), ("empty", .bool s.isEmpty)]

/-- One step on a descriptor set. -/
def setStep (s : FdSet) (op : String) (item : Json) : Read (Json × FdSet) := do
  match op with
  | "insert" => let s' := s.insert (← fdArg item); return (setJson s', s')
  | "remove" => let s' := s.erase (← fdArg item); return (setJson s', s')
  | "clear" => return (setJson FdSet.empty, FdSet.empty)
  | "union" => let s' := s.union (FdSet.ofList (← fdListArg item "fds")); return (setJson s', s')
  | "intersection" => let s' := s.inter (FdSet.ofList (← fdListArg item "fds")); return (setJson s', s')
  | "contains" => return (.obj [("contains", .bool (s.contains (← fdArg item)))], s)
  | other => bad s!"unknown fdset op '{other}'"

/-- `fdset`: steps on one descriptor set. -/
def fdset (req : Json) : Json := runSteps req FdSet.empty setStep

/-- A poll context with its ready count and interest. -/
def contextJson (ctx : PollContext) : Json :=
  withMember (withMember (ctxJson ctx) "ready_count" (.nat ctx.readyCount)) "interest" (fdsJson ctx.interest)

/-- One step on a poll context. -/
def contextStep (ctx : PollContext) (op : String) (item : Json) : Read (Json × PollContext) := do
  let ctx' ← match op with
    | "reset" => do pure (PollContext.new (Span.ofMillis (← needNat item "timeout_ms" u64Max)))
    | "add_read" => do pure (ctx.addRead (← fdArg item))
    | "add_write" => do pure (ctx.addWrite (← fdArg item))
    | "add_error" => do pure (ctx.addError (← fdArg item))
    | "tighten" => do pure (ctx.tighten (Span.ofMillis (← needNat item "ms" u64Max)))
    | "set_immediate" => pure ctx.setImmediate
    | "query" => do
      let fd ← fdArg item
      return (flagsJson (ctx.isReadable fd) (ctx.isWritable fd) (ctx.hasError fd), ctx)
    | other => bad s!"unknown context op '{other}'"
  return (contextJson ctx', ctx')

/-- `context`: steps on one poll context. -/
def context (req : Json) : Json := answer do
  let timeout ← match ← optNat req "timeout_ms" u64Max with
    | some ms => pure (Span.ofMillis ms)
    | none => pure PollContext.defaultTimeout
  return runSteps req (PollContext.new timeout) contextStep

/-- `remaining_millis`: time left until a deadline on the wrapping counter. -/
def remaining (req : Json) : Json := answer do
  let t0 ← needNat req "t0" u32Max
  let dt ← needNat req "dt" u32Max
  let now ← needNat req "now" u32Max
  return .obj [("remaining", .optNat ((Millis.remaining t0.toUInt32 dt.toUInt32 now.toUInt32).map UInt32.toNat))]

/-- `micros_to_millis`: the counter's reading for a microsecond clock. -/
def millis (req : Json) : Json := answer do
  let us ← needNat req "micros" u64Max
  return .obj [("millis", .nat (Millis.ofMicros us.toUInt64).toNat)]

end Descriptors

end ThreadPlatform.Bench
