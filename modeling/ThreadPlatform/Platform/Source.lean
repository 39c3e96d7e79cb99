import ThreadPlatform.Platform.Board

/-!
# Events and scripted sources

A `PlatformEvent` is what a mainloop source hands the stack after its process
pass: the alarm expired, console bytes arrived, or a console send completed.

A `ScriptedSource` is a mainloop source whose behaviour is given as data, for
exercising the mainloop: each update pass notes `update:<name>` in the board's
trace and makes its calls on the poll context (`PollCall`: add a descriptor of
interest, shorten the wait, or ask for no wait), each process pass notes
`process:<name>` and hands out its event, once or every time.
-/

namespace ThreadPlatform

/-- Something a source hands the stack after its process pass. -/
inductive PlatformEvent where
  | alarmFired
  | uartReceived (data : List UInt8)
  | uartSendDone
  deriving DecidableEq, Repr

/-- One call a source's update pass makes on the poll context. -/
inductive PollCall where
  | read (fd : Fd)
  | write (fd : Fd)
  | error (fd : Fd)
  | tighten (bound : Span)
  | immediate
  deriving DecidableEq, Repr

/-- The context after the call. -/
def PollCall.apply (ctx : PollContext) : PollCall → PollContext
  | .read fd => ctx.addRead fd
  | .write fd => ctx.addWrite fd
  | .error fd => ctx.addError fd
  | .tighten bound => ctx.tighten bound
  | .immediate => ctx.setImmediate

/-- A mainloop source described by data; `interest` holds the calls of its
update pass, `none` when it makes none. -/
structure ScriptedSource where
  name : String
  interest : Option (List PollCall)
  emit : Option PlatformEvent
  every : Bool
  spent : Bool
  deriving DecidableEq, Repr

namespace ScriptedSource

/-- The calls of the source's update pass, in order. -/
def calls (s : ScriptedSource) : List PollCall := s.interest.getD []

/-- Notes the pass and makes the source's calls on the context. -/
def update (s : ScriptedSource) (ctx : PollContext) : BoardM PollContext := do
  Board.note s!"update:{s.name}"
  return s.calls.foldl PollCall.apply ctx

/-- Notes the pass and hands out the event, unless it was handed out already
and is not repeated. -/
def process (s : ScriptedSource) : BoardM (Option PlatformEvent × ScriptedSource) := do
  Board.note s!"process:{s.name}"
  match s.emit with
  | some e =>
    if s.every || !s.spent then return (some e, { s with spent := true })
    else return (none, s)
  | none => return (none, s)

end ScriptedSource

end ThreadPlatform
