import ThreadPlatform.Platform.Board
import ThreadPlatform.Platform.Error
import ThreadPlatform.Status

/-!
# The console port

`ConsolePort` is the console UART as the command line uses it. While it is up,
the UART driver is installed and the port holds a dynamic descriptor for it.

A send writes all of its bytes or fails: the descriptor behaves as a blocking
one, so a full transmit FIFO is waited out, but only until the write timeout
has passed since the send began. A timeout that takes that deadline past the
clock's range panics before anything is written. An interrupted write is tried
again; any other failure of the line is logged and ends the send. Every complete send is counted
on a 32-bit counter, and the mainloop hands the count to the stack as send-done notifications.

The process pass reads what arrived, at most `readSize` bytes at a time; a line
failure other than an interruption is fatal.
-/

namespace ThreadPlatform

/-- The console UART, its descriptor once up, and the sends completed since the
stack was last told. -/
structure ConsolePort where
  device : DeviceId
  params : UartParams
  rxSize : Nat
  txSize : Nat
  writeTimeout : Span
  fd : Option Fd
  sendsDone : UInt32
  deriving Repr

namespace ConsolePort

/-- The port of the UART `device`, not yet up. -/
def new (device : DeviceId) (params : UartParams) (rxSize txSize : Nat) (writeTimeout : Span) :
    ConsolePort :=
  ⟨device, params, rxSize, txSize, writeTimeout, none, 0⟩

/-- The source's name. -/
def name : String := "cli-uart"

/-- The most bytes one process pass reads. -/
def readSize : Nat := 256

/-- Installs the driver and opens a descriptor; the driver is removed again if
no descriptor is free. -/
def init : StateT ConsolePort BoardM (Except BringUpError Unit) := do
  let c ← get
  match ← Board.onMachine (Machine.install c.device c.params c.rxSize c.txSize) with
  | .error e => return .error (.uart c.params.port e)
  | .ok () =>
    match ← Board.onMachine (Machine.openFd c.device) with
    | .ok fd =>
      set { c with fd := some fd }
      return .ok ()
    | .error e =>
      Board.onMachine (Machine.uninstall c.device)
      return .error (.table e)

/-- Closes the descriptor and removes the driver; a failure to close is only noted. -/
def deinit : StateT ConsolePort BoardM Unit := do
  let c ← get
  if let some fd := c.fd then
    match ← Board.onMachine (Machine.closeFd fd) with
    | .ok () => pure ()
    | .error e => Board.log .warn s!"closing CLI {fd.display} failed: {e.message}"
    Board.onMachine (Machine.uninstall c.device)
  set { c with fd := none, sendsDone := 0 }

/-- Waits until `fd` is writable, but not past `deadline`; whether it is. -/
def waitWritable (fd : Fd) (deadline : Nat) : BoardM Bool := do
  let now ← Board.now
  if deadline ≤ now then return false
  let ctx := ((PollContext.new ⟨deadline - now⟩).addWrite fd).addError fd
  match ← Board.onMachine (Machine.select ctx) with
  | .ok ready => return decide (0 < ready.readyCount) && ready.isWritable fd
  | .error _ => return false

/-- Writes `rest` through `fd`, waiting for room until `deadline`; what could not
be written. -/
def writeOut (fd : Fd) (deadline : Nat) : Nat → List UInt8 → BoardM (List UInt8)
  | 0, rest => return rest
  | _ + 1, [] => return []
  | fuel + 1, b :: bs => do
    let rest := b :: bs
    match ← Board.onMachine (Machine.writeFd fd rest) with
    | .ok 0 | .error .wouldBlock =>
      if ← waitWritable fd deadline then writeOut fd deadline fuel rest else return rest
    | .ok n => writeOut fd deadline fuel (rest.drop n)
    | .error (.error e) =>
      if e.isInterrupted then writeOut fd deadline fuel rest
      else
        Board.log .error s!"CLI write failed: {e.message}"
        return rest

/-- Where the runtime reports a send whose deadline is past the clock's range. -/
def deadlineSite : String := "ot/platform/src/uart.rs:385:24"

/-- Where the runtime reports the count of completed sends stepped past its 32 bits. -/
def sendsDoneSite : String := "ot/platform/src/uart.rs:405:13"

/-- Writes all of `data`, counting the send once it is complete. -/
def send (data : List UInt8) : StateT ConsolePort BoardM (Except ThreadError Unit) := do
  let c ← get
  match c.fd with
  | none => return .error .invalidState
  | some fd =>
    let b ← getThe Board
    let deadline ← Board.deadlineAfter deadlineSite c.writeTimeout
    let rest ← writeOut fd deadline (2 * data.length + 2 * b.machine.eventsLeft + 4) data
    if rest.isEmpty then
      let n ← Board.increment sendsDoneSite c.sendsDone
      modify fun c => { c with sendsDone := n }
      return .ok ()
    else return .error .failed

/-- Hands out the completed sends counted so far and clears the count. -/
def takeSendDone : StateT ConsolePort BoardM UInt32 :=
  modifyGet fun c => (c.sendsDone, { c with sendsDone := 0 })

/-- The mainloop waits for the descriptor to be readable. -/
def update (c : ConsolePort) (ctx : PollContext) : PollContext :=
  match c.fd with
  | some fd => ctx.addRead fd
  | none => ctx

/-- Reads what arrived when the descriptor is ready; a line failure is fatal. -/
def process (ctx : PollContext) : StateT ConsolePort BoardM (Option (List UInt8)) := do
  let some fd := (← get).fd | return none
  if !ctx.isReadable fd then return none
  match ← Board.onMachine (Machine.readFd fd readSize) with
  | .ok r =>
    let count := min r.count readSize
    if count = 0 then return none
    else return some ((r.bytes ++ List.replicate (count - r.bytes.length) 0).take count)
  | .error .wouldBlock => return none
  | .error (.error e) =>
    if e.isInterrupted then return none
    else Board.fatal s!"CLI UART read failed: {e.message}"

end ConsolePort

end ThreadPlatform
