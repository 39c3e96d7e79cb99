import ThreadPlatform.Platform.Board
import ThreadPlatform.Platform.Error
import ThreadPlatform.Hdlc.Decoder
import ThreadPlatform.Hdlc.Encoder
import ThreadPlatform.Status

/-!
# The radio link

`RadioLink` carries HDLC frames to and from the radio co-processor over the
radio UART. While it is up, the UART driver is installed and the link holds a
dynamic descriptor for it.

A frame is encoded and written out completely before `sendFrame` returns. The
UART is switched to plain line endings meanwhile, since frames are binary.
Whenever the FIFO is full, the link waits for room, each time for at most
`maxWait`; a wait that runs out fails the send. An error on the line is fatal,
and a wait whose deadline is past the clock's range panics.

Incoming bytes are decoded incrementally, from the mainloop's process pass or
from `waitForFrame`. Each completed frame joins the receive queue, and each
dropped one is counted and logged. Both return how many frames completed,
which is how often the receive callback is due.
-/

namespace ThreadPlatform

/-- Frame counters of the link, each on 32 bits. -/
structure RadioCounters where
  txFrames : UInt32
  rxFrames : UInt32
  rxDropped : UInt32
  deriving DecidableEq, Repr

/-- The radio UART, its descriptor once up, the decoder and the received frames. -/
structure RadioLink where
  device : DeviceId
  params : UartParams
  rxSize : Nat
  txSize : Nat
  maxWait : Span
  fd : Option Fd
  decoder : Hdlc.Decoder
  frames : List (List UInt8)
  counters : RadioCounters

namespace RadioLink

/-- The link over the UART `device`, not yet up. -/
def new (device : DeviceId) (params : UartParams) (rxSize txSize : Nat) (maxWait : Span) : RadioLink :=
  ⟨device, params, rxSize, txSize, maxWait, none, Hdlc.Decoder.new Hdlc.maxFrameSize, [], ⟨0, 0, 0⟩⟩

/-- The source's name. -/
def name : String := "radio"

/-- Installs the driver and opens a descriptor, with an empty decoder and queue. -/
def init : StateT RadioLink BoardM (Except BringUpError Unit) := do
  let r ← get
  let port := r.params.port
  match ← Board.onMachine (Machine.install r.device r.params r.rxSize r.txSize) with
  | .error e => return .error (.uart port e)
  | .ok () =>
    match ← Board.onMachine (Machine.openFd r.device) with
    | .error e =>
      Board.onMachine (Machine.uninstall r.device)
      return .error (.table e)
    | .ok fd =>
      set { r with fd := some fd, decoder := r.decoder.reset, frames := [] }
      Board.log .info s!"radio UART{port} ready on {fd.display} at {r.params.baudRate} baud"
      return .ok ()

/-- Closes the descriptor and removes the driver; a failure to close is only noted. -/
def deinit : StateT RadioLink BoardM Unit := do
  let r ← get
  if let some fd := r.fd then
    match ← Board.onMachine (Machine.closeFd fd) with
    | .ok () => pure ()
    | .error e => Board.log .warn s!"closing radio {fd.display} failed: {e.message}"
    Board.onMachine (Machine.uninstall r.device)
  set { r with fd := none }

/-- Removes and returns the oldest received frame. -/
def takeFrame : StateT RadioLink BoardM (Option (List UInt8)) :=
  modifyGet fun r =>
    match r.frames with
    | [] => (none, r)
    | f :: fs => (some f, { r with frames := fs })

/-- Waits for room on `fd` until `deadline`; a wait that runs out fails. -/
def awaitWritable (fd : Fd) (deadline : Nat) : Nat → BoardM (Except ThreadError Unit)
  | 0 => return .error .failed
  | fuel + 1 => do
    let now ← Board.now
    if deadline ≤ now then return .error .failed
    let ctx := ((PollContext.new ⟨deadline - now⟩).addWrite fd).addError fd
    match ← Board.onMachine (Machine.select ctx) with
    | .ok ready =>
      if ready.readyCount = 0 then awaitWritable fd deadline fuel
      else if ready.isWritable fd then return .ok ()
      else Board.fatal s!"radio UART {fd.display} reported an error"
    | .error e =>
      if e.isInterrupted then awaitWritable fd deadline fuel
      else Board.fatal s!"waiting for radio UART failed: {e.message}"

/-- Where the runtime reports a wait whose deadline is past the clock's range. -/
def deadlineSite : String := "ot/platform/src/radio.rs:200:24"

/-- Room for another write: a wait of at most `maxWait`. -/
def waitWritable (fd : Fd) (maxWait : Span) : BoardM (Except ThreadError Unit) := do
  let deadline ← Board.deadlineAfter deadlineSite maxWait
  awaitWritable fd deadline ((← get).machine.eventsLeft + 2)

/-- Writes all of `data` through `fd`, waiting for room as often as needed. -/
def writeAll (fd : Fd) (maxWait : Span) : Nat → List UInt8 → BoardM (Except ThreadError Unit)
  | _, [] => return .ok ()
  | 0, _ :: _ => return .error .failed
  | fuel + 1, b :: bs => do
    let data := b :: bs
    let retry : BoardM (Except ThreadError Unit) := do
      match ← waitWritable fd maxWait with
      | .ok () => writeAll fd maxWait fuel data
      | .error e => return .error e
    match ← Board.onMachine (Machine.writeFd fd data) with
    | .ok 0 | .error .wouldBlock => retry
    | .ok n => writeAll fd maxWait fuel (data.drop n)
    | .error (.error e) =>
      if e.isInterrupted then retry
      else Board.fatal s!"radio UART write failed: {e.message}"

/-- Writes an encoded frame with the UART's line endings plain meanwhile. -/
def writeFrame (r : RadioLink) (fd : Fd) (data : List UInt8) : BoardM (Except ThreadError Unit) := do
  Board.onMachine (Machine.setLineEndings r.device .lf)
  let result ← writeAll fd r.maxWait (2 * data.length + 4) data
  Board.onMachine (Machine.setLineEndings r.device .crLf)
  return result

/-- Where the runtime reports the count of sent frames stepped past its 32 bits. -/
def txFramesSite : String := "ot/platform/src/radio.rs:147:17"

/-- Encodes `frame` and writes it out completely. -/
def sendFrame (frame : List UInt8) : StateT RadioLink BoardM (Except ThreadError Unit) := do
  let r ← get
  let some fd := r.fd | return .error .invalidState
  let result ← match Hdlc.encodeFrame Hdlc.maxFrameSize frame with
    | .error e => pure (.error e.toThreadError)
    | .ok buf => r.writeFrame fd buf.data
  match result with
  | .ok () =>
    let n ← Board.increment txFramesSite r.counters.txFrames
    modify fun r => { r with counters := { r.counters with txFrames := n } }
    Board.log .debug s!"sent radio frame ({frame.length} bytes)"
  | .error e => Board.log .error s!"send radio frame failed: {e.message}"
  return result

/-- Where the runtime reports the count of received frames stepped past its 32 bits. -/
def rxFramesSite : String := "ot/platform/src/radio.rs:238:21"

/-- Where the runtime reports the count of dropped frames stepped past its 32 bits. -/
def rxDroppedSite : String := "ot/platform/src/radio.rs:244:21"

/-- Takes in one decoded frame or dropped frame; whether a frame completed. -/
def settleOutcome (o : Hdlc.Outcome) : StateT RadioLink BoardM Bool := do
  match o with
  | .ok frame =>
    Board.log .debug s!"received radio frame ({frame.length} bytes)"
    let n ← Board.increment rxFramesSite (← get).counters.rxFrames
    modify fun r => { r with frames := r.frames ++ [frame], counters := { r.counters with rxFrames := n } }
    return true
  | .error e =>
    let n ← Board.increment rxDroppedSite (← get).counters.rxDropped
    modify fun r => { r with counters := { r.counters with rxDropped := n } }
    Board.log .error s!"dropping radio frame: {e.message}"
    return false

/-- Reads what arrived on `fd` and decodes it; how many frames completed. -/
def readAndDecode (fd : Fd) : StateT RadioLink BoardM Nat := do
  match ← Board.onMachine (Machine.readFd fd Hdlc.maxFrameSize) with
  | .error .wouldBlock => return 0
  | .error (.error e) =>
    if e.isInterrupted then return 0
    else Board.fatal s!"radio UART read failed: {e.message}"
  | .ok out =>
    let count := min out.count Hdlc.maxFrameSize
    let bytes := (out.bytes ++ List.replicate (count - out.bytes.length) 0).take count
    let r ← get
    let (d, outcomes) := r.decoder.decode bytes
    set { r with decoder := d }
    outcomes.foldlM (fun n o => do return if ← settleOutcome o then n + 1 else n) 0

/-- Waits up to `timeout` for radio input and decodes it; how many frames completed.
Nothing arriving in time is a response timeout. -/
def waitForFrame (timeout : Span) : StateT RadioLink BoardM (Except ThreadError Nat) := do
  let some fd := (← get).fd | return .error .invalidState
  let ctx := ((PollContext.new timeout).addRead fd).addError fd
  match ← Board.onMachine (Machine.select ctx) with
  | .ok ready =>
    if ready.readyCount = 0 then return .error .responseTimeout
    else if ready.isReadable fd then return .ok (← readAndDecode fd)
    else Board.fatal s!"radio UART {fd.display} reported an error"
  | .error e =>
    if e.isInterrupted then return .ok 0
    else Board.fatal s!"waiting for radio frame failed: {e.message}"

/-- The mainloop waits for the descriptor to be readable. -/
def update (r : RadioLink) (ctx : PollContext) : PollContext :=
  match r.fd with
  | some fd => ctx.addRead fd
  | none => ctx

/-- Decodes what arrived when the descriptor is ready; how many frames completed. -/
def process (ctx : PollContext) : StateT RadioLink BoardM Nat := do
  let some fd := (← get).fd | return 0
  if !ctx.isReadable fd then return 0
  Board.log .debug "radio uart read event"
  readAndDecode fd

end RadioLink

end ThreadPlatform
