import ThreadPlatform.Device.Basic
import ThreadPlatform.Config.Uart

/-!
# UART devices

A `Uart` is a UART driver as the mainloop sees it: a receive ring filled by the
wire side (`receive`), a transmit FIFO emptied by the wire side (`takeTx`), and
the optional expansion of `\n` into `\r\n` on transmit.

Both queues are bounded by the sizes given at `install`. A write takes bytes
from the front of the data for as long as their expansion fits, so a `\n`
needs two free slots under `LineEndings.crLf`; a write that can take nothing
would block. The device is writable when an expanded byte of the worst width
still fits, so a writable device never refuses a `\n`.

Every read and write first checks the line (`check`): a pending interruption is
consumed and reported, then a fault, then a missing driver.

`watched` records whether a `select` in progress waits on the device; the wire
side wakes that `select` whenever what the device could do may have changed.
-/

namespace ThreadPlatform

/-- A UART driver with its receive ring and transmit FIFO. -/
structure Uart where
  port : Nat
  installed : Bool
  params : Option UartParams
  rx : List UInt8
  rxCapacity : Nat
  tx : List UInt8
  txCapacity : Nat
  lineEndings : LineEndings
  fault : Bool
  interrupted : Bool
  watched : Bool
  deriving DecidableEq, Repr, Inhabited

namespace Uart

/-- The device of port `port`, no driver installed. -/
def new (port : Nat) : Uart :=
  ⟨port, false, none, [], 0, [], 0, .crLf, false, false, false⟩

/-- Installs the driver with empty queues of the given sizes. -/
def install (u : Uart) (p : UartParams) (rxSize txSize : Nat) : Except DeviceError Uart :=
  if u.installed then .error .alreadyOpen
  else
    .ok { u with
      installed := true, params := some p, rx := [], rxCapacity := rxSize, tx := [],
      txCapacity := txSize, lineEndings := p.lineEndings, fault := false, interrupted := false }

/-- Removes the driver and empties both queues; fault and line endings stay. -/
def uninstall (u : Uart) : Uart :=
  { u with installed := false, params := none, rx := [], tx := [], watched := false }

/-- Free slots of the receive ring. -/
def rxRoom (u : Uart) : Nat := u.rxCapacity - u.rx.length

/-- Free slots of the transmit FIFO. -/
def txRoom (u : Uart) : Nat := u.txCapacity - u.tx.length

/-- Wire side: bytes arrive; as many as fit are kept, and their number is returned. -/
def receive (u : Uart) (data : List UInt8) : Nat × Uart :=
  if u.installed then
    let n := min u.rxRoom data.length
    (n, { u with rx := u.rx ++ data.take n })
  else (0, u)

/-- Wire side: everything queued for sending. -/
def takeTx (u : Uart) : List UInt8 × Uart := (u.tx, { u with tx := [] })

/-- Wire side: raise or clear a line fault. -/
def setFault (u : Uart) (on : Bool) : Uart := { u with fault := on }

/-- Wire side: interrupt the next operation on the device. -/
def interrupt (u : Uart) : Uart := { u with interrupted := true }

/-- Consumes a pending interruption. -/
def takeInterrupt (u : Uart) : Bool × Uart := (u.interrupted, { u with interrupted := false })

/-- The line check before a read or a write. -/
def check (u : Uart) : Except DeviceError Unit × Uart :=
  if u.interrupted then (.error .interrupted, { u with interrupted := false })
  else if u.fault then (.error .fault, u)
  else if !u.installed then (.error .notInstalled, u)
  else (.ok (), u)

/-- Up to `len` received bytes, oldest first. -/
def read (u : Uart) (len : Nat) : Except (IoFailure DeviceError) (List UInt8) × Uart :=
  match u.check with
  | (.error e, u) => (.error (.error e), u)
  | (.ok (), u) =>
    if u.rx.isEmpty then (.error .wouldBlock, u)
    else (.ok (u.rx.take len), { u with rx := u.rx.drop len })

/-- The slots one byte takes once expanded. -/
def expand (crLf : Bool) (b : UInt8) : List UInt8 :=
  if crLf && b == 10 then [13, 10] else [b]

/-- Bytes taken from the front of `data` while their expansions fit in `room`
slots: how many, and the expanded output. -/
def fill (crLf : Bool) (room : Nat) : List UInt8 → Nat × List UInt8
  | [] => (0, [])
  | b :: rest =>
    let out := expand crLf b
    if room < out.length then (0, [])
    else
      let (n, more) := fill crLf (room - out.length) rest
      (n + 1, out ++ more)

/-- Queues as much of `data` as fits and returns how many bytes were taken. -/
def write (u : Uart) (data : List UInt8) : Except (IoFailure DeviceError) Nat × Uart :=
  match u.check with
  | (.error e, u) => (.error (.error e), u)
  | (.ok (), u) =>
    let (n, out) := fill (u.lineEndings == .crLf) u.txRoom data
    if n = 0 ∧ data ≠ [] then (.error .wouldBlock, u)
    else (.ok n, { u with tx := u.tx ++ out })

/-- Slots the widest expanded byte takes. -/
def width (u : Uart) : Nat :=
  match u.lineEndings with
  | .lf => 1
  | .crLf => 2

/-- Readable with received bytes, writable with room for the widest byte, in error on a fault. -/
def readiness (u : Uart) : Readiness :=
  ⟨u.installed && !u.rx.isEmpty, u.installed && decide (u.width ≤ u.txRoom), u.fault⟩

theorem fill_length_le (crLf : Bool) (room : Nat) (data : List UInt8) :
    (fill crLf room data).2.length ≤ room := by
  induction data generalizing room with
  | nil => simp [fill]
  | cons b rest ih =>
    simp only [fill]
    split
    · simp
    · have := ih (room - (expand crLf b).length)
      simp only [List.length_append]
      omega

theorem fill_count_le (crLf : Bool) (room : Nat) (data : List UInt8) :
    (fill crLf room data).1 ≤ data.length := by
  induction data generalizing room with
  | nil => simp [fill]
  | cons b rest ih =>
    simp only [fill]
    split
    · simp
    · have := ih (room - (expand crLf b).length)
      simp only [List.length_cons]
      omega

end Uart

end ThreadPlatform
