import ThreadPlatform.Hdlc.Checksum
import ThreadPlatform.Hdlc.FrameBuffer

/-!
# Writing frames

An `Encoder` writes frames into a `FrameBuffer` and keeps the running check
register of the frame it is writing. A frame is `beginFrame`, the payload
(`encodeByte`, `encode`), then `endFrame`, which appends the check sequence and
the closing flag.

Each operation answers its outcome together with the encoder after it, and works
on the buffer in place as the writes go. `writeEscaped` checks for room for both
octets of an escape before writing the first; `encode` and `endFrame` remember the
buffer's length when they start and cut the buffer back to it when a write fails,
and `encode` also restores the register. `beginFrame` resets the register before it
tries to write the opening flag.

`encodeFrame` writes one whole frame into a fresh buffer of the given capacity.
-/

namespace ThreadPlatform.Hdlc

/-- A buffer being written and the check register of the frame in progress. -/
structure Encoder where
  buffer : FrameBuffer
  fcs : UInt16

namespace Encoder

/-- A fresh encoder over `buffer`, its register at the initial value. -/
def new (buffer : FrameBuffer) : Encoder :=
  ⟨buffer, Fcs.init⟩

/-- The octets that stand for `b` inside a frame. -/
def escaped (b : UInt8) : List UInt8 :=
  if needsEscape b then [escape, b ^^^ escapeMask] else [b]

/-- Write `b` as it stands inside a frame, in place. An escaped octet needs two free
places, checked before either is written; without them nothing is written. -/
def writeEscaped (buf : FrameBuffer) (b : UInt8) : Except FrameError Unit × FrameBuffer :=
  if needsEscape b then
    if buf.canWrite 2 then
      FrameBuffer.andThen (buf.pushInPlace escape) (·.pushInPlace (b ^^^ escapeMask))
    else (.error .noBufs, buf)
  else buf.pushInPlace b

/-- Start a frame: reset the register, then write the opening flag. -/
def beginFrame (e : Encoder) : Except FrameError Unit × Encoder :=
  let (outcome, buf) := e.buffer.pushInPlace flag
  (outcome, ⟨buf, Fcs.init⟩)

/-- Write one payload octet and fold it into the register; a failed write leaves the
register alone. -/
def encodeByte (e : Encoder) (b : UInt8) : Except FrameError Unit × Encoder :=
  match writeEscaped e.buffer b with
  | (.ok (), buf) => (.ok (), ⟨buf, Fcs.update e.fcs b⟩)
  | (.error err, buf) => (.error err, { e with buffer := buf })

/-- The loop of `encode`: payload octets in order, stopping at the first that fails, with
the encoder as that failure left it. -/
def encodeEach (e : Encoder) : List UInt8 → Except FrameError Unit × Encoder
  | [] => (.ok (), e)
  | b :: rest =>
    match e.encodeByte b with
    | (.ok (), e') => encodeEach e' rest
    | (.error err, e') => (.error err, e')

/-- Write payload octets. On failure the buffer is cut back to its length before the call
and the register restored. -/
def encode (e : Encoder) (data : List UInt8) : Except FrameError Unit × Encoder :=
  let mark := e.buffer.size
  match e.encodeEach data with
  | (.ok (), e') => (.ok (), e')
  | (.error err, e') => (.error err, ⟨e'.buffer.truncate mark, e.fcs⟩)

/-- Close the frame: the complemented register, low octet first, then the flag.
On failure the buffer is cut back to its length before the call. -/
def endFrame (e : Encoder) : Except FrameError Unit × Encoder :=
  let mark := e.buffer.size
  let check := e.fcs ^^^ 0xFFFF
  let written :=
    FrameBuffer.andThen
      (FrameBuffer.andThen (writeEscaped e.buffer check.toUInt8) (writeEscaped · (check >>> 8).toUInt8))
      (·.pushInPlace flag)
  match written with
  | (.ok (), buf) => (.ok (), { e with buffer := buf })
  | (.error err, buf) => (.error err, { e with buffer := buf.truncate mark })

end Encoder

/-- One whole frame for `payload` in a fresh buffer of `capacity` octets. -/
def encodeFrame (capacity : Nat) (payload : List UInt8) : Except FrameError FrameBuffer :=
  let e := Encoder.new (FrameBuffer.empty capacity)
  match e.beginFrame with
  | (.error err, _) => .error err
  | (.ok (), e) =>
    match e.encode payload with
    | (.error err, _) => .error err
    | (.ok (), e) =>
      match e.endFrame with
      | (.error err, _) => .error err
      | (.ok (), e) => .ok e.buffer

end ThreadPlatform.Hdlc
