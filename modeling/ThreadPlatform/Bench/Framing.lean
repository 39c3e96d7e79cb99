import ThreadPlatform.Bench.Request
import ThreadPlatform.Hdlc.Encoder
import ThreadPlatform.Hdlc.Decoder

/-!
# Bench: framing

Requests that exercise the check sequence, the escape rule, frame buffers, the
encoder and the decoder. Frame buffers, encoders and decoders come in a fixed
set of capacities (`capacities`); the bench refuses others.
-/

namespace ThreadPlatform.Bench.Framing

open ThreadPlatform.Hdlc

/-- The buffer capacities the bench offers for encoders and decoders. -/
def capacities : List Nat := [1, 2, 3, 4, 5, 6, 7, 8, 9, 10, 12, 16, 32, 64, 128, 256, 2048, 4096]

/-- The capacities offered for a bare frame buffer. -/
def bufferCapacities : List Nat := [0, 1, 2, 3, 4, 8]

/-- The capacity a request asks for, `dflt` when it names none. -/
def capacity (req : Json) (allowed : List Nat) (dflt : Nat) : Read Nat := do
  let n ← natOr req "cap" u64Max dflt
  if allowed.contains n then return n else bad s!"unsupported capacity {n}"

/-- A framing error as an error object. -/
def frameErrorJson (e : FrameError) : Json :=
  errorJson e.name e.message

/-- A stack error code as an error object. -/
def threadErrorJson (e : ThreadError) : Json :=
  errorJson e.name e.message

/-- `fcs`: the register over the octets, and the check sequence a sender appends. -/
def fcs (req : Json) : Json := answer do
  let data ← octets req
  let c := Fcs.compute data
  return .obj [("fcs", .nat c.toNat), ("check", .nat (c ^^^ 0xFFFF).toNat)]

/-- `fcs_update`: one octet folded into a register. -/
def fcsUpdate (req : Json) : Json := answer do
  let f ← needNat req "fcs" u16Max
  let b ← needNat req "byte" u8Max
  return .obj [("fcs", .nat (Fcs.update f.toUInt16 b.toUInt8).toNat)]

/-- `needs_escape`: whether an octet is escaped inside frames. -/
def escapeQuery (req : Json) : Json := answer do
  let b ← needNat req "byte" u8Max
  return .obj [("escape", .bool (needsEscape b.toUInt8))]

/-- `hdlc_error`: a framing error's text and the stack code it becomes. -/
def errorQuery (req : Json) : Json := answer do
  let kind ← needStr req "kind"
  let e ← match kind with
    | "NoBufs" => pure FrameError.noBufs
    | "Parse" => pure FrameError.parse
    | other => bad s!"unknown kind '{other}'"
  return .obj [("display", .str e.message), ("ot", threadErrorJson e.toThreadError)]

/-- `ot_error`: every stack error code. -/
def threadErrors : Json :=
  .arr (ThreadError.all.map threadErrorJson)

/-- `encode_frame`: one whole frame, or why it does not fit. -/
def frame (req : Json) : Json := answer do
  let data ← octets req
  let cap ← capacity req capacities maxFrameSize
  match encodeFrame cap data with
  | .ok buf => return .obj [("frame", hexJson buf.data)]
  | .error e => return frameErrorJson e

/-- `to_hex`: octets as text. -/
def toHex (req : Json) : Json := answer do
  return .obj [("hex", hexJson (← octets req))]

/-- The contents of a frame buffer. -/
def bufferJson (buf : FrameBuffer) : Json :=
  .obj [("data", hexJson buf.data), ("len", .nat buf.size)]

/-- One step on a bare frame buffer. -/
def bufferStep (buf : FrameBuffer) (op : String) (item : Json) : Read (Json × FrameBuffer) := do
  match op with
  | "push" =>
    let b ← needNat item "byte" u8Max
    match buf.push b.toUInt8 with
    | .ok buf' => return (bufferJson buf', buf')
    | .error e => return (withMember (frameErrorJson e) "data" (hexJson buf.data), buf)
  | "truncate" =>
    let len ← needNat item "len" u64Max
    let buf' := buf.truncate len
    return (bufferJson buf', buf')
  | "clear" => return (bufferJson buf.clear, buf.clear)
  | "can_write" =>
    let len ← needNat item "len" u64Max
    return (.obj [("can_write", .bool (buf.canWrite len))], buf)
  | "capacity" => return (.obj [("capacity", .nat buf.capacity)], buf)
  | other => bad s!"unknown frame_buffer op '{other}'"

/-- `frame_buffer`: steps on one buffer. -/
def buffer (req : Json) : Json := answer do
  let cap ← capacity req bufferCapacities 4
  return runSteps req (FrameBuffer.empty cap) bufferStep

/-- An encoder step's answer: its outcome and the buffer after it. -/
def encoderAnswer (outcome : Except FrameError Unit) (e : Encoder) : Json :=
  match outcome with
  | .ok () => .obj [("ok", .bool true), ("buffer", hexJson e.buffer.data)]
  | .error err => withMember (frameErrorJson err) "buffer" (hexJson e.buffer.data)

/-- What an encoder step does. -/
inductive EncoderStep where
  | begin
  | encode (data : List UInt8)
  | byte (b : UInt8)
  | finish

/-- The encoder step a request item names; an item without a name names the
empty one, which no step has. -/
def encoderStepArg (item : Json) : Read EncoderStep := do
  match (strOr? item "op").getD "" with
  | "begin" => return .begin
  | "encode" => return .encode (← octets item)
  | "byte" => return .byte (← needNat item "byte" u8Max).toUInt8
  | "end" => return .finish
  | other => bad s!"unknown encoder op '{other}'"

/-- Runs one step on an encoder. -/
def EncoderStep.run (e : Encoder) : EncoderStep → Except FrameError Unit × Encoder
  | .begin => e.beginFrame
  | .encode data => e.encode data
  | .byte b => e.encodeByte b
  | .finish => e.endFrame

/-- `encoder`: steps on one encoder over one buffer. Every step is read before
the first runs, so one that cannot be read refuses the whole request. -/
def encoder (req : Json) : Json := answer do
  let cap ← capacity req capacities maxFrameSize
  let acts ← (← steps req).mapM encoderStepArg
  let next (acc : Encoder × List Json) (a : EncoderStep) : Encoder × List Json :=
    let (outcome, e) := a.run acc.1
    (e, acc.2 ++ [encoderAnswer outcome e])
  let (_, out) := acts.foldl next (Encoder.new (FrameBuffer.empty cap), [])
  return .obj [("steps", .arr out)]

/-- A reported frame as JSON. -/
def outcomeJson : Outcome → Json
  | .ok payload => .obj [("frame", hexJson payload)]
  | .error e => frameErrorJson e

/-- One step on a decoder. -/
def decoderStep (d : Decoder) (op : String) (item : Json) : Read (Json × Decoder) := do
  match op with
  | "decode" =>
    let (d', outs) := d.decode (← octets item)
    return (.arr (outs.map outcomeJson), d')
  | "reset" => return (.arr [], d.reset)
  | _ => bad "decoder op must be 'decode' or 'reset'"

/-- `decoder`: steps on one decoder. A step that cannot be run refuses the
whole request. -/
def decoder (req : Json) : Json := answer do
  let cap ← capacity req capacities maxFrameSize
  let items ← steps req
  let next (acc : Decoder × List Json) (item : Json) : Read (Decoder × List Json) := do
    let op ← match item.get? "op" with
      | some (.str s) => pure s
      | _ => bad "decoder op must be 'decode' or 'reset'"
    let (j, d) ← decoderStep acc.1 op item
    return (d, acc.2 ++ [j])
  let (_, out) ← items.foldlM next (Decoder.new cap, [])
  return .obj [("steps", .arr out)]

end ThreadPlatform.Bench.Framing
