import ThreadPlatform.Hdlc.Checksum
import ThreadPlatform.Hdlc.FrameBuffer

/-!
# Reading frames

A `Decoder` reads the wire octet by octet and reports each frame it closes.
Before the first flag it waits for one (`Phase.hunting`); inside a frame it
collects unescaped octets and their check register (`Phase.inFrame`); after an
escape octet it waits for the escaped one (`Phase.escaped`).

A closing flag reports:
* `noBufs` when the frame did not fit the buffer (the rest of it was dropped),
* the payload when at least the two check octets arrived and the register is `Fcs.good`,
* `parse` for any other non-empty frame; an empty one reports nothing.

An escape followed by a flag aborts the frame with `parse`, and the flag opens
the next one. `feed` is one octet, `decode` a whole chunk; chunks can be cut
anywhere, since all the decoder needs is in its state.
-/

namespace ThreadPlatform.Hdlc

/-- Where the decoder is within the octet stream. -/
inductive Phase where
  | hunting
  | inFrame
  | escaped
  deriving DecidableEq, Repr

/-- A frame the decoder reports: its payload, or why it was dropped. -/
abbrev Outcome := Except FrameError (List UInt8)

/-- The state of an incremental frame reader. -/
structure Decoder where
  buffer : FrameBuffer
  phase : Phase
  fcs : UInt16
  overflowed : Bool

namespace Decoder

/-- A decoder with a buffer of `capacity` octets, hunting for the first flag. -/
def new (capacity : Nat) : Decoder :=
  ⟨FrameBuffer.empty capacity, .hunting, Fcs.init, false⟩

/-- Forget the frame in progress. -/
def startFrame (d : Decoder) : Decoder :=
  { d with buffer := d.buffer.clear, fcs := Fcs.init, overflowed := false }

/-- Forget the frame in progress and hunt for the next flag. -/
def reset (d : Decoder) : Decoder :=
  { d.startFrame with phase := .hunting }

/-- Keep one unescaped octet of the frame; once the buffer was full, drop the rest. -/
def accept (d : Decoder) (b : UInt8) : Decoder :=
  if d.overflowed then d
  else
    match d.buffer.push b with
    | .ok buf => { d with buffer := buf, fcs := Fcs.update d.fcs b }
    | .error _ => { d with overflowed := true }

/-- What a closing flag reports for the frame in progress. -/
def verdict (d : Decoder) : Option Outcome :=
  if d.overflowed then some (.error .noBufs)
  else if fcsSize ≤ d.buffer.size ∧ d.fcs = Fcs.good then
    some (.ok (d.buffer.data.take (d.buffer.size - fcsSize)))
  else if d.buffer.size ≠ 0 then some (.error .parse)
  else none

/-- Read one octet: the decoder after it, and the frame it closed, if any. -/
def feed (d : Decoder) (b : UInt8) : Decoder × Option Outcome :=
  match d.phase with
  | .hunting =>
    if b = flag then ({ d.startFrame with phase := .inFrame }, none) else (d, none)
  | .inFrame =>
    if b = escape then ({ d with phase := .escaped }, none)
    else if b = flag then (d.startFrame, d.verdict)
    else (d.accept b, none)
  | .escaped =>
    if b = flag then ({ d.startFrame with phase := .inFrame }, some (.error .parse))
    else ({ d.accept (b ^^^ escapeMask) with phase := .inFrame }, none)

/-- Read a chunk of octets: the decoder after it and the frames it closed, in order. -/
def decode (d : Decoder) : List UInt8 → Decoder × List Outcome
  | [] => (d, [])
  | b :: rest =>
    let (d₁, out) := d.feed b
    let (d₂, outs) := d₁.decode rest
    (d₂, out.toList ++ outs)

/-- Reading two chunks one after the other is reading them as one. -/
theorem decode_append (d : Decoder) (a b : List UInt8) :
    d.decode (a ++ b) =
      (((d.decode a).1.decode b).1, (d.decode a).2 ++ ((d.decode a).1.decode b).2) := by
  induction a generalizing d with
  | nil => simp [decode]
  | cons x a ih => simp [decode, ih]

end Decoder

end ThreadPlatform.Hdlc
