import ThreadPlatform.Status

/-!
# HDLC-lite framing: reserved octets and errors

A frame on the wire starts and ends with `flag`. Inside a frame the octets that
would confuse the receiver (`needsEscape`: the flag, the escape octet itself,
the two software flow-control octets and one vendor octet) are sent as `escape`
followed by the octet with bit 5 flipped (`escapeMask`).

`FrameError` is what framing reports: a frame that does not fit its buffer, or
one whose check sequence is wrong.
-/

namespace ThreadPlatform.Hdlc

/-- Starts and ends every frame. -/
def flag : UInt8 := 0x7E

/-- Announces an escaped octet. -/
def escape : UInt8 := 0x7D

/-- What an escaped octet is combined with. -/
def escapeMask : UInt8 := 0x20

/-- Software flow control: resume. -/
def xon : UInt8 := 0x11

/-- Software flow control: pause. -/
def xoff : UInt8 := 0x13

/-- An octet the radio vendor reserves. -/
def vendor : UInt8 := 0xF8

/-- Octets of the frame check sequence at the end of a frame. -/
def fcsSize : Nat := 2

/-- The largest frame the radio link handles. -/
def maxFrameSize : Nat := 2048

/-- An octet is escaped inside a frame exactly when it is one of the five reserved ones. -/
def needsEscape (b : UInt8) : Bool :=
  b == flag || b == escape || b == xon || b == xoff || b == vendor

/-- The two ways framing fails. -/
inductive FrameError where
  /-- The frame does not fit the buffer. -/
  | noBufs
  /-- The frame check sequence is wrong, or the frame was cut short. -/
  | parse
  deriving DecidableEq, Repr

namespace FrameError

/-- The error's name. -/
def name : FrameError → String
  | .noBufs => "NoBufs"
  | .parse => "Parse"

/-- The sentence shown to people. -/
def message : FrameError → String
  | .noBufs => "Frame exceeds buffer capacity"
  | .parse => "Frame integrity check failed"

/-- The stack's code for a framing failure. -/
def toThreadError : FrameError → ThreadError
  | .noBufs => .noBufs
  | .parse => .parse

end FrameError

end ThreadPlatform.Hdlc
