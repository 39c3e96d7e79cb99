/-!
# UART line settings

`UartParams` are the settings of one UART port: its number, speed and frame
format, optional pin routing, and how `\n` is sent (`LineEndings`). Two presets
exist: the console (`UartParams.console`, port 0 at 115200 baud, 8 data bits,
no parity, one stop bit, no flow control, default pins) and the radio link
(`UartParams.radioLink`, the same on port 1 with TX on pin 2 and RX on pin 5).
-/

namespace ThreadPlatform

/-- How `\n` is sent: as is, or as `\r\n`. -/
inductive LineEndings where
  | lf
  | crLf
  deriving DecidableEq, Repr, Inhabited

/-- The name of the choice. -/
def LineEndings.name : LineEndings → String
  | .lf => "Lf"
  | .crLf => "CrLf"

/-- UART parity. -/
inductive Parity where
  | none
  | even
  | odd
  deriving DecidableEq, Repr, Inhabited

/-- The name of the choice. -/
def Parity.name : Parity → String
  | .none => "None"
  | .even => "Even"
  | .odd => "Odd"

/-- UART stop bits. -/
inductive StopBits where
  | one
  | oneAndHalf
  | two
  deriving DecidableEq, Repr, Inhabited

/-- The name of the choice. -/
def StopBits.name : StopBits → String
  | .one => "One"
  | .oneAndHalf => "OneAndHalf"
  | .two => "Two"

/-- UART hardware flow control. -/
inductive FlowControl where
  | none
  | rtsCts
  deriving DecidableEq, Repr, Inhabited

/-- The name of the choice. -/
def FlowControl.name : FlowControl → String
  | .none => "None"
  | .rtsCts => "RtsCts"

/-- Settings of one UART port. -/
structure UartParams where
  port : Nat
  baudRate : Nat
  dataBits : Nat
  parity : Parity
  stopBits : StopBits
  flowControl : FlowControl
  txPin : Option Nat
  rxPin : Option Nat
  lineEndings : LineEndings
  deriving DecidableEq, Repr, Inhabited

namespace UartParams

/-- The console: port 0, 115200 baud, 8N1, default pins, `\n` sent as `\r\n`. -/
def console : UartParams :=
  ⟨0, 115200, 8, .none, .one, .none, none, none, .crLf⟩

/-- The radio link: the console's settings on port 1, TX on pin 2, RX on pin 5. -/
def radioLink : UartParams :=
  { console with port := 1, txPin := some 2, rxPin := some 5 }

end UartParams

end ThreadPlatform
