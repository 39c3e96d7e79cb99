import ThreadPlatform.Config.Uart
import ThreadPlatform.Config.Flash
import ThreadPlatform.Core.Span

/-!
# Platform configuration

`PlatformParams` is everything the platform needs to come up: the console and
radio UARTs, the sizes of the UART queues (shared by both), how long a blocked
radio or console write may wait, the mainloop's longest wait, and the flash
layout. `validate` names the first setting that cannot work, checking in a
fixed order: distinct UART ports, a receive ring, room for an expanded
`\r\n` in the transmit FIFO, and a non-empty swap region with a label.
-/

namespace ThreadPlatform

/-- A configuration that cannot work. -/
inductive ConfigError where
  | sharedUartPort (port : Nat)
  | zero (name : String)
  | tooSmall (name : String) (min : Nat)
  | emptyPartitionLabel
  deriving DecidableEq, Repr

namespace ConfigError

/-- The name of the failure. -/
def kind : ConfigError → String
  | .sharedUartPort _ => "SharedUartPort"
  | .zero _ => "Zero"
  | .tooSmall _ _ => "TooSmall"
  | .emptyPartitionLabel => "EmptyPartitionLabel"

/-- The message of the failure. -/
def message : ConfigError → String
  | .sharedUartPort port => s!"CLI and radio both use UART{port}"
  | .zero name => s!"{name} must be non-zero"
  | .tooSmall name min => s!"{name} must be at least {min}"
  | .emptyPartitionLabel => "flash partition label is empty"

end ConfigError

/-- Everything the platform needs to come up. -/
structure PlatformParams where
  console : UartParams
  radio : UartParams
  rxBufferSize : Nat
  txFifoSize : Nat
  radioMaxWait : Span
  mainloopTimeout : Span
  flash : FlashLayout
  deriving DecidableEq, Repr, Inhabited

namespace PlatformParams

/-- Depth of the UART hardware FIFO. -/
def fifoLen : Nat := 128

/-- The defaults: console and radio presets, a 256-byte ring, a 128-byte FIFO, two seconds
for a blocked write, ten seconds for the mainloop, the standard flash layout. -/
def standard : PlatformParams :=
  ⟨UartParams.console, UartParams.radioLink, 2 * fifoLen, fifoLen, Span.ofMillis 2000,
    Span.ofMillis 10000, FlashLayout.standard⟩

/-- The first setting that cannot work, if any. -/
def validate (p : PlatformParams) : Except ConfigError Unit :=
  if p.console.port = p.radio.port then .error (.sharedUartPort p.console.port)
  else if p.rxBufferSize = 0 then .error (.zero "uart_rx_buffer_size")
  else if p.txFifoSize < 2 then .error (.tooSmall "uart_tx_fifo_size" 2)
  else if p.flash.pageNum = 0 then .error (.zero "flash.page_num")
  else if p.flash.pageSize = 0 then .error (.zero "flash.page_size")
  else if p.flash.partition = "" then .error .emptyPartitionLabel
  else .ok ()

theorem validate_standard : standard.validate = .ok () := rfl

end PlatformParams

end ThreadPlatform
