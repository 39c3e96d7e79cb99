import ThreadPlatform.Config.Platform
import ThreadPlatform.Json.Value

/-!
# Writing the configuration format

A configuration written back as JSON in the format it is read in: records as
objects, durations as whole seconds and the nanoseconds beyond them, choices
by name, absent pins as `null`.
-/

namespace ThreadPlatform.Config

/-- A span as a duration record. -/
def spanJson (s : Span) : Json :=
  .obj [("secs", .nat s.secs), ("nanos", .nat s.subsecNanos)]

/-- UART settings as a record. -/
def uartJson (u : UartParams) : Json :=
  .obj [("port", .nat u.port), ("baud_rate", .nat u.baudRate), ("data_bits", .nat u.dataBits),
    ("parity", .str u.parity.name), ("stop_bits", .str u.stopBits.name),
    ("flow_control", .str u.flowControl.name), ("tx_pin", .optNat u.txPin),
    ("rx_pin", .optNat u.rxPin), ("tx_line_endings", .str u.lineEndings.name)]

/-- A flash layout as a record. -/
def flashJson (f : FlashLayout) : Json :=
  .obj [("partition", .str f.partition), ("page_num", .nat f.pageNum), ("page_size", .nat f.pageSize)]

/-- A configuration as a record. -/
def platformJson (p : PlatformParams) : Json :=
  .obj [("cli_uart", uartJson p.console), ("radio_uart", uartJson p.radio),
    ("uart_rx_buffer_size", .nat p.rxBufferSize), ("uart_tx_fifo_size", .nat p.txFifoSize),
    ("radio_max_wait", spanJson p.radioMaxWait), ("mainloop_timeout", spanJson p.mainloopTimeout),
    ("flash", flashJson p.flash)]

end ThreadPlatform.Config
