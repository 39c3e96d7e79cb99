import ThreadPlatform.Bench.Answers
import ThreadPlatform.Bench.Board
import ThreadPlatform.Bench.Cli
import ThreadPlatform.Bench.Config
import ThreadPlatform.Bench.Console
import ThreadPlatform.Bench.Descriptors
import ThreadPlatform.Bench.Dispatch
import ThreadPlatform.Bench.Framing
import ThreadPlatform.Bench.Parts
import ThreadPlatform.Bench.Platform
import ThreadPlatform.Bench.Request
import ThreadPlatform.Bench.Runner
import ThreadPlatform.Bench.Session
import ThreadPlatform.Bench.Vfs
import ThreadPlatform.Binary64.Basic
import ThreadPlatform.Binary64.Shortest
import ThreadPlatform.Cli.Launch
import ThreadPlatform.Cli.Options
import ThreadPlatform.Cli.Serve
import ThreadPlatform.Cli.Similarity
import ThreadPlatform.Config.Flash
import ThreadPlatform.Config.Number
import ThreadPlatform.Config.Platform
import ThreadPlatform.Config.Read
import ThreadPlatform.Config.Shape
import ThreadPlatform.Config.Text
import ThreadPlatform.Config.Tree
import ThreadPlatform.Config.Uart
import ThreadPlatform.Config.Write
import ThreadPlatform.Console.Command
import ThreadPlatform.Console.Text
import ThreadPlatform.Core.Descriptor
import ThreadPlatform.Core.Millis
import ThreadPlatform.Core.PollContext
import ThreadPlatform.Core.Span
import ThreadPlatform.Device.Basic
import ThreadPlatform.Device.EventLine
import ThreadPlatform.Device.Table
import ThreadPlatform.Device.Uart
import ThreadPlatform.Hdlc.Basic
import ThreadPlatform.Hdlc.Checksum
import ThreadPlatform.Hdlc.Decoder
import ThreadPlatform.Hdlc.Encoder
import ThreadPlatform.Hdlc.FrameBuffer
import ThreadPlatform.Hex
import ThreadPlatform.Host.Logger
import ThreadPlatform.Host.Shell
import ThreadPlatform.Json.Read
import ThreadPlatform.Json.Value
import ThreadPlatform.Log
import ThreadPlatform.Machine.Basic
import ThreadPlatform.Machine.Devices
import ThreadPlatform.Machine.Interleaving
import ThreadPlatform.Machine.Select
import ThreadPlatform.Machine.Wire
import ThreadPlatform.Main
import ThreadPlatform.Platform.Alarm
import ThreadPlatform.Platform.Board
import ThreadPlatform.Platform.Clock
import ThreadPlatform.Platform.Console
import ThreadPlatform.Platform.Error
import ThreadPlatform.Platform.Flash
import ThreadPlatform.Platform.Lifecycle
import ThreadPlatform.Platform.Mainloop
import ThreadPlatform.Platform.Misc
import ThreadPlatform.Platform.Partition
import ThreadPlatform.Platform.Radio
import ThreadPlatform.Platform.Runner
import ThreadPlatform.Platform.Settings
import ThreadPlatform.Platform.Source
import ThreadPlatform.Proofs.Device.EventLine
import ThreadPlatform.Proofs.Hdlc.AllOrNothing
import ThreadPlatform.Proofs.Hdlc.Corruption
import ThreadPlatform.Proofs.Hdlc.RoundTrip
import ThreadPlatform.Proofs.Hdlc.Segments
import ThreadPlatform.Proofs.Platform.Work
import ThreadPlatform.Proofs.Platform.Iteration
import ThreadPlatform.Proofs.Machine.Ring
import ThreadPlatform.Proofs.Platform.Passes
import ThreadPlatform.Proofs.Platform.Console
import ThreadPlatform.Proofs.Platform.ConsoleInput
import ThreadPlatform.Proofs.Platform.SendDone
import ThreadPlatform.Proofs.Platform.BringUp
import ThreadPlatform.Proofs.Platform.PseudoReset
import ThreadPlatform.Proofs.Platform.DeadlineRange
import ThreadPlatform.Proofs.Hdlc.Truncation
import ThreadPlatform.Proofs.Hdlc.Wire
import ThreadPlatform.Proofs.Machine.Frame
import ThreadPlatform.Proofs.Machine.Wakeup
import ThreadPlatform.Proofs.Machine.SelectOutcome
import ThreadPlatform.Proofs.Machine.Waits
import ThreadPlatform.Proofs.Radio.Link
import ThreadPlatform.Proofs.Radio.Receive
import ThreadPlatform.Proofs.Radio.Transmit
import ThreadPlatform.Proofs.Radio.Send
import ThreadPlatform.Proofs.Device.UartTransmit
import ThreadPlatform.Proofs.Platform.AlarmTiming
import ThreadPlatform.Proofs.Platform.FailedBringUp
import ThreadPlatform.Proofs.Platform.SettingsMultimap
import ThreadPlatform.Proofs.Platform.FlashPages
import ThreadPlatform.Proofs.Platform.FlashLayout
import ThreadPlatform.Proofs.Host.LineAssembly
import ThreadPlatform.Proofs.Device.DescriptorAllocation
import ThreadPlatform.Proofs.Console.HexText
import ThreadPlatform.Proofs.Platform.PollAssembly
import ThreadPlatform.Proofs.Platform.WriteRoom
import ThreadPlatform.Proofs.Host.FrameFlow
import ThreadPlatform.Proofs.Host.FrameReports
import ThreadPlatform.Platform.Wake
import ThreadPlatform.Stack.Minimal
import ThreadPlatform.Stack.Recorder
import ThreadPlatform.Status
import ThreadPlatform.Text.GraphemeExtend
import ThreadPlatform.Text.Printable
