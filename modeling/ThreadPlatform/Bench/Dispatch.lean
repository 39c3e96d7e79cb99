import ThreadPlatform.Bench.Framing
import ThreadPlatform.Bench.Descriptors
import ThreadPlatform.Bench.Vfs
import ThreadPlatform.Bench.Parts
import ThreadPlatform.Bench.Console
import ThreadPlatform.Bench.Config
import ThreadPlatform.Bench.Platform
import ThreadPlatform.Bench.Runner
import ThreadPlatform.Bench.Cli
import ThreadPlatform.Json.Read

/-!
# Bench: requests by name

`respond` reads the operation a request names and hands the request to the
part of the bench that runs it; `answerLine` does so for a request written as
one line of JSON text and writes the answer the same way.
-/

namespace ThreadPlatform.Bench

/-- The answer to one bench request. -/
def respond (req : Json) : Json :=
  match opName req with
  | .error e => e.toJson
  | .ok op =>
    match op with
    | "fcs" => Framing.fcs req
    | "fcs_update" => Framing.fcsUpdate req
    | "needs_escape" => Framing.escapeQuery req
    | "hdlc_error" => Framing.errorQuery req
    | "ot_error" => Framing.threadErrors
    | "encode_frame" => Framing.frame req
    | "to_hex" => Framing.toHex req
    | "frame_buffer" => Framing.buffer req
    | "encoder" => Framing.encoder req
    | "decoder" => Framing.decoder req
    | "fd_new" => Descriptors.fdNew req
    | "fdset" => Descriptors.fdset req
    | "context" => Descriptors.context req
    | "remaining_millis" => Descriptors.remaining req
    | "micros_to_millis" => Descriptors.millis req
    | "vfs" => Vfs.run req
    | "alarm" => Parts.alarm req
    | "flash" => Parts.flash req
    | "settings" => Parts.settings req
    | "misc" => Parts.misc req
    | "parse_hex" => ConsoleBench.parseHex req
    | "command" => ConsoleBench.command req
    | "host_logger" => ConsoleBench.hostLogger req
    | "monotonic_clock" => ConsoleBench.monotonicClock
    | "config" => ConfigBench.fromText req
    | "config_builder" => ConfigBench.builder req
    | "platform" => PlatformBench.run req
    | "runner" => RunnerBench.run req
    | "host_cli" => CliBench.run req
    | other => (BenchError.badInput s!"unknown op '{other}'").toJson

/-- The answer line to one request line; a line that is not JSON is refused
with the reader's failure and its place. -/
def answerLine (line : String) : String :=
  match Json.read line with
  | .ok req => (respond req).render
  | .error f => (BenchError.badInput s!"invalid JSON: {f.render}").toJson.render

end ThreadPlatform.Bench
