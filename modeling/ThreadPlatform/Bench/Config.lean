import ThreadPlatform.Bench.Answers
import ThreadPlatform.Config.Read
import ThreadPlatform.Config.Tree
import ThreadPlatform.Config.Write

/-!
# Bench: the configuration format

`config` reads a document given as text; `config_builder` starts from the
defaults and applies builder calls in order. Both answer the configuration
written back and whether it validates; a document that cannot be read answers
the reader's failure.
-/

namespace ThreadPlatform.Bench

namespace ConfigBench

/-- A reader failure as an error object. -/
def readFailureJson (message : String) : Json := errorJson "serde" message

/-- Whether a configuration validates, as the bench shows it. -/
def validJson (p : PlatformParams) : Json :=
  match p.validate with
  | .ok () => .bool true
  | .error e => configErrorJson e

/-- `config`: a configuration document read from text. -/
def fromText (req : Json) : Json := answer do
  let text ← needStr req "json"
  match Config.Text.readPlatform text with
  | .error f => return readFailureJson f.render
  | .ok p =>
    if p.flash.swapOverflows then return errorJson "fatal" multiplyOverflow
    return .obj [("config", Config.platformJson p), ("swap_size", .nat p.flash.swapSize),
      ("valid", validJson p)]

/-- Why a builder call cannot be made: the request is malformed, or a value cannot be read. -/
inductive BuildStop where
  | bench (e : BenchError)
  | reader (message : String)

/-- Applies one builder call. -/
def builderCall (p : PlatformParams) (call : Json) : Except BuildStop PlatformParams := do
  let lift {α : Type} (r : Read α) : Except BuildStop α := r.mapError .bench
  -- an absent value reads as null
  let uart : Except BuildStop UartParams :=
    (Config.Tree.treeUart ((call.get? "value").getD .null)).mapError .reader
  match ← lift (needStr call "fn") with
  | "cli_uart" => return { p with console := ← uart }
  | "radio_uart" => return { p with radio := ← uart }
  | "uart_buffers" =>
    return { p with rxBufferSize := ← lift (needNat call "rx" u64Max),
                    txFifoSize := ← lift (needNat call "tx" u64Max) }
  | "radio_max_wait" => return { p with radioMaxWait := Span.ofMillis (← lift (needNat call "ms" u64Max)) }
  | "mainloop_timeout" =>
    return { p with mainloopTimeout := Span.ofMillis (← lift (needNat call "ms" u64Max)) }
  | "flash_partition" =>
    return { p with flash := { p.flash with partition := ← lift (needStr call "label") } }
  | "flash_pages" =>
    let num ← lift (needNat call "num" u32Max)
    let size ← lift (needNat call "size" u32Max)
    return { p with flash := { p.flash with pageNum := num, pageSize := size } }
  | other => throw (.bench (.badInput s!"unknown builder call '{other}'"))

/-- `config_builder`: the defaults with builder calls applied in order. -/
def builder (req : Json) : Json :=
  let calls : Read (List Json) :=
    match req.get? "calls" with
    | some (.arr cs) => .ok cs
    | _ => bad "'calls' must be an array"
  match calls with
  | .error e => e.toJson
  | .ok cs =>
    match cs.foldlM builderCall PlatformParams.standard with
    | .ok p => .obj [("config", Config.platformJson p), ("valid", validJson p)]
    | .error (.bench e) => e.toJson
    | .error (.reader m) => readFailureJson m

end ConfigBench

end ThreadPlatform.Bench
