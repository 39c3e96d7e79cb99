import ThreadPlatform.Config.Platform
import ThreadPlatform.Text.GraphemeExtend

/-!
# The configuration format

A configuration is written as JSON in a fixed format, described here as
`Shape`s: unsigned integers of a given width, strings, optional integers,
choices among names, and the four records `PlatformConfig`, `UartConfig`,
`FlashConfig` and `Duration`. Reading a document against a shape gives a
`Datum`, which `PlatformParams.ofDatum` turns into the configuration.

A record may be written as an object or as an array of its fields in order.
`PlatformConfig` takes the default for every field it lacks; the other records
need every field except optional ones. `Duration` refuses fields it does not
know, the others skip them. A duration's nanoseconds carry into its seconds,
which must not overflow 64 bits.

The failures are worded as the format's readers word them, so that the text
of a failure is part of the format: what was found (`Unexpected`) against what
was expected.
-/

namespace ThreadPlatform.Config

/-- An unsigned integer type: its name and its largest value. -/
structure Width where
  name : String
  max : Nat
  deriving DecidableEq, Repr

/-- 8, 32 and 64 bits, and the size type. -/
def w8 : Width := ⟨"u8", 255⟩
def w32 : Width := ⟨"u32", 4294967295⟩
def w64 : Width := ⟨"u64", 18446744073709551615⟩
def wSize : Width := ⟨"usize", 18446744073709551615⟩

/-- The records of the format. -/
inductive RecordKind where
  | platform
  | uart
  | flash
  | duration
  deriving DecidableEq, Repr

/-- What a value of the format must look like. -/
inductive Shape where
  | uint (w : Width)
  | text
  | optional (w : Width)
  | choice (names : List String)
  | record (r : RecordKind)
  deriving DecidableEq, Repr

namespace RecordKind

/-- The record's name. -/
def name : RecordKind → String
  | .platform => "PlatformConfig"
  | .uart => "UartConfig"
  | .flash => "FlashConfig"
  | .duration => "Duration"

/-- The record's fields in order. -/
def fields : RecordKind → List (String × Shape)
  | .platform =>
    [("cli_uart", .record .uart), ("radio_uart", .record .uart), ("uart_rx_buffer_size", .uint wSize),
      ("uart_tx_fifo_size", .uint wSize), ("radio_max_wait", .record .duration),
      ("mainloop_timeout", .record .duration), ("flash", .record .flash)]
  | .uart =>
    [("port", .uint w8), ("baud_rate", .uint w32), ("data_bits", .uint w8),
      ("parity", .choice ["None", "Even", "Odd"]), ("stop_bits", .choice ["One", "OneAndHalf", "Two"]),
      ("flow_control", .choice ["None", "RtsCts"]), ("tx_pin", .optional w8), ("rx_pin", .optional w8),
      ("tx_line_endings", .choice ["Lf", "CrLf"])]
  | .flash => [("partition", .text), ("page_num", .uint w32), ("page_size", .uint w32)]
  | .duration => [("secs", .uint w64), ("nanos", .uint w32)]

/-- Whether missing fields take the defaults. -/
def defaulted : RecordKind → Bool
  | .platform => true
  | _ => false

/-- Whether fields the record does not know are refused. -/
def closed : RecordKind → Bool
  | .duration => true
  | _ => false

/-- What the record is expected as when written as a too short array. -/
def seqExpecting (r : RecordKind) : String :=
  match r with
  | .duration => "struct Duration"
  | r => s!"struct {r.name} with {r.fields.length} elements"

end RecordKind

/-- What a reader of the shape expects. -/
def Shape.expecting : Shape → String
  | .uint w => w.name
  | .text => "a string"
  | .optional w => w.name
  | .choice _ => "variant identifier"
  | .record r => s!"struct {r.name}"

/-- A value read against a shape. -/
inductive Datum where
  | nat (n : Nat)
  | text (s : String)
  | absent
  | choice (index : Nat)
  | record (fields : List (Option Datum))
  deriving Repr, Inhabited

/-- What a reader found where it expected something else. -/
inductive Unexpected where
  | unit
  | bool (b : Bool)
  | unsigned (n : Nat)
  | signed (n : Int)
  | float (shown : String)
  | str (s : String)
  | seq
  | map
  deriving DecidableEq, Repr

/-- Four hexadecimal digits, lowercase, without leading zeros. -/
def hexDigits (n : Nat) : String := String.ofList (Nat.toDigits 16 n)

/-- A character as it appears inside a quoted debug string: the quote, the
backslash and the common controls by their escapes, grapheme extenders and
characters that are not printable by their code point, all else as itself. -/
def debugChar (c : Char) : String :=
  if c = '"' then "\\\""
  else if c = '\\' then "\\\\"
  else if c = '\n' then "\\n"
  else if c = '\r' then "\\r"
  else if c = '\t' then "\\t"
  else if c.toNat = 0 then "\\0"
  else if Text.isGraphemeExtend c || !Text.isPrintable c then
    "\\u" ++ "\x7b" ++ hexDigits c.toNat ++ "\x7d"
  else String.singleton c

/-- A string quoted with its special characters escaped. -/
def debugString (s : String) : String := "\"" ++ String.join (s.toList.map debugChar) ++ "\""

/-- How a reader names what it found. -/
def Unexpected.describe : Unexpected → String
  | .unit => "null"
  | .bool b => s!"boolean `{b}`"
  | .unsigned n => s!"integer `{n}`"
  | .signed n => s!"integer `{n}`"
  | .float shown => s!"floating point `{shown}`"
  | .str s => "string " ++ debugString s
  | .seq => "sequence"
  | .map => "map"

/-- Names listed as a reader lists what it expected. -/
def oneOf (names : List String) : String :=
  match names with
  | [] => ""
  | [a] => s!"`{a}`"
  | [a, b] => s!"`{a}` or `{b}`"
  | _ => "one of " ++ ", ".intercalate (names.map fun n => s!"`{n}`")

/-- Found a value of the wrong kind. -/
def invalidType (u : Unexpected) (exp : String) : String := s!"invalid type: {u.describe}, expected {exp}"

/-- Found a value of the right kind but out of range. -/
def invalidValue (u : Unexpected) (exp : String) : String := s!"invalid value: {u.describe}, expected {exp}"

/-- Found too few elements. -/
def invalidLength (n : Nat) (exp : String) : String := s!"invalid length {n}, expected {exp}"

/-- A required field is missing. -/
def missingField (f : String) : String := s!"missing field `{f}`"

/-- A field appears twice. -/
def duplicateField (f : String) : String := s!"duplicate field `{f}`"

/-- A field the record does not know. -/
def unknownField (f : String) (expected : List String) : String :=
  if expected.isEmpty then s!"unknown field `{f}`, there are no fields"
  else s!"unknown field `{f}`, expected {oneOf expected}"

/-- A name that is none of the choices. -/
def unknownVariant (v : String) (expected : List String) : String :=
  if expected.isEmpty then s!"unknown variant `{v}`, there are no variants"
  else s!"unknown variant `{v}`, expected {oneOf expected}"

/-- A duration whose nanoseconds carry it past 64 bits of seconds. -/
def durationOverflow : String := "overflow deserializing Duration"

/-- The largest 64-bit value. -/
def max64 : Nat := 18446744073709551615

/-- What a reader of the shape makes of a non-negative integer. -/
def visitUnsigned (s : Shape) (n : Nat) : Except String Datum :=
  match s with
  | .uint w | .optional w =>
    if n ≤ w.max then .ok (.nat n) else .error (invalidValue (.unsigned n) w.name)
  | other => .error (invalidType (.unsigned n) other.expecting)

/-- What a reader of the shape makes of a negative integer. -/
def visitSigned (s : Shape) (n : Int) : Except String Datum :=
  match s with
  | .uint w | .optional w =>
    if 0 ≤ n ∧ n.toNat ≤ w.max then .ok (.nat n.toNat) else .error (invalidValue (.signed n) w.name)
  | other => .error (invalidType (.signed n) other.expecting)

/-- What a reader of the shape makes of a string. -/
def visitStr (s : Shape) (str : String) : Except String Datum :=
  match s with
  | .text => .ok (.text str)
  | other => .error (invalidType (.str str) other.expecting)

/-- The choice a name makes. -/
def visitVariant (names : List String) (v : String) : Except String Datum :=
  match names.idxOf? v with
  | some i => .ok (.choice i)
  | none => .error (unknownVariant v names)

/-- Checks that a duration's seconds do not overflow once its nanoseconds carry. -/
def checkDuration (secs nanos : Nat) : Except String Unit :=
  if secs + nanos / 1000000000 ≤ max64 then .ok () else .error durationOverflow

/-- The fields of a record read so far, by position. -/
def fieldSlots (r : RecordKind) : List (Option Datum) := r.fields.map fun _ => none

/-- After all fields are read: the first missing required field, in field order. -/
def missingCheck (r : RecordKind) (slots : List (Option Datum)) : Except String (List (Option Datum)) :=
  if r.defaulted then .ok slots
  else
    let rec go : List (String × Shape) → List (Option Datum) → Except String (List (Option Datum))
      | (_, .optional _) :: fs, none :: ss => do return some .absent :: (← go fs ss)
      | (n, _) :: _, none :: _ => .error (missingField n)
      | _ :: fs, some d :: ss => do return some d :: (← go fs ss)
      | _, _ => .ok []
    go r.fields slots

/-- A duration's checks once both fields are read. -/
def finishRecord (r : RecordKind) (slots : List (Option Datum)) : Except String Datum := do
  let slots ← missingCheck r slots
  if r = .duration then
    match slots with
    | [some (.nat secs), some (.nat nanos)] => checkDuration secs nanos
    | _ => pure ()
  return .record slots

/-- The natural number a datum holds, or `dflt`. -/
def Datum.natOr (d : Option Datum) (dflt : Nat) : Nat :=
  match d with
  | some (.nat n) => n
  | _ => dflt

/-- The string a datum holds, or `dflt`. -/
def Datum.textOr (d : Option Datum) (dflt : String) : String :=
  match d with
  | some (.text s) => s
  | _ => dflt

/-- The choice a datum holds, or `dflt`. -/
def Datum.choiceOr (d : Option Datum) (dflt : Nat) : Nat :=
  match d with
  | some (.choice i) => i
  | _ => dflt

/-- The optional number a datum holds. -/
def Datum.optNat (d : Option Datum) : Option Nat :=
  match d with
  | some (.nat n) => some n
  | _ => none

/-- The fields of a record datum. -/
def Datum.fieldsOf (d : Option Datum) : List (Option Datum) :=
  match d with
  | some (.record fs) => fs
  | _ => []

/-- A span from a duration datum, or `dflt`. -/
def spanOf (d : Option Datum) (dflt : Span) : Span :=
  match d with
  | some (.record [secs, nanos]) => Span.ofSecsNanos (Datum.natOr secs 0) (Datum.natOr nanos 0)
  | _ => dflt

/-- UART settings from a record datum, or `dflt`. -/
def uartOf (d : Option Datum) (dflt : UartParams) : UartParams :=
  match d with
  | some (.record [port, baud, bits, parity, stop, flow, tx, rx, le]) =>
    ⟨Datum.natOr port 0, Datum.natOr baud 0, Datum.natOr bits 0,
      [Parity.none, .even, .odd].getD (Datum.choiceOr parity 0) .none,
      [StopBits.one, .oneAndHalf, .two].getD (Datum.choiceOr stop 0) .one,
      [FlowControl.none, .rtsCts].getD (Datum.choiceOr flow 0) .none,
      Datum.optNat tx, Datum.optNat rx,
      [LineEndings.lf, .crLf].getD (Datum.choiceOr le 0) .crLf⟩
  | _ => dflt

/-- A flash layout from a record datum, or `dflt`. -/
def flashOf (d : Option Datum) (dflt : FlashLayout) : FlashLayout :=
  match d with
  | some (.record [part, num, size]) => ⟨Datum.textOr part "", Datum.natOr num 0, Datum.natOr size 0⟩
  | _ => dflt

/-- The configuration a `PlatformConfig` datum describes; missing fields keep the defaults. -/
def PlatformParams.ofDatum (d : Datum) : PlatformParams :=
  let std := PlatformParams.standard
  match d with
  | .record [cli, radio, rxs, txs, wait, timeout, flash] =>
    ⟨uartOf cli std.console, uartOf radio std.radio, Datum.natOr rxs std.rxBufferSize,
      Datum.natOr txs std.txFifoSize, spanOf wait std.radioMaxWait,
      spanOf timeout std.mainloopTimeout, flashOf flash std.flash⟩
  | _ => std

end ThreadPlatform.Config
