import ThreadPlatform.Json.Value
import ThreadPlatform.Hex

/-!
# Reading bench requests

A bench request is a JSON object naming an operation and its arguments. This
module reads arguments: whole numbers with the range of the parameter they feed,
strings, flags, octet strings, and step lists. Anything that does not fit is a
`BenchError`, which the bench answers as an error object of its own kind:
`bad_input` for malformed requests, `InvalidFd` for a descriptor number of 64 or
more, and `no_platform` for a platform step while no platform exists.

Whole numbers must be unsigned; a negative or fractional one is refused like
a string. Flags are lenient: anything but `true` or `false` leaves the
default. Some strings are lenient the same way, others refused when not
strings.

Octet strings come as `data` (hexadecimal, even length, each pair read as an
unsigned octet, a leading `+` allowed) or as `text` (its UTF-8 encoding);
`text` wins when it is a string, and neither means empty; a `data` of another
kind is refused.
-/

namespace ThreadPlatform.Bench

/-- Why the bench cannot run a request or a step. -/
inductive BenchError where
  | badInput (message : String)
  | invalidFd (raw : Nat)
  | noPlatform
  deriving Repr

namespace BenchError

/-- The error object answered for it. -/
def toJson : BenchError → Json
  | .badInput m => .obj [("error", .str "bad_input"), ("message", .str m)]
  | .invalidFd raw => .obj [("error", .str "InvalidFd"), ("message", .str s!"descriptor {raw} out of range")]
  | .noPlatform => .obj [("error", .str "no_platform"), ("message", .str "platform is not up")]

end BenchError

/-- Reading arguments may fail with a bench error. -/
abbrev Read := Except BenchError

/-- Refuse the request with a message. -/
def bad {α : Type} (message : String) : Read α :=
  .error (.badInput message)

/-- The largest values of the fixed-width parameters. -/
def u8Max : Nat := 255
def u16Max : Nat := 65535
def u32Max : Nat := 4294967295
def u64Max : Nat := 18446744073709551615

/-- An optional whole number no larger than `max`. -/
def optNat (req : Json) (key : String) (max : Nat) : Read (Option Nat) :=
  match req.get? key with
  | none => .ok none
  | some .null => .ok none
  | some (.int n) =>
    if n < 0 then bad s!"field '{key}' must be an unsigned integer"
    else if n.toNat ≤ max then .ok (some n.toNat)
    else bad s!"field '{key}' out of range"
  | some _ => bad s!"field '{key}' must be an unsigned integer"

/-- A whole number no larger than `max`, `dflt` when absent. -/
def natOr (req : Json) (key : String) (max : Nat) (dflt : Nat) : Read Nat := do
  return (← optNat req key max).getD dflt

/-- A whole number no larger than `max` that must be present. -/
def needNat (req : Json) (key : String) (max : Nat) : Read Nat := do
  match ← optNat req key max with
  | some n => return n
  | none => bad s!"missing field '{key}'"

/-- An optional string. -/
def optStr (req : Json) (key : String) : Read (Option String) :=
  match req.get? key with
  | none => .ok none
  | some .null => .ok none
  | some (.str s) => .ok (some s)
  | some _ => bad s!"field '{key}' must be a string"

/-- An optional string; anything else counts as absent. -/
def strOr? (req : Json) (key : String) : Option String :=
  match req.get? key with
  | some (.str s) => some s
  | _ => none

/-- An optional string; when present, even as null, it must be a string. -/
def strictStr (req : Json) (key : String) : Read (Option String) :=
  match req.get? key with
  | none => .ok none
  | some (.str s) => .ok (some s)
  | some _ => bad s!"field '{key}' must be a string"

/-- A string that must be present. -/
def needStr (req : Json) (key : String) : Read String := do
  match ← optStr req key with
  | some s => return s
  | none => bad s!"missing field '{key}'"

/-- A flag, `dflt` when absent or not a flag. -/
def boolOr (req : Json) (key : String) (dflt : Bool) : Read Bool :=
  match req.get? key with
  | some (.bool b) => .ok b
  | _ => .ok dflt

/-- The octet two bytes of text write in hexadecimal, a leading `+` allowed.
A byte outside ASCII is never a digit, so a pair that splits a wider
character is refused. -/
def hexPair (a b : UInt8) : Option UInt8 :=
  if a == 43 then Hex.digitValue? b
  else do return (← Hex.digitValue? a) * 16 + (← Hex.digitValue? b)

/-- Octets written as hexadecimal, two bytes of the text's UTF-8 per octet. -/
def hexOctets (s : String) : Read (List UInt8) :=
  let rec go : List UInt8 → Option (List UInt8)
    | a :: b :: rest => do return (← hexPair a b) :: (← go rest)
    | _ => some []
  if s.utf8ByteSize % 2 ≠ 0 then bad "odd hex length"
  else
    match go s.toUTF8.toList with
    | some bytes => .ok bytes
    | none => bad s!"bad hex '{s}'"

/-- The octets of a request: `text` as UTF-8 if it is a string, else `data` in
hexadecimal, else none. A `data` that is neither text nor null is refused. -/
def octets (req : Json) : Read (List UInt8) := do
  match strOr? req "text" with
  | some t => return t.toUTF8.toList
  | none =>
    match req.get? "data" with
    | none | some .null => return []
    | some (.str d) => hexOctets d
    | some _ => bad "field 'data' must be a hex string"

/-- The step list of a request. -/
def steps (req : Json) : Read (List Json) :=
  match req.get? "ops" with
  | none => bad "missing field 'ops'"
  | some (.arr items) => .ok items
  | some _ => bad "'ops' must be an array"

/-- The operation a request or a step names. -/
def opName (req : Json) : Read String := do
  match req.get? "op" with
  | some (.str s) => return s
  | some _ => bad "field 'op' must be a string"
  | none => bad "missing field 'op'"

/-- The answer for a read that may have failed. -/
def answer (r : Read Json) : Json :=
  match r with
  | .ok j => j
  | .error e => e.toJson

/-- An error object of the given kind. -/
def errorJson (kind message : String) : Json :=
  .obj [("error", .str kind), ("message", .str message)]

/-- The object `{"ok": true}`. -/
def okJson : Json := .obj [("ok", .bool true)]

/-- Octets as lowercase hexadecimal text. -/
def hexJson (bytes : List UInt8) : Json := .str (Hex.encode bytes)

/-- Add a member to an object answer; other answers stay as they are. -/
def withMember (j : Json) (key : String) (v : Json) : Json :=
  match j with
  | .obj members => .obj (members ++ [(key, v)])
  | other => other

/-- Run a step list over a state that logs nothing: each step answers on its
own, a step that cannot be read answers its error and leaves the state alone. -/
def runSteps {σ : Type} (req : Json) (init : σ) (step : σ → String → Json → Read (Json × σ)) : Json :=
  answer do
    let items ← steps req
    let next (acc : σ × List Json) (item : Json) : σ × List Json :=
      match (do step acc.1 (← opName item) item : Read (Json × σ)) with
      | .ok (j, st') => (st', acc.2 ++ [j])
      | .error e => (acc.1, acc.2 ++ [e.toJson])
    let (_, out) := items.foldl next (init, [])
    return .obj [("steps", .arr out)]

end ThreadPlatform.Bench
