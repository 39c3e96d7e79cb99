import ThreadPlatform.Config.Number
import ThreadPlatform.Json.Value

/-!
# Reading the configuration format from a JSON tree

`treePlatform` reads a JSON value already parsed as a tree against the
configuration format. Members of an object are visited in the order of their
keys. Failures carry no place. An array may hold no more elements than the
record has fields.
-/

namespace ThreadPlatform.Config.Tree

/-- A number of a JSON tree as a reader finds it. -/
def numberOf : Json → Option Number
  | .int n =>
    if 0 ≤ n ∧ n.toNat ≤ max64 then some (.unsigned n.toNat)
    else if n < 0 ∧ -9223372036854775808 ≤ n then some (.signed n)
    else some (.float (n < 0) (Binary64.ofNat n.natAbs))
  | .float neg x => some (.float neg x)
  | _ => none

/-- How a reader names a JSON value it did not expect. -/
def unexpected (j : Json) : Unexpected :=
  match j with
  | .null => .unit
  | .bool b => .bool b
  | .str s => .str s
  | .arr _ => .seq
  | .obj _ => .map
  | j => ((numberOf j).map Number.unexpected).getD .unit

/-- A number for a reader of shape `s`. -/
def treeNumber (s : Shape) (j : Json) : Except String Datum :=
  match numberOf j with
  | some n => visitNumber s n
  | none => .error (invalidType (unexpected j) s.expecting)

/-- A choice: its name, or an object with the name as its only key and `null`. -/
def treeChoice (names : List String) (j : Json) : Except String Datum :=
  match j with
  | .str v => visitVariant names v
  | .obj [(v, inner)] => do
    let d ← visitVariant names v
    match inner with
    | .null => return d
    | other => throw (invalidType (unexpected other) "unit")
  | .obj _ => .error (invalidValue .map "map with a single key")
  | other => .error (invalidType (unexpected other) "string or map")

/-- Inserts a member into a list sorted by key. -/
def insertMember (m : String × Json) : List (String × Json) → List (String × Json)
  | [] => [m]
  | x :: xs => if m.1 < x.1 then m :: x :: xs else x :: insertMember m xs

/-- The members of an object in the order of their keys. -/
def sortMembers (ms : List (String × Json)) : List (String × Json) := ms.foldr insertMember []

/-- The members of a record written as an object, into their slots. -/
def treeMembers (r : RecordKind) (field : Shape → Json → Except String Datum) :
    List (Option Datum) → List (String × Json) → Except String (List (Option Datum))
  | slots, [] => .ok slots
  | slots, (k, v) :: rest =>
    match r.fields.findIdx? (·.1 == k) with
    | some i =>
      if (slots.getD i none).isSome then .error (duplicateField k)
      else do
        let d ← field ((r.fields.getD i ("", .text)).2) v
        treeMembers r field (slots.set i (some d)) rest
    | none =>
      if r.closed then .error (unknownField k (r.fields.map (·.1)))
      else treeMembers r field slots rest

/-- The fields of a record written as an array, in order. -/
def treeElements (r : RecordKind) (field : Shape → Json → Except String Datum) :
    List (String × Shape) → Nat → List Json → Except String (List (Option Datum))
  | [], _, _ => .ok []
  | (_, s) :: rest, i, items =>
    match items with
    | v :: more => do return some (← field s v) :: (← treeElements r field rest (i + 1) more)
    | [] =>
      if r.defaulted then do return none :: (← treeElements r field rest (i + 1) [])
      else .error (invalidLength i r.seqExpecting)

/-- A record, as an object or an array. -/
def treeRecord (r : RecordKind) (field : Shape → Json → Except String Datum) (j : Json) :
    Except String Datum :=
  match j with
  | .arr items => do
    let d ← finishRecord r (← treeElements r field r.fields 0 items)
    if r.fields.length < items.length then throw (invalidLength items.length "fewer elements in array")
    return d
  | .obj members => do
    finishRecord r (← treeMembers r field (fieldSlots r) (sortMembers members))
  | other => .error (invalidType (unexpected other) s!"struct {r.name}")

/-- A value of a shape, records nested at most `depth` deep. -/
def treeValue : Nat → Shape → Json → Except String Datum
  | 0, _, _ => .error "recursion limit exceeded"
  | depth + 1, s, j =>
    match s with
    | .uint _ => treeNumber s j
    | .text =>
      match j with
      | .str x => .ok (.text x)
      | other => .error (invalidType (unexpected other) "a string")
    | .optional w =>
      match j with
      | .null => .ok .absent
      | other => treeNumber (.uint w) other
    | .choice names => treeChoice names j
    | .record r => treeRecord r (treeValue depth) j

/-- A configuration from a JSON tree. -/
def treePlatform (j : Json) : Except String PlatformParams :=
  (treeValue 8 (.record .platform) j).map PlatformParams.ofDatum

/-- UART settings from a JSON tree. -/
def treeUart (j : Json) : Except String UartParams :=
  (treeValue 8 (.record .uart) j).map fun d => uartOf (some d) UartParams.console

end ThreadPlatform.Config.Tree
