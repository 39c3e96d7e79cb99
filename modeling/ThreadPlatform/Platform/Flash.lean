import ThreadPlatform.Config.Flash
import ThreadPlatform.Platform.Partition
import ThreadPlatform.Platform.Error
import ThreadPlatform.Status
import ThreadPlatform.Log

/-!
# Flash swap pages

`Flash` gives the stack two swap pages inside the partition its layout names:
swap index 0 is the first page, any other index the second. Every access must
stay within one page, which is checked before the partition is touched; a
failure of the partition itself becomes `ThreadError.failed` and is logged.
Page addresses are 32-bit: an access whose page start plus offset passes
`2 ^ 32 - 1` stops the program rather than wrapping around.
-/

namespace ThreadPlatform

/-- Why a flash access failed: refused before reaching the partition, or by it. -/
inductive FlashFault where
  | status (e : ThreadError)
  | partition (op : String) (e : FlashError)
  /-- The address does not fit in 32 bits: the program stops. -/
  | addressOverflow
  deriving DecidableEq, Repr

namespace FlashFault

/-- The error code the stack sees. -/
def toStatus : FlashFault → ThreadError
  | .status e => e
  | .partition _ _ => .failed
  | .addressOverflow => .failed

/-- The record a partition failure writes. -/
def note : FlashFault → Option LogRecord
  | .status _ => none
  | .addressOverflow => none
  | .partition op e => some ⟨.error, s!"flash {op} failed: {e.message}"⟩

end FlashFault

/-- The swap pages, and the partition they live in once found. -/
structure Flash where
  layout : FlashLayout
  partition : Option Nat
  deriving DecidableEq, Repr

namespace Flash

/-- Swap pages not yet placed. -/
def new (layout : FlashLayout) : Flash := ⟨layout, none⟩

/-- Finds the partition with the layout's label and checks that the swap region fits. -/
def init (f : Flash) (parts : Array RamPartition) : Except BringUpError Flash :=
  let label := f.layout.partition
  match parts.findIdx? (·.label == label) with
  | none => .error (.partitionNotFound label)
  | some i =>
    match parts[i]? with
    | none => .error (.partitionNotFound label)
    | some p =>
      if p.size < f.layout.swapSize then .error (.partitionTooSmall label p.size f.layout.swapSize)
      else .ok { f with partition := some i }

/-- Lets go of the partition. -/
def deinit (f : Flash) : Flash := { f with partition := none }

/-- The partition, and the address of `offset` in swap page `index`, for an access of `len` bytes. -/
def locate (f : Flash) (parts : Array RamPartition) (index offset len : Nat) :
    Except FlashFault (Nat × RamPartition × Nat) :=
  match f.partition with
  | none => .error (.status .invalidState)
  | some i =>
    match parts[i]? with
    | none => .error (.status .invalidState)
    | some p =>
      if f.layout.pageSize < offset + len then .error (.status .invalidArgs)
      else
        let page := if index = 0 then 0 else f.layout.pageSize
        if 4294967296 ≤ page + offset then .error .addressOverflow
        else .ok (i, p, page + offset)

/-- `len` bytes from `offset` in swap page `index`. -/
def read (f : Flash) (parts : Array RamPartition) (index offset len : Nat) :
    Except FlashFault (List UInt8) := do
  let (_, p, address) ← f.locate parts index offset len
  (p.read address len).mapError (.partition "read")

/-- Programs `data` at `offset` in swap page `index`. -/
def write (f : Flash) (parts : Array RamPartition) (index offset : Nat) (data : List UInt8) :
    Except FlashFault (Array RamPartition) := do
  let (i, p, address) ← f.locate parts index offset data.length
  let p' ← (p.write address data).mapError (.partition "write")
  return parts.set! i p'

/-- Erases swap page `index`. -/
def erase (f : Flash) (parts : Array RamPartition) (index : Nat) :
    Except FlashFault (Array RamPartition) := do
  let (i, p, address) ← f.locate parts index 0 0
  let p' ← (p.erase address f.layout.pageSize).mapError (.partition "erase")
  return parts.set! i p'

end Flash

end ThreadPlatform
