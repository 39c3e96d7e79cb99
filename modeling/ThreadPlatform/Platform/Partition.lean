import ThreadPlatform.Hex

/-!
# Flash partitions

A `RamPartition` is a labelled flash region held in memory with the semantics
of NOR flash: it starts erased (every byte `0xFF`), programming can only clear
bits (`write` ands the data into the cells), and only `erase` sets them again,
in whole sectors of 4096 bytes.

An access must lie inside the partition; an erase must also start and end on a
sector boundary, which is checked first.
-/

namespace ThreadPlatform

/-- Bytes per erase sector. -/
def sectorSize : Nat := 4096

/-- Failures of a flash access. -/
inductive FlashError where
  | outOfRange (offset len : Nat)
  | misaligned (offset len : Nat)
  deriving DecidableEq, Repr

/-- A number as `0x` and lowercase hexadecimal digits. -/
def hexNumber (n : Nat) : String :=
  "0x" ++ String.ofList (Nat.toDigits 16 n)

namespace FlashError

/-- The name of the failure. -/
def kind : FlashError → String
  | .outOfRange _ _ => "OutOfRange"
  | .misaligned _ _ => "Misaligned"

/-- The message of the failure. -/
def message : FlashError → String
  | .outOfRange offset len => s!"access of {len} bytes at {hexNumber offset} is out of range"
  | .misaligned offset len => s!"erase range {hexNumber offset}+{hexNumber len} is not sector aligned"

end FlashError

/-- A labelled flash region in memory. -/
structure RamPartition where
  label : String
  size : Nat
  cell : Nat → UInt8

namespace RamPartition

/-- An erased partition. -/
def new (label : String) (size : Nat) : RamPartition := ⟨label, size, fun _ => 0xFF⟩

/-- The access of `len` bytes at `offset`, if it lies inside the partition. -/
def checkRange (p : RamPartition) (offset len : Nat) : Except FlashError Unit :=
  if offset + len ≤ p.size then .ok () else .error (.outOfRange offset (len % 4294967296))

/-- `len` bytes from `offset`. -/
def read (p : RamPartition) (offset len : Nat) : Except FlashError (List UInt8) := do
  p.checkRange offset len
  return (List.range len).map fun i => p.cell (offset + i)

/-- Programs `data` at `offset`: each cell keeps only the bits set in both. -/
def write (p : RamPartition) (offset : Nat) (data : List UInt8) : Except FlashError RamPartition := do
  p.checkRange offset data.length
  let cell (a : Nat) : UInt8 :=
    if offset ≤ a ∧ a < offset + data.length then p.cell a &&& data.getD (a - offset) 0xFF
    else p.cell a
  return { p with cell := cell }

/-- Erases whole sectors back to `0xFF`. -/
def erase (p : RamPartition) (offset len : Nat) : Except FlashError RamPartition := do
  if offset % sectorSize ≠ 0 ∨ len % sectorSize ≠ 0 then throw (.misaligned offset len)
  p.checkRange offset len
  let cell (a : Nat) : UInt8 := if offset ≤ a ∧ a < offset + len then 0xFF else p.cell a
  return { p with cell := cell }

theorem read_new (label : String) (size offset len : Nat) (h : offset + len ≤ size) :
    (new label size).read offset len = .ok (List.replicate len 0xFF) := by
  simp [read, checkRange, new, h, List.map_const'] <;> rfl

end RamPartition

end ThreadPlatform
