/-!
# Descriptors and descriptor sets

A descriptor (`Fd`) names an open device; there are sixty-four of them,
`fd0` to `fd63`. Descriptor 8 is reserved for the mainloop's wake event
(`Fd.isReserved`).

An `FdSet` is a set of descriptors held as a 64-bit mask, bit `n` for `fdn`.
Its members in ascending order are `toList`; each operation is the set
operation of the same name on that view.

An iteration over a set (`FdSetIter`) keeps the members not yet yielded as a
mask. Each step yields the mask's trailing zero count as a descriptor and
clears that lowest set bit with `bits &&& (bits - 1)`, until the mask is zero.
-/

namespace ThreadPlatform

/-- Number of descriptors. -/
def fdSetSize : Nat := 64

/-- A descriptor number below 64. -/
structure Fd where
  raw : Fin 64
  deriving DecidableEq, Repr

namespace Fd

/-- The descriptor numbered `raw`, if it is below 64. -/
def ofNat? (raw : Nat) : Option Fd :=
  if h : raw < 64 then some ⟨⟨raw, h⟩⟩ else none

/-- The descriptor's number. -/
def toNat (fd : Fd) : Nat := fd.raw.val

/-- The first reserved descriptor, where the wake event lives. -/
def reservedMin : Fd := ⟨⟨8, by decide⟩⟩

/-- Descriptors from 8 up to, but not including, 9 are reserved. -/
def isReserved (fd : Fd) : Bool :=
  8 ≤ fd.toNat && fd.toNat < 9

/-- How a descriptor is written in messages. -/
def display (fd : Fd) : String := s!"fd{fd.toNat}"

instance : LT Fd := ⟨fun a b => a.toNat < b.toNat⟩

instance (a b : Fd) : Decidable (a < b) := inferInstanceAs (Decidable (a.toNat < b.toNat))

theorem ofNat?_toNat (fd : Fd) : ofNat? fd.toNat = some fd := by
  simp [ofNat?, toNat, fd.raw.isLt]

end Fd

/-- A set of descriptors as a 64-bit mask. -/
structure FdSet where
  bits : UInt64
  deriving DecidableEq, Repr

namespace FdSet

/-- No descriptor. -/
def empty : FdSet := ⟨0⟩

/-- The mask with only `fd`'s bit. -/
def bit (fd : Fd) : UInt64 := (1 : UInt64) <<< fd.toNat.toUInt64

/-- Whether `fd` is a member. -/
def contains (s : FdSet) (fd : Fd) : Bool := s.bits &&& bit fd != 0

/-- Add `fd`. -/
def insert (s : FdSet) (fd : Fd) : FdSet := ⟨s.bits ||| bit fd⟩

/-- Remove `fd`. -/
def erase (s : FdSet) (fd : Fd) : FdSet := ⟨s.bits &&& ~~~(bit fd)⟩

/-- Members of either set. -/
def union (s t : FdSet) : FdSet := ⟨s.bits ||| t.bits⟩

/-- Members of both sets. -/
def inter (s t : FdSet) : FdSet := ⟨s.bits &&& t.bits⟩

/-- Whether the set has no member. -/
def isEmpty (s : FdSet) : Bool := s.bits == 0

/-- Every descriptor, in ascending order. -/
def allFds : List Fd := (List.finRange 64).map Fd.mk

/-- The members in ascending order. -/
def toList (s : FdSet) : List Fd := allFds.filter s.contains

/-- Number of members. -/
def size (s : FdSet) : Nat := s.toList.length

/-- The set of the listed descriptors. -/
def ofList (fds : List Fd) : FdSet := fds.foldl insert empty

end FdSet

/-- What an iteration over a descriptor set has yet to yield, as a mask. -/
structure FdSetIter where
  bits : UInt64
  deriving DecidableEq, Repr

/-- An iteration over the members of `s`. -/
def FdSet.iter (s : FdSet) : FdSetIter := ⟨s.bits⟩

namespace FdSetIter

/-- A mask with a set bit has fewer than 64 trailing zeros. -/
theorem ctz_lt {b : UInt64} (h : b ≠ 0) : b.toBitVec.ctz.toNat < 64 := by
  have hb : b.toBitVec ≠ 0#64 := fun h0 => h (UInt64.toBitVec_inj.1 h0)
  have hlt := BitVec.ctz_lt_iff_ne_zero.2 hb
  rw [BitVec.lt_def] at hlt
  simpa using hlt

/-- The lowest member left, named by the mask's trailing zero count, and the
iteration with that bit cleared; nothing once the mask is zero. -/
def next (it : FdSetIter) : Option (Fd × FdSetIter) :=
  if h : it.bits = 0 then none
  else some (⟨⟨it.bits.toBitVec.ctz.toNat, ctz_lt h⟩⟩, ⟨it.bits &&& (it.bits - 1)⟩)

/-- A step leaves a smaller mask: `bits &&& (bits - 1)` is at most `bits - 1`. -/
theorem bits_lt_of_next {it rest : FdSetIter} {fd : Fd} (h : it.next = some (fd, rest)) :
    rest.bits.toNat < it.bits.toNat := by
  unfold next at h
  split at h
  · cases h
  · next hb =>
    simp only [Option.some.injEq, Prod.mk.injEq] at h
    obtain ⟨-, rfl⟩ := h
    have hpos : 0 < it.bits.toNat := by
      have : it.bits.toNat ≠ 0 := fun h0 => hb (UInt64.toNat_inj.1 h0)
      omega
    have hone : (1 : UInt64) ≤ it.bits := UInt64.le_iff_toNat_le.2 (by simp; omega)
    show (it.bits &&& (it.bits - 1)).toNat < it.bits.toNat
    rw [UInt64.toNat_and, UInt64.toNat_sub_of_le _ _ hone]
    calc _ ≤ it.bits.toNat - (1 : UInt64).toNat := Nat.and_le_right
      _ < it.bits.toNat := by simp; omega

/-- Everything the iteration yields, in the order it yields it. -/
def toList (it : FdSetIter) : List Fd :=
  match h : it.next with
  | none => []
  | some (fd, rest) =>
    have := bits_lt_of_next h
    fd :: rest.toList
termination_by it.bits.toNat

end FdSetIter

end ThreadPlatform
