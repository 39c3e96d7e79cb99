import ThreadPlatform.Device.Basic
import ThreadPlatform.Core.Descriptor

/-!
# The descriptor table

The table maps descriptors to devices, named by `DeviceId`. Descriptors 0 to 2
belong to the standard streams, so `place` hands out the lowest free descriptor
from 3 up that is not reserved; `placeReserved` puts a device at a reserved
descriptor (8, the wake event's). A `TableError` names what went wrong.
-/

namespace ThreadPlatform

/-- A device's place among the machine's devices. -/
abbrev DeviceId := Nat

/-- Failures of the descriptor table. -/
inductive TableError where
  | badDescriptor (fd : Fd)
  | inUse (fd : Fd)
  | tableFull
  | device (e : DeviceError)
  deriving DecidableEq, Repr

namespace TableError

/-- The name of the failure; device failures are prefixed with `Device:`. -/
def kind : TableError → String
  | .badDescriptor _ => "BadDescriptor"
  | .inUse _ => "InUse"
  | .tableFull => "TableFull"
  | .device e => "Device:" ++ e.name

/-- The message of the failure. -/
def message : TableError → String
  | .badDescriptor fd => s!"bad descriptor {fd.display}"
  | .inUse fd => s!"descriptor {fd.display} is already in use"
  | .tableFull => "descriptor table is full"
  | .device e => e.message

/-- Interruptions are retried by callers instead of handled. -/
def isInterrupted : TableError → Bool
  | .device .interrupted => true
  | _ => false

end TableError

/-- Which device each descriptor names, if any. -/
structure DescriptorTable where
  slot : Fd → Option DeviceId

namespace DescriptorTable

/-- No descriptor in use. -/
def empty : DescriptorTable := ⟨fun _ => none⟩

/-- The descriptors `place` may hand out, lowest first: 3 to 63 without the reserved one. -/
def dynamic : List Fd :=
  ((List.range 64).filterMap Fd.ofNat?).filter fun fd => 3 ≤ fd.toNat && !fd.isReserved

/-- The table with `fd` naming `dev`. -/
def insert (t : DescriptorTable) (fd : Fd) (dev : DeviceId) : DescriptorTable :=
  ⟨fun g => if g = fd then some dev else t.slot g⟩

/-- The table with `fd` free. -/
def erase (t : DescriptorTable) (fd : Fd) : DescriptorTable :=
  ⟨fun g => if g = fd then none else t.slot g⟩

/-- Whether `fd` names a device. -/
def isOpen (t : DescriptorTable) (fd : Fd) : Bool := (t.slot fd).isSome

/-- The device `fd` names. -/
def lookup (t : DescriptorTable) (fd : Fd) : Except TableError DeviceId :=
  match t.slot fd with
  | some dev => .ok dev
  | none => .error (.badDescriptor fd)

/-- Puts `dev` at the lowest free dynamic descriptor. -/
def place (t : DescriptorTable) (dev : DeviceId) : Except TableError (Fd × DescriptorTable) :=
  match dynamic.find? (fun fd => !t.isOpen fd) with
  | some fd => .ok (fd, t.insert fd dev)
  | none => .error .tableFull

/-- Puts `dev` at the reserved descriptor `fd`. -/
def placeReserved (t : DescriptorTable) (fd : Fd) (dev : DeviceId) :
    Except TableError DescriptorTable :=
  if !fd.isReserved then .error (.badDescriptor fd)
  else if t.isOpen fd then .error (.inUse fd)
  else .ok (t.insert fd dev)

/-- Frees `fd` and returns the device it named. -/
def remove (t : DescriptorTable) (fd : Fd) : Except TableError (DeviceId × DescriptorTable) :=
  match t.slot fd with
  | some dev => .ok (dev, t.erase fd)
  | none => .error (.badDescriptor fd)

theorem lookup_insert (t : DescriptorTable) (fd : Fd) (dev : DeviceId) :
    (t.insert fd dev).lookup fd = .ok dev := by
  simp [lookup, insert]

theorem lookup_erase (t : DescriptorTable) (fd : Fd) :
    (t.erase fd).lookup fd = .error (.badDescriptor fd) := by
  simp [lookup, erase]

theorem place_fresh (t t' : DescriptorTable) (dev : DeviceId) (fd : Fd)
    (h : t.place dev = .ok (fd, t')) : t.isOpen fd = false ∧ t'.lookup fd = .ok dev := by
  unfold place at h
  cases hf : dynamic.find? (fun fd => !t.isOpen fd) with
  | none => simp [hf] at h
  | some g =>
    simp only [hf, Except.ok.injEq, Prod.mk.injEq] at h
    obtain ⟨rfl, rfl⟩ := h
    have := List.find?_some hf
    simp only [Bool.not_eq_eq_eq_not, Bool.not_true] at this
    exact ⟨this, lookup_insert t _ dev⟩

end DescriptorTable

end ThreadPlatform
