import ThreadPlatform.Proofs.Radio.Link
/-!
# What fills and empties a receive ring

A UART's receive ring fills only through receive calls of the wire side and empties only
through reads. `Uart.Gains u u' X` says that `u'` is reached from `u` by wire steps, line
checks and writes: nothing left the ring, and the receive calls accepted `X`.
`Uart.Feed u u' X D` allows reads as well, which handed out the slices `D`, in order.
`Uart.Feed.conserve` is the conservation law: the slices read, then what is left in the
ring, are what the ring held plus what was accepted.

`Machine.GainFrame` lifts `Gains` to a machine and one of its UARTs, with the descriptor
table unchanged; `Machine.KeepsGain` says that an action is one from every machine. Writes
are (`Machine.keepsGain_writeFd`), and so is everything that is a wire frame
(`Machine.KeepsGain.of_keepsWire`), a `select` among them.
-/

namespace ThreadPlatform

namespace Uart

theorem write_rx (u : Uart) (data : List UInt8) : (u.write data).2.rx = u.rx := by
  unfold write
  rcases hc : u.check with ⟨e | ⟨⟩, u₁⟩
  · have hrx := check_rx u
    rw [hc] at hrx
    exact hrx
  · have hrx := check_rx u
    rw [hc] at hrx
    dsimp only
    split <;> exact hrx

/-- What may happen to a UART without a read: wire steps, line checks and writes; `X` is what
the receive calls among them accepted, in order. -/
inductive Gains : Uart → Uart → List UInt8 → Prop
  | wire {u u' : Uart} {X : List UInt8} : Wire u u' X → Gains u u' X
  | check (u : Uart) : Gains u u.check.2 []
  | write (u : Uart) (data : List UInt8) : Gains u (u.write data).2 []
  | trans {u₁ u₂ u₃ : Uart} {X Y : List UInt8} : Gains u₁ u₂ X → Gains u₂ u₃ Y → Gains u₁ u₃ (X ++ Y)

/-- Without a read the ring only grows, by what the receive calls accepted. -/
theorem Gains.rx {u u' : Uart} {X : List UInt8} (h : Gains u u' X) : u'.rx = u.rx ++ X := by
  induction h with
  | wire hw => exact hw.rx
  | check u => simp [check_rx]
  | write u data => simp [write_rx]
  | trans _ _ ih₁ ih₂ => rw [ih₂, ih₁, List.append_assoc]

/-- What may happen to a UART: steps that take nothing from the ring, whose receive calls
accepted `X`, and reads, which handed out the slices `D`; both in order. -/
inductive Feed : Uart → Uart → List UInt8 → List (List UInt8) → Prop
  | gains {u u' : Uart} {X : List UInt8} : Gains u u' X → Feed u u' X []
  | read {u u' : Uart} {bs : List UInt8} (len : Nat) : u.read len = (.ok bs, u') → Feed u u' [] [bs]
  | trans {u₁ u₂ u₃ : Uart} {X Y : List UInt8} {D E : List (List UInt8)} :
      Feed u₁ u₂ X D → Feed u₂ u₃ Y E → Feed u₁ u₃ (X ++ Y) (D ++ E)

theorem read_ok {u u' : Uart} {len : Nat} {bs : List UInt8} (h : u.read len = (.ok bs, u')) :
    bs = u.rx.take len ∧ u'.rx = u.rx.drop len := by
  rcases read_rx u len with ⟨hb, hr⟩ | ⟨⟨e, he⟩, -⟩
  · rw [h] at hb hr
    cases hb
    exact ⟨rfl, hr⟩
  · rw [h] at he
    cases he

/-- Nothing is lost or made up: the slices read, then the ring, are the ring before and what
the receive calls accepted. -/
theorem Feed.conserve {u u' : Uart} {X : List UInt8} {D : List (List UInt8)} (h : Feed u u' X D) :
    D.flatten ++ u'.rx = u.rx ++ X := by
  induction h with
  | gains hg => simp [hg.rx]
  | read len h =>
    obtain ⟨rfl, hrx⟩ := read_ok h
    simp [hrx]
  | trans _ _ ih₁ ih₂ =>
    rw [List.flatten_append, List.append_assoc, ih₂, ← List.append_assoc, ih₁, List.append_assoc]

/-- The slices read pin down what the receive calls accepted. -/
theorem Feed.accepted_unique {u u' : Uart} {X Y : List UInt8} {D : List (List UInt8)} (hX : Feed u u' X D)
    (hY : Feed u u' Y D) : X = Y :=
  List.append_cancel_left (hX.conserve.symm.trans hY.conserve)

end Uart

namespace Machine

/-- From `m` to `m'` the descriptor table stayed, and the UART `id`, if it is one, lost nothing
from its ring, whose receive calls accepted `X`. -/
structure GainFrame (id : DeviceId) (X : List UInt8) (m m' : Machine) : Prop where
  table : m'.table = m.table
  uart : ∀ u, m.uartAt id = some u → ∃ u', m'.uartAt id = some u' ∧ Uart.Gains u u' X

namespace GainFrame

variable {id : DeviceId}

theorem refl (id : DeviceId) (m : Machine) : GainFrame id [] m m :=
  ⟨rfl, fun u hu => ⟨u, hu, .wire (.refl u)⟩⟩

theorem trans {X Y : List UInt8} {m₁ m₂ m₃ : Machine} (h₁ : GainFrame id X m₁ m₂)
    (h₂ : GainFrame id Y m₂ m₃) : GainFrame id (X ++ Y) m₁ m₃ := by
  refine ⟨h₂.table.trans h₁.table, fun u hu => ?_⟩
  obtain ⟨u₂, hu₂, hg₁⟩ := h₁.uart u hu
  obtain ⟨u₃, hu₃, hg₂⟩ := h₂.uart u₂ hu₂
  exact ⟨u₃, hu₃, hg₁.trans hg₂⟩

theorem of_wireFrame {X : List UInt8} {m m' : Machine} (h : WireFrame id X m m') : GainFrame id X m m' := by
  refine ⟨h.table, fun u hu => ?_⟩
  obtain ⟨u', hu', hw⟩ := h.uart u hu
  exact ⟨u', hu', .wire hw⟩

/-- The UART `id` is still there after the frame. -/
theorem uartAt_isSome {X : List UInt8} {m m' : Machine} {u : Uart} (h : GainFrame id X m m')
    (hu : m.uartAt id = some u) : ∃ u', m'.uartAt id = some u' :=
  let ⟨u', hu', _⟩ := h.uart u hu
  ⟨u', hu'⟩

end GainFrame

/-- The action, run from any machine, is a gain frame of the UART `id`. -/
def KeepsGain {α : Type} (id : DeviceId) (act : MachineM α) : Prop :=
  ∀ m, ∃ X, GainFrame id X m (act.run m).2

namespace KeepsGain

variable {id : DeviceId} {α β : Type}

theorem bind {x : MachineM α} {f : α → MachineM β} (hx : KeepsGain id x) (hf : ∀ a, KeepsGain id (f a)) :
    KeepsGain id (x >>= f) := by
  intro m
  obtain ⟨X, hX⟩ := hx m
  obtain ⟨Y, hY⟩ := hf (x.run m).1 (x.run m).2
  exact ⟨X ++ Y, hX.trans hY⟩

theorem pure (a : α) : KeepsGain id (Pure.pure a : MachineM α) :=
  fun m => ⟨[], .refl id m⟩

theorem of_keepsWire {act : MachineM α} (h : KeepsWire id act) : KeepsGain id act := by
  intro m
  obtain ⟨X, hX⟩ := h m
  exact ⟨X, .of_wireFrame hX⟩

end KeepsGain

section Leaves

variable {id : DeviceId}

/-- A write to a device, and the drains it feeds: a write of the UART `id` if it is that one. -/
theorem keepsGain_deviceWrite (id' : DeviceId) (data : List UInt8) : KeepsGain id (deviceWrite id' data) := by
  intro m
  show Holds (deviceWrite id' data) (fun _ m' => ∃ X, GainFrame id X m m') m
  unfold deviceWrite
  simp only [holds_bind, holds_device?]
  rcases hd : m.devices[id']? with _ | d
  · exact ⟨[], .refl id m⟩
  · cases d with
    | uart u =>
      have hu : m.uartAt id' = some u := uartAt_eq_some.2 hd
      simp only [setDevice, holds_modify, holds_bind]
      -- the write itself is a gain frame of every UART; the drains it feeds are a wire frame
      have hw : ∃ X, GainFrame id X m { m with devices := m.devices.modify id' fun _ => .uart (u.write data).2 } := by
        by_cases hid : id' = id
        · subst hid
          refine ⟨[], rfl, fun v hv => ?_⟩
          rw [hu] at hv
          cases hv
          exact ⟨(u.write data).2, WireFrame.uartAt_modify_self hu _, .write u data⟩
        · exact ⟨[], .of_wireFrame (WireFrame.setDevice_ne hid rfl rfl)⟩
      obtain ⟨X, hX⟩ := hw
      split
      · obtain ⟨Y, hY⟩ := @keepsWire_feedDrains id id'
          { m with devices := m.devices.modify id' fun _ => .uart (u.write data).2 }
        exact ⟨X ++ Y, hX.trans (.of_wireFrame hY)⟩
      · exact ⟨X, hX⟩
    | event e =>
      simp only [holds_bind]
      obtain ⟨X, hX⟩ := @keepsWire_signalEvent id id' m
      unfold Holds
      dsimp only
      split <;> exact ⟨X, .of_wireFrame hX⟩

theorem keepsGain_writeFd (fd : Fd) (data : List UInt8) : KeepsGain id (writeFd fd data) := by
  intro m
  show Holds (writeFd fd data) (fun _ m' => ∃ X, GainFrame id X m m') m
  unfold writeFd
  simp only [holds_bind, holds_get]
  split
  · rename_i id' _
    obtain ⟨X, hX⟩ := @keepsGain_deviceWrite id id' data m
    exact ⟨X, hX⟩
  · exact ⟨[], .refl id m⟩

end Leaves

/-! ## Work through one descriptor -/

/-- From `m` to `m'` the descriptor table stayed, and so did every device that the descriptor
`fd` does not name. -/
structure OnlyThrough (fd : Option Fd) (m m' : Machine) : Prop where
  table : m'.table = m.table
  devices : ∀ id, (∀ g, fd = some g → m.table.slot g ≠ some id) → m'.devices[id]? = m.devices[id]?

namespace OnlyThrough

variable {fd : Option Fd} {m m' m'' : Machine}

theorem refl (fd : Option Fd) (m : Machine) : OnlyThrough fd m m := ⟨rfl, fun _ _ => rfl⟩

theorem trans (h₁ : OnlyThrough fd m m') (h₂ : OnlyThrough fd m' m'') : OnlyThrough fd m m'' := by
  refine ⟨h₂.table.trans h₁.table, fun id hid => ?_⟩
  have hid' : ∀ g, fd = some g → m'.table.slot g ≠ some id := by
    intro g hg
    rw [h₁.table]
    exact hid g hg
  rw [h₂.devices id hid', h₁.devices id hid]

theorem of_eq (hd : m'.devices = m.devices) (ht : m'.table = m.table) : OnlyThrough fd m m' :=
  ⟨ht, fun id _ => by rw [hd]⟩

/-- A UART that the descriptor does not name kept all of its ring. -/
theorem gainFrame {id : DeviceId} (h : OnlyThrough fd m m') (hid : ∀ g, fd = some g → m.table.slot g ≠ some id) :
    GainFrame id [] m m' := by
  refine ⟨h.table, fun u hu => ⟨u, ?_, .wire (.refl u)⟩⟩
  rw [uartAt_eq_some] at hu ⊢
  rw [h.devices id hid]
  exact hu

end OnlyThrough

theorem slot_of_lookup {t : DescriptorTable} {fd : Fd} {id : DeviceId} (h : t.lookup fd = .ok id) :
    t.slot fd = some id := by
  unfold DescriptorTable.lookup at h
  split at h
  · cases h
    assumption
  · cases h

/-- Replacing the device a descriptor names is work through that descriptor. -/
theorem onlyThrough_modify {m : Machine} {fd : Fd} {id' : DeviceId} (hslot : m.table.slot fd = some id')
    (d : Device) : OnlyThrough (some fd) m { m with devices := m.devices.modify id' fun _ => d } := by
  refine ⟨rfl, fun id hid => ?_⟩
  have hne : id' ≠ id := fun h => hid fd rfl (h ▸ hslot)
  simp [Array.getElem?_modify, hne]

/-- A read goes through its descriptor only. -/
theorem onlyThrough_readFd (fd : Fd) (len : Nat) (m : Machine) :
    OnlyThrough (some fd) m ((readFd fd len).run m).2 := by
  show Holds (readFd fd len) (fun _ m' => OnlyThrough (some fd) m m') m
  unfold readFd
  simp only [holds_bind, holds_get]
  split
  · rename_i id' hlookup
    have hslot := slot_of_lookup hlookup
    unfold deviceRead
    simp only [holds_bind, holds_device?]
    rcases m.devices[id']? with _ | (u | e)
    · exact .refl _ m
    · simp only [setDevice, holds_modify, holds_bind, holds_pure]
      exact onlyThrough_modify hslot _
    · simp only [setDevice, holds_modify, holds_bind, holds_pure]
      exact onlyThrough_modify hslot _
  · exact .refl _ m

end Machine

end ThreadPlatform
