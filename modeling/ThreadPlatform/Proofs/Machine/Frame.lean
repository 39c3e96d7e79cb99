import ThreadPlatform.Machine.Select
/-!
# What the wire side can do to a UART

A UART has two sides. The mainloop reads and writes it; the wire side delivers
received octets, collects queued ones, raises faults and interruptions. A wait
of the mainloop (`Machine.select`) lets the due wire events run, and itself
only registers with devices, consumes their interruptions and forgets the
registrations.

`Uart.Wire u u' X` says that `u'` is reached from `u` by such steps alone,
and that the receive calls among them accepted `X`, in order: the receive
ring only grows, by `X` (`Uart.Wire.rx`), and the transmit FIFO only loses
octets from its front (`Uart.Wire.tx`). `Machine.WireFrame` lifts this to a
machine and one of its UARTs, and `Machine.KeepsWire` says that an action is
a wire frame from every machine; `Machine.keepsWire_select` is the main result.
The rules compose: `KeepsWire.bind`, `KeepsWire.forM`, `KeepsWire.mapM`, and one lemma
for each leaf action; the drains a write feeds are wire events too (`keepsWire_feedDrains`).
-/

namespace ThreadPlatform

namespace Uart

/-- What the wire side, and a `select` that watches the device, may do to a UART; `X` is what
its receive calls accepted, in order. -/
inductive Wire : Uart → Uart → List UInt8 → Prop
  | refl (u : Uart) : Wire u u []
  | receive {u u' : Uart} {X : List UInt8} (bytes : List UInt8) :
      Wire (u.receive bytes).2 u' X → Wire u u' (bytes.take (u.receive bytes).1 ++ X)
  | takeTx {u u' : Uart} {X : List UInt8} : Wire u.takeTx.2 u' X → Wire u u' X
  | setFault {u u' : Uart} {X : List UInt8} (on : Bool) : Wire (u.setFault on) u' X → Wire u u' X
  | interrupt {u u' : Uart} {X : List UInt8} : Wire u.interrupt u' X → Wire u u' X
  | takeInterrupt {u u' : Uart} {X : List UInt8} : Wire u.takeInterrupt.2 u' X → Wire u u' X
  | watch {u u' : Uart} {X : List UInt8} (on : Bool) : Wire { u with watched := on } u' X → Wire u u' X

namespace Wire

theorem trans {u₁ u₂ u₃ : Uart} {X Y : List UInt8} (h₁ : Wire u₁ u₂ X) (h₂ : Wire u₂ u₃ Y) :
    Wire u₁ u₃ (X ++ Y) := by
  induction h₁ with
  | refl => simpa using h₂
  | receive bytes _ ih => simpa using receive bytes (ih h₂)
  | takeTx _ ih => exact takeTx (ih h₂)
  | setFault on _ ih => exact setFault on (ih h₂)
  | interrupt _ ih => exact interrupt (ih h₂)
  | takeInterrupt _ ih => exact takeInterrupt (ih h₂)
  | watch on _ ih => exact watch on (ih h₂)

theorem rx_receive (u : Uart) (bytes : List UInt8) :
    (u.receive bytes).2.rx = u.rx ++ bytes.take (u.receive bytes).1 := by
  unfold Uart.receive
  split <;> simp

/-- The receive ring only grows, by what the receive calls accepted. -/
theorem rx {u u' : Uart} {X : List UInt8} (h : Wire u u' X) : u'.rx = u.rx ++ X := by
  induction h with
  | refl => simp
  | receive bytes _ ih => rw [ih, rx_receive, List.append_assoc]
  | takeTx _ ih => exact ih
  | setFault _ _ ih => exact ih
  | interrupt _ ih => exact ih
  | takeInterrupt _ ih => exact ih
  | watch _ _ ih => exact ih

/-- The transmit FIFO only loses octets from its front. -/
theorem tx {u u' : Uart} {X : List UInt8} (h : Wire u u' X) : ∃ j, u'.tx = u.tx.drop j := by
  induction h with
  | refl u => exact ⟨0, rfl⟩
  | receive bytes _ ih =>
    obtain ⟨j, hj⟩ := ih
    refine ⟨j, ?_⟩
    rw [hj]
    unfold Uart.receive
    split <;> rfl
  | @takeTx u u' X _ ih =>
    obtain ⟨j, hj⟩ := ih
    exact ⟨u.tx.length, by simp [hj, Uart.takeTx]⟩
  | setFault _ _ ih => exact ih
  | interrupt _ ih => exact ih
  | takeInterrupt _ ih => exact ih
  | watch _ _ ih => exact ih

/-- What no wire step changes: the driver, its line endings and its queue sizes. -/
structure Keeps (u u' : Uart) : Prop where
  installed : u'.installed = u.installed
  lineEndings : u'.lineEndings = u.lineEndings
  rxCapacity : u'.rxCapacity = u.rxCapacity
  txCapacity : u'.txCapacity = u.txCapacity

theorem Keeps.trans {u₁ u₂ u₃ : Uart} (h₁ : Keeps u₁ u₂) (h₂ : Keeps u₂ u₃) : Keeps u₁ u₃ :=
  ⟨h₂.1.trans h₁.1, h₂.2.trans h₁.2, h₂.3.trans h₁.3, h₂.4.trans h₁.4⟩

theorem keeps {u u' : Uart} {X : List UInt8} (h : Wire u u' X) : Keeps u u' := by
  induction h with
  | refl u => exact ⟨rfl, rfl, rfl, rfl⟩
  | @receive u u' X bytes _ ih =>
    have hk : Keeps u (u.receive bytes).2 := by
      unfold Uart.receive
      split <;> exact ⟨rfl, rfl, rfl, rfl⟩
    exact ⟨ih.1.trans hk.1, ih.2.trans hk.2, ih.3.trans hk.3, ih.4.trans hk.4⟩
  | takeTx _ ih => exact ⟨ih.1, ih.2, ih.3, ih.4⟩
  | setFault _ _ ih => exact ⟨ih.1, ih.2, ih.3, ih.4⟩
  | interrupt _ ih => exact ⟨ih.1, ih.2, ih.3, ih.4⟩
  | takeInterrupt _ ih => exact ⟨ih.1, ih.2, ih.3, ih.4⟩
  | watch _ _ ih => exact ⟨ih.1, ih.2, ih.3, ih.4⟩

end Wire
end Uart

namespace Machine

/-- The UART with id `id`, if that device is one. -/
def uartAt (m : Machine) (id : DeviceId) : Option Uart :=
  match m.devices[id]? with
  | some (.uart u) => some u
  | _ => none

theorem uartAt_eq_some {m : Machine} {id : DeviceId} {u : Uart} :
    m.uartAt id = some u ↔ m.devices[id]? = some (.uart u) := by
  unfold uartAt
  split <;> simp_all

theorem uartAt_eq_of_devices {m m' : Machine} (h : m'.devices = m.devices) (id : DeviceId) :
    m'.uartAt id = m.uartAt id := by
  simp only [uartAt, h]

/-- From `m` to `m'` the descriptor table stayed, and the UART `id`, if it is one, took only
wire steps, whose receive calls accepted `X`. -/
structure WireFrame (id : DeviceId) (X : List UInt8) (m m' : Machine) : Prop where
  table : m'.table = m.table
  uart : ∀ u, m.uartAt id = some u → ∃ u', m'.uartAt id = some u' ∧ Uart.Wire u u' X

namespace WireFrame

theorem refl (id : DeviceId) (m : Machine) : WireFrame id [] m m :=
  ⟨rfl, fun u hu => ⟨u, hu, .refl u⟩⟩

theorem trans {id : DeviceId} {X Y : List UInt8} {m₁ m₂ m₃ : Machine} (h₁ : WireFrame id X m₁ m₂)
    (h₂ : WireFrame id Y m₂ m₃) : WireFrame id (X ++ Y) m₁ m₃ := by
  refine ⟨h₂.table.trans h₁.table, fun u hu => ?_⟩
  obtain ⟨u₂, hu₂, hw₁⟩ := h₁.uart u hu
  obtain ⟨u₃, hu₃, hw₂⟩ := h₂.uart u₂ hu₂
  exact ⟨u₃, hu₃, hw₁.trans hw₂⟩

/-- Nothing of the devices or the table changed. -/
theorem of_eq {id : DeviceId} {m m' : Machine} (hd : m'.devices = m.devices) (ht : m'.table = m.table) :
    WireFrame id [] m m' :=
  ⟨ht, fun u hu => ⟨u, by simp only [uartAt, hd] at hu ⊢; exact hu, .refl u⟩⟩

theorem uartAt_modify_ne {m : Machine} {id id' : DeviceId} (hne : id' ≠ id) (d : Device) :
    uartAt { m with devices := m.devices.modify id' fun _ => d } id = m.uartAt id := by
  simp [uartAt, Array.getElem?_modify, hne]

theorem uartAt_modify_self {m : Machine} {id : DeviceId} {u : Uart} (hu : m.uartAt id = some u)
    (u' : Uart) : uartAt { m with devices := m.devices.modify id fun _ => .uart u' } id = some u' := by
  have hin : id < m.devices.size := by
    unfold uartAt at hu
    split at hu
    · rename_i d h
      exact (Array.getElem?_eq_some_iff.1 h).1
    · cases hu
  simp [uartAt, hin, Array.getElem_modify_self]

/-- Replacing the UART `id` by a wire step of it is a wire frame of it, with what the step
accepted. -/
theorem setUart_self {m m' : Machine} {id : DeviceId} {u u' : Uart} {X : List UInt8}
    (hu : m.uartAt id = some u) (hw : Uart.Wire u u' X)
    (hd : m'.devices = m.devices.modify id fun _ => .uart u') (ht : m'.table = m.table) :
    WireFrame id X m m' := by
  refine ⟨ht, fun v hv => ⟨u', ?_, ?_⟩⟩
  · calc m'.uartAt id = uartAt { m with devices := m.devices.modify id fun _ => .uart u' } id :=
          uartAt_eq_of_devices hd id
      _ = some u' := uartAt_modify_self hu u'
  · rw [hu] at hv
    cases hv
    exact hw

/-- Replacing another device leaves the UART `id` as it was. -/
theorem setDevice_ne {m m' : Machine} {id id' : DeviceId} {d : Device} (hid : id' ≠ id)
    (hd : m'.devices = m.devices.modify id' fun _ => d) (ht : m'.table = m.table) :
    WireFrame id [] m m' := by
  refine ⟨ht, fun v hv => ⟨v, ?_, .refl v⟩⟩
  calc m'.uartAt id = uartAt { m with devices := m.devices.modify id' fun _ => d } id :=
        uartAt_eq_of_devices hd id
    _ = some v := by rw [uartAt_modify_ne hid d]; exact hv

/-- Replacing the UART `id'` by a wire step of it is a wire frame of every device. -/
theorem setUart {m m' : Machine} {id id' : DeviceId} {u u' : Uart} {X : List UInt8}
    (hu : m.uartAt id' = some u) (hw : Uart.Wire u u' X)
    (hd : m'.devices = m.devices.modify id' fun _ => .uart u') (ht : m'.table = m.table) :
    ∃ Y, WireFrame id Y m m' := by
  by_cases hid : id' = id
  · subst hid
    exact ⟨X, setUart_self hu hw hd ht⟩
  · exact ⟨[], setDevice_ne hid hd ht⟩

/-- Replacing an event device changes no UART. -/
theorem setEvent {m m' : Machine} {id id' : DeviceId} {e e' : EventLine}
    (he : m.devices[id']? = some (.event e)) (hd : m'.devices = m.devices.modify id' fun _ => .event e')
    (ht : m'.table = m.table) : WireFrame id [] m m' := by
  by_cases hid : id' = id
  · subst hid
    refine ⟨ht, fun v hv => ?_⟩
    have hdev := uartAt_eq_some.1 hv
    rw [he] at hdev
    cases hdev
  · exact setDevice_ne hid hd ht

end WireFrame

/-! ## Running machine work -/

/-- What holds of an action's answer and of the machine after it, run from `m`. -/
def Holds {α : Type} (act : MachineM α) (Q : α → Machine → Prop) (m : Machine) : Prop :=
  Q (act.run m).1 (act.run m).2

section Holds
variable {α β : Type} (Q : β → Machine → Prop) (m : Machine)

@[simp] theorem holds_bind (x : MachineM α) (f : α → MachineM β) :
    Holds (x >>= f) Q m = Holds x (fun a m' => Holds (f a) Q m') m := rfl

@[simp] theorem holds_map (x : MachineM α) (f : α → β) :
    Holds (f <$> x) Q m = Holds x (fun a m' => Q (f a) m') m := rfl

@[simp] theorem holds_pure (b : β) : Holds (pure b) Q m = Q b m := rfl

@[simp] theorem holds_get (Q : Machine → Machine → Prop) : Holds get Q m = Q m m := rfl

@[simp] theorem holds_modify (f : Machine → Machine) (Q : Unit → Machine → Prop) :
    Holds (modify f) Q m = Q () (f m) := rfl

@[simp] theorem holds_modifyGet (f : Machine → β × Machine) :
    Holds (modifyGet f) Q m = Q (f m).1 (f m).2 := rfl

theorem holds_ite (c : Prop) [Decidable c] (x y : MachineM β) :
    Holds (if c then x else y) Q m = if c then Holds x Q m else Holds y Q m := by
  split <;> rfl

@[simp] theorem holds_device? (id : DeviceId) (Q : Option Device → Machine → Prop) :
    Holds (device? id) Q m = Q m.devices[id]? m := rfl

@[simp] theorem holds_uart? (id : DeviceId) (Q : Option Uart → Machine → Prop) :
    Holds (uart? id) Q m = Q (m.uartAt id) m := by
  unfold uart?
  simp only [holds_bind, holds_device?]
  unfold uartAt
  cases m.devices[id]? with
  | none => rfl
  | some d => cases d <;> rfl

theorem Holds.mono {m : Machine} {act : MachineM α} {P Q : α → Machine → Prop} (h : Holds act P m)
    (hPQ : ∀ a m', P a m' → Q a m') : Holds act Q m :=
  hPQ _ _ h

end Holds

/-- The action, run from any machine, is a wire frame of the UART `id`. -/
def KeepsWire {α : Type} (id : DeviceId) (act : MachineM α) : Prop :=
  ∀ m, ∃ X, WireFrame id X m (act.run m).2

namespace KeepsWire

variable {id : DeviceId}

theorem bind {α β : Type} {x : MachineM α} {f : α → MachineM β} (hx : KeepsWire id x)
    (hf : ∀ a, KeepsWire id (f a)) : KeepsWire id (x >>= f) := by
  intro m
  obtain ⟨X, hX⟩ := hx m
  obtain ⟨Y, hY⟩ := hf (x.run m).1 (x.run m).2
  exact ⟨X ++ Y, hX.trans hY⟩

theorem pure {α : Type} (a : α) : KeepsWire id (Pure.pure a : MachineM α) :=
  fun m => ⟨[], .refl id m⟩

theorem map {α β : Type} {x : MachineM α} (f : α → β) (hx : KeepsWire id x) : KeepsWire id (f <$> x) :=
  hx

theorem ite {α : Type} (c : Prop) [Decidable c] {x y : MachineM α} (hx : KeepsWire id x)
    (hy : KeepsWire id y) : KeepsWire id (if c then x else y) := by
  split
  · exact hx
  · exact hy

/-- Work that leaves the devices and the table alone. -/
theorem of_eq {α : Type} {act : MachineM α}
    (h : ∀ m, (act.run m).2.devices = m.devices ∧ (act.run m).2.table = m.table) : KeepsWire id act :=
  fun m => ⟨[], WireFrame.of_eq (h m).1 (h m).2⟩

theorem forM {α : Type} {f : α → MachineM Unit} (hf : ∀ a, KeepsWire id (f a)) :
    ∀ l : List α, KeepsWire id (l.forM f)
  | [] => pure ()
  | a :: l => bind (hf a) (fun _ => forM hf l)

theorem mapM {α β : Type} {f : α → MachineM β} (hf : ∀ a, KeepsWire id (f a)) :
    ∀ l : List α, KeepsWire id (l.mapM f)
  | [] => pure _
  | a :: l => by
    rw [List.mapM_cons]
    exact bind (hf a) fun _ => bind (mapM hf l) fun _ => pure _

end KeepsWire

section Leaves
variable {id : DeviceId}

theorem keepsWire_log (level : Level) (text : String) : KeepsWire id (log level text) :=
  KeepsWire.of_eq fun _ => ⟨rfl, rfl⟩

theorem keepsWire_receive (id' : DeviceId) (bytes : List UInt8) : KeepsWire id (receive id' bytes) := by
  intro m
  show Holds (receive id' bytes) (fun _ m' => ∃ X, WireFrame id X m m') m
  unfold receive
  simp only [holds_bind, holds_uart?]
  cases hu : m.uartAt id' with
  | none => exact ⟨[], .refl id m⟩
  | some u =>
    simp only [setDevice, log, wake, holds_modify, holds_bind, holds_ite, holds_pure]
    have hw := Uart.Wire.receive bytes (.refl (u.receive bytes).2)
    repeat' split
    all_goals exact WireFrame.setUart hu hw rfl rfl

/-- A receive call on the UART `id` is a wire frame of it that accepted the front of the octets,
as many as the call returned. -/
theorem wireFrame_receive {m : Machine} {u : Uart} (hu : m.uartAt id = some u) (bytes : List UInt8) :
    WireFrame id (bytes.take (u.receive bytes).1) m ((receive id bytes).run m).2 := by
  show Holds (receive id bytes) (fun _ m' => WireFrame id (bytes.take (u.receive bytes).1) m m') m
  unfold receive
  simp only [holds_bind, holds_uart?, hu]
  simp only [setDevice, log, wake, holds_modify, holds_bind, holds_ite, holds_pure]
  have hw : Uart.Wire u (u.receive bytes).2 (bytes.take (u.receive bytes).1) := by
    simpa using Uart.Wire.receive bytes (.refl (u.receive bytes).2)
  repeat' split
  all_goals exact WireFrame.setUart_self hu hw rfl rfl

theorem keepsWire_takeTx (id' : DeviceId) : KeepsWire id (takeTx id') := by
  intro m
  show Holds (takeTx id') (fun _ m' => ∃ X, WireFrame id X m m') m
  unfold takeTx
  simp only [holds_bind, holds_uart?]
  cases hu : m.uartAt id' with
  | none => exact ⟨[], .refl id m⟩
  | some u =>
    simp only [setDevice, wake, holds_modify, holds_bind, holds_ite, holds_pure]
    have hw := Uart.Wire.takeTx (.refl u.takeTx.2)
    repeat' split
    all_goals exact WireFrame.setUart hu hw rfl rfl

theorem keepsWire_setFault (id' : DeviceId) (on : Bool) : KeepsWire id (setFault id' on) := by
  intro m
  show Holds (setFault id' on) (fun _ m' => ∃ X, WireFrame id X m m') m
  unfold setFault
  simp only [holds_bind, holds_uart?]
  cases hu : m.uartAt id' with
  | none => exact ⟨[], .refl id m⟩
  | some u =>
    simp only [setDevice, wake, holds_modify, holds_bind, holds_ite, holds_pure]
    have hw := Uart.Wire.setFault on (.refl (u.setFault on))
    repeat' split
    all_goals exact WireFrame.setUart hu hw rfl rfl

theorem keepsWire_interrupt (id' : DeviceId) : KeepsWire id (interrupt id') := by
  intro m
  show Holds (interrupt id') (fun _ m' => ∃ X, WireFrame id X m m') m
  unfold interrupt
  simp only [holds_bind, holds_uart?]
  cases hu : m.uartAt id' with
  | none => exact ⟨[], .refl id m⟩
  | some u =>
    simp only [setDevice, wake, holds_modify, holds_bind, holds_ite, holds_pure]
    have hw := Uart.Wire.interrupt (.refl u.interrupt)
    repeat' split
    all_goals exact WireFrame.setUart hu hw rfl rfl

theorem keepsWire_takeInterrupt (id' : DeviceId) : KeepsWire id (takeInterrupt id') := by
  intro m
  show Holds (takeInterrupt id') (fun _ m' => ∃ X, WireFrame id X m m') m
  unfold takeInterrupt
  simp only [holds_bind, holds_uart?]
  cases hu : m.uartAt id' with
  | none => exact ⟨[], .refl id m⟩
  | some u =>
    simp only [setDevice, holds_modify, holds_bind, holds_pure]
    exact WireFrame.setUart hu (Uart.Wire.takeInterrupt (.refl u.takeInterrupt.2)) rfl rfl

theorem keepsWire_setWatched (id' : DeviceId) (on : Bool) {m m' : Machine} {d : Device}
    (hd : m.devices[id']? = some d) (hdev : m'.devices = m.devices.modify id' fun _ => d.setWatched on)
    (ht : m'.table = m.table) : ∃ X, WireFrame id X m m' := by
  cases d with
  | uart u =>
    have hu : m.uartAt id' = some u := by simp [uartAt, hd]
    exact WireFrame.setUart hu (Uart.Wire.watch on (.refl _)) hdev ht
  | event e => exact ⟨[], WireFrame.setEvent hd hdev ht⟩

theorem keepsWire_startWatch (id' : DeviceId) : KeepsWire id (startWatch id') := by
  intro m
  show Holds (startWatch id') (fun _ m' => ∃ X, WireFrame id X m m') m
  unfold startWatch
  simp only [holds_bind, holds_device?]
  cases hd : m.devices[id']? with
  | none => exact ⟨[], .refl id m⟩
  | some d =>
    simp only [setDevice, wake, holds_modify, holds_bind]
    repeat' split
    all_goals
      try simp only [holds_modify, holds_pure]
      exact keepsWire_setWatched id' true hd rfl rfl

theorem keepsWire_stopWatch (id' : DeviceId) : KeepsWire id (stopWatch id') := by
  intro m
  show Holds (stopWatch id') (fun _ m' => ∃ X, WireFrame id X m m') m
  unfold stopWatch
  simp only [holds_bind, holds_device?]
  cases hd : m.devices[id']? with
  | none => exact ⟨[], .refl id m⟩
  | some d =>
    simp only [setDevice, holds_modify]
    exact keepsWire_setWatched id' false hd rfl rfl

theorem keepsWire_get : KeepsWire id (get : MachineM Machine) :=
  KeepsWire.of_eq fun _ => ⟨rfl, rfl⟩

/-- A running drain of the UART collects what is queued. -/
theorem keepsWire_feedThread (id' : DeviceId) (th : WireThread) : KeepsWire id (feedThread id' th) := by
  unfold feedThread
  split
  · split
    · exact KeepsWire.bind (keepsWire_takeTx _) fun _ => KeepsWire.pure _
    · exact KeepsWire.pure _
  · exact KeepsWire.pure _

theorem keepsWire_feedDrains (id' : DeviceId) : KeepsWire id (feedDrains id') := by
  unfold feedDrains
  refine KeepsWire.bind keepsWire_get fun m => ?_
  refine KeepsWire.bind (KeepsWire.mapM (keepsWire_feedThread id') _) fun _ => ?_
  exact KeepsWire.of_eq fun _ => ⟨rfl, rfl⟩

theorem keepsWire_consumeSignal : KeepsWire id consumeSignal :=
  KeepsWire.of_eq fun _ => ⟨rfl, rfl⟩

theorem keepsWire_passTo (deadline : Nat) : KeepsWire id (passTo deadline) :=
  KeepsWire.of_eq fun _ => ⟨rfl, rfl⟩

theorem keepsWire_signalEvent (id' : DeviceId) : KeepsWire id (signalEvent id') := by
  intro m
  show Holds (signalEvent id') (fun _ m' => ∃ X, WireFrame id X m m') m
  unfold signalEvent eventLine?
  simp only [holds_bind, holds_device?]
  cases hd : m.devices[id']? with
  | none => exact ⟨[], .refl id m⟩
  | some d =>
    cases d with
    | uart u => exact ⟨[], .refl id m⟩
    | event e =>
      simp only [setDevice, wake, holds_pure]
      repeat' split
      all_goals first
        | exact ⟨[], .refl id m⟩
        | exact ⟨[], WireFrame.setEvent hd rfl rfl⟩

theorem keepsWire_activate (id' : DeviceId) : KeepsWire id (activate id') := by
  unfold activate
  refine KeepsWire.bind (keepsWire_signalEvent id') fun r => ?_
  split
  · exact KeepsWire.pure ()
  · exact keepsWire_log _ _

end Leaves

section Waits
variable {id : DeviceId}

theorem keepsWire_start (th : WireThread) (t : Nat) : KeepsWire id (start th t) := by
  unfold start
  split
  · exact KeepsWire.bind (keepsWire_receive _ _) fun _ => KeepsWire.pure _
  · exact KeepsWire.bind (keepsWire_interrupt _) fun _ => KeepsWire.pure _
  · exact KeepsWire.bind (keepsWire_setFault _ _) fun _ => KeepsWire.pure _
  · exact KeepsWire.bind (keepsWire_takeTx _) fun _ => KeepsWire.pure _
  · exact KeepsWire.bind (keepsWire_activate _) fun _ => KeepsWire.pure _
  · split
    · exact KeepsWire.pure _
    · exact KeepsWire.bind (keepsWire_takeTx _) fun _ => KeepsWire.pure _

theorem keepsWire_fireNext : KeepsWire id fireNext := by
  unfold fireNext
  refine KeepsWire.bind keepsWire_get fun m => ?_
  split
  · exact KeepsWire.pure _
  · split
    · exact KeepsWire.pure _
    · split
      · exact KeepsWire.pure _
      · refine KeepsWire.bind ?_ fun _ => ?_
        · exact KeepsWire.of_eq fun _ => ⟨rfl, rfl⟩
        -- the new phase is computed by a match; only a start touches a device
        have hset : ∀ (i : Nat) (th : WireThread) (phase : WirePhase), KeepsWire id (do
            modify fun m : Machine => { m with threads := m.threads.set i { th with phase := phase } }
            pure true) := fun _ _ _ => KeepsWire.of_eq fun _ => ⟨rfl, rfl⟩
        dsimp only
        split
        · exact KeepsWire.bind (keepsWire_start _ _) (hset _ _)
        · exact KeepsWire.bind (KeepsWire.pure _) (hset _ _)
        · exact KeepsWire.bind (KeepsWire.pure _) (hset _ _)

theorem keepsWire_awaitSignal (deadline : Nat) (fuel : Nat) : KeepsWire id (awaitSignal deadline fuel) := by
  induction fuel with
  | zero =>
    unfold awaitSignal
    refine KeepsWire.bind keepsWire_consumeSignal fun raised => ?_
    split
    · exact KeepsWire.pure _
    · exact KeepsWire.bind (keepsWire_passTo deadline) fun _ => KeepsWire.pure _
  | succ fuel ih =>
    unfold awaitSignal
    refine KeepsWire.bind keepsWire_consumeSignal fun raised => ?_
    split
    · exact KeepsWire.pure _
    · refine KeepsWire.bind keepsWire_get fun m => ?_
      split
      · split
        · exact KeepsWire.bind keepsWire_fireNext fun _ => ih
        · exact KeepsWire.bind (keepsWire_passTo deadline) fun _ => KeepsWire.pure _
      · exact KeepsWire.bind (keepsWire_passTo deadline) fun _ => KeepsWire.pure _

theorem keepsWire_waitSignal (deadline : Nat) : KeepsWire id (waitSignal deadline) :=
  KeepsWire.bind keepsWire_get fun _ => keepsWire_awaitSignal deadline _

end Waits

section Select
variable {id : DeviceId}

theorem keepsWire_anyInterrupted : ∀ watched : List (Fd × DeviceId), KeepsWire id (anyInterrupted watched)
  | [] => KeepsWire.pure _
  | (_, id') :: rest => by
    unfold anyInterrupted
    refine KeepsWire.bind (keepsWire_takeInterrupt id') fun hit => ?_
    split
    · exact KeepsWire.pure _
    · exact keepsWire_anyInterrupted rest

theorem keepsWire_readySubset (watched : List (Fd × DeviceId)) (ctx : PollContext) :
    KeepsWire id (readySubset watched ctx) :=
  KeepsWire.bind keepsWire_get fun _ => KeepsWire.pure _

theorem keepsWire_selectRounds (watched : List (Fd × DeviceId)) (ctx : PollContext) (deadline : Nat)
    (fuel : Nat) : KeepsWire id (selectRounds watched ctx deadline fuel) := by
  induction fuel with
  | zero => exact KeepsWire.bind (keepsWire_readySubset _ _) fun _ => KeepsWire.pure _
  | succ fuel ih =>
    unfold selectRounds
    refine KeepsWire.bind (keepsWire_anyInterrupted watched) fun hit => ?_
    split
    · exact KeepsWire.pure _
    · refine KeepsWire.bind (keepsWire_readySubset _ _) fun ready => ?_
      split
      · exact KeepsWire.pure _
      · refine KeepsWire.bind (keepsWire_waitSignal deadline) fun raised => ?_
        split
        · exact ih
        · exact KeepsWire.bind (keepsWire_readySubset _ _) fun _ => KeepsWire.pure _

/-- A `select` is a wire frame of every UART: apart from the wire events it lets run, it
only registers with devices, consumes their interruptions and forgets the registrations. -/
theorem keepsWire_select (ctx : PollContext) : KeepsWire id (select ctx) := by
  unfold select
  refine KeepsWire.bind (KeepsWire.bind keepsWire_get fun _ => KeepsWire.pure _) fun found => ?_
  split
  · exact KeepsWire.pure _
  · rename_i watched
    refine KeepsWire.bind (KeepsWire.of_eq fun _ => ⟨rfl, rfl⟩) fun _ => ?_
    refine KeepsWire.bind (KeepsWire.forM (fun p => keepsWire_startWatch p.2) watched) fun _ => ?_
    refine KeepsWire.bind keepsWire_get fun m => ?_
    refine KeepsWire.bind (keepsWire_selectRounds _ _ _ _) fun outcome => ?_
    exact KeepsWire.bind (KeepsWire.forM (fun p => keepsWire_stopWatch p.2) watched) fun _ =>
      KeepsWire.pure _

end Select

end Machine


end ThreadPlatform
