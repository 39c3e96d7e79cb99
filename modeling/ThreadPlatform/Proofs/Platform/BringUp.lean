import ThreadPlatform.Proofs.Platform.Passes
/-!
# Bringing a platform up on a clean board, and down again

A pseudo-reset takes the platform down and brings a new one up on the same board, so the
bring-up must find the board as the last release left it. This module says what that is and
proves both directions:

* `Board.Clean P b`: no descriptor is in use, the wake device is closed, the console and radio
  UARTs have no driver, and the board fits a platform for `P` (`Board.Fits`: two UARTs, and a
  flash partition large enough). A board fresh from `P` is clean (`Board.clean_new`).
* `Platform.Up P p b`: the platform holds the wake event at descriptor 8, the console at 3 and
  the radio at 4, on the board's devices, and the table names these three and no other.
* `Platform.init_clean`: on a clean board, `Platform.init` with valid parameters never fails;
  the platform it returns is up and no pseudo-reset is left pending.
* `Platform.deinit_up`: releasing a platform that is up leaves the board clean again.

The parts come up one by one, each on the machine the previous one left: the wake event at the
reserved descriptor, then the console and the radio at the two lowest dynamic descriptors
(`DescriptorTable.place_three`, `place_four`). The release frees each descriptor and lets its
device go; `Machine.Lowers` says that nothing is brought up on the way.
-/

namespace ThreadPlatform

namespace Fd

/-- Descriptor 3, the lowest that `DescriptorTable.place` hands out. -/
def three : Fd := ⟨⟨3, by decide⟩⟩

/-- Descriptor 4, the next one. -/
def four : Fd := ⟨⟨4, by decide⟩⟩

end Fd

namespace DescriptorTable

theorem dynamic_eq : dynamic = Fd.three :: Fd.four :: dynamic.drop 2 := by decide

/-- With 3 free, `place` hands out 3. -/
theorem place_three {t : DescriptorTable} {id : DeviceId} (h : t.slot Fd.three = none) :
    t.place id = .ok (Fd.three, t.insert Fd.three id) := by
  unfold place
  rw [dynamic_eq]
  simp [isOpen, h]

/-- With 3 taken and 4 free, `place` hands out 4. -/
theorem place_four {t : DescriptorTable} {id : DeviceId} (h₃ : t.slot Fd.three ≠ none)
    (h₄ : t.slot Fd.four = none) : t.place id = .ok (Fd.four, t.insert Fd.four id) := by
  unfold place
  rw [dynamic_eq]
  have h₃' : (t.slot Fd.three).isNone = false := by
    cases hs : t.slot Fd.three
    · exact absurd hs h₃
    · rfl
  simp [isOpen, h₃', h₄]

end DescriptorTable

/-- Whether the device is in use: a UART while its driver is installed, an event device while
it is open. -/
def Device.up : Device → Bool
  | .uart u => u.installed
  | .event e => e.isOpen

namespace Machine

/-- The device `id`, if it is an event device, is closed. -/
def EventClosed (m : Machine) (id : DeviceId) : Prop :=
  ∀ e, m.devices[id]? = some (.event e) → e.isOpen = false

/-- The device `id`, if it is a UART, has no driver installed. -/
def UartIdle (m : Machine) (id : DeviceId) : Prop :=
  ∀ u, m.uartAt id = some u → u.installed = false

/-- From `m` to `m'` no device was brought up: what was closed or idle stays so. -/
structure Lowers (m m' : Machine) : Prop where
  event : ∀ id, m.EventClosed id → m'.EventClosed id
  uart : ∀ id, m.UartIdle id → m'.UartIdle id

namespace Lowers
theorem refl (m : Machine) : Lowers m m := ⟨fun _ h => h, fun _ h => h⟩
theorem trans {m₁ m₂ m₃ : Machine} (h₁ : Lowers m₁ m₂) (h₂ : Lowers m₂ m₃) : Lowers m₁ m₃ :=
  ⟨fun id h => h₂.event id (h₁.event id h), fun id h => h₂.uart id (h₁.uart id h)⟩
/-- Only the devices count. -/
theorem of_devices {m m' : Machine} (h : m'.devices = m.devices) : Lowers m m' :=
  ⟨fun _ hc e he => hc e (h ▸ he), fun id hi u hu => hi u (uartAt_eq_of_devices h id ▸ hu)⟩
end Lowers

section
variable {m : Machine} {id : DeviceId}

@[simp] theorem run_log (level : Level) (text : String) (m : Machine) :
    (log level text).run m = ((), { m with journal := m.journal.push ⟨level, text⟩ }) := rfl

theorem Holds.bind {α β : Type} {x : MachineM α} {f : α → MachineM β} {P : α → Machine → Prop}
    {Q : β → Machine → Prop} (hx : Holds x P m) (hf : ∀ a m', P a m' → Holds (f a) Q m') :
    Holds (x >>= f) Q m :=
  hf _ _ hx

theorem uartAt_modify_event (m : Machine) (id i : DeviceId) (e : EventLine) :
    uartAt { m with devices := m.devices.modify id fun _ => .event e } i =
      if i = id then none else m.uartAt i := by
  by_cases h : i = id
  · subst h
    simp only [uartAt, Array.getElem?_modify, if_true]
    split <;> simp_all
  · simp [uartAt, Array.getElem?_modify, Ne.symm h, h]

/-- Opening a closed event device, or a device that is none, succeeds and leaves the table and
every UART alone. -/
theorem holds_openEvent (h : m.EventClosed id) :
    Holds (openEvent id) (fun r m' => r = .ok () ∧ m'.table = m.table ∧ ∀ i, m'.uartAt i = m.uartAt i) m := by
  simp only [openEvent, eventLine?, holds_bind, holds_device?]
  cases hd : m.devices[id]? with
  | none => exact ⟨rfl, rfl, fun _ => rfl⟩
  | some d =>
    cases d with
    | uart u => exact ⟨rfl, rfl, fun _ => rfl⟩
    | event e =>
      simp only [EventLine.openDevice, h e hd, Bool.false_eq_true, ↓reduceIte, setDevice, holds_bind,
        holds_modify, holds_pure]
      refine ⟨trivial, trivial, fun i => ?_⟩
      rw [uartAt_modify_event]
      split
      · subst i
        simp [uartAt, hd]
      · rfl

theorem holds_openReserved {fd : Fd} (hres : fd.isReserved = true) (hfree : m.table.slot fd = none) :
    Holds (openReserved fd id) (fun r m' => r = .ok fd ∧ m' = { m with table := m.table.insert fd id }) m := by
  simp [openReserved, DescriptorTable.placeReserved, hres, DescriptorTable.isOpen, hfree]

theorem holds_openFd {fd : Fd} {t : DescriptorTable} (h : m.table.place id = .ok (fd, t)) :
    Holds (openFd id) (fun r m' => r = .ok fd ∧ m' = { m with table := t }) m := by
  simp [openFd, h]

/-- After putting `d` at `id`, the device at `id` is `d` and every other is as it was. -/
theorem getElem?_modify_eq_some {d d₀ : Device} {i : DeviceId}
    (h : (m.devices.modify id fun _ => d)[i]? = some d₀) :
    (i = id ∧ d₀ = d) ∨ (i ≠ id ∧ m.devices[i]? = some d₀) := by
  rw [Array.getElem?_modify] at h
  split at h
  · next hid =>
    subst hid
    cases hi : m.devices[id]? <;> simp_all
  · next hid => exact .inr ⟨Ne.symm hid, h⟩

/-- Putting a device that is not in use at `id` brings nothing up, and leaves `id` closed and idle. -/
theorem lowers_modify (m : Machine) (id : DeviceId) {d : Device} (hd : d.up = false) :
    Lowers m { m with devices := m.devices.modify id fun _ => d } ∧
      EventClosed { m with devices := m.devices.modify id fun _ => d } id ∧
      UartIdle { m with devices := m.devices.modify id fun _ => d } id := by
  -- each device afterwards is `d`, which is down, or one that was there before
  have hevent : ∀ i e, (m.devices.modify id fun _ => d)[i]? = some (.event e) →
      e.isOpen = false ∨ (i ≠ id ∧ m.devices[i]? = some (.event e)) := by
    intro i e h
    rcases getElem?_modify_eq_some h with ⟨-, rfl⟩ | h
    exacts [.inl hd, .inr h]
  have huart : ∀ i u, uartAt { m with devices := m.devices.modify id fun _ => d } i = some u →
      u.installed = false ∨ (i ≠ id ∧ m.uartAt i = some u) := by
    intro i u h
    rcases getElem?_modify_eq_some (uartAt_eq_some.1 h) with ⟨-, rfl⟩ | ⟨hi, h⟩
    exacts [.inl hd, .inr ⟨hi, uartAt_eq_some.2 h⟩]
  refine ⟨⟨fun i hi e he => ?_, fun i hi u hu => ?_⟩, fun e he => ?_, fun u hu => ?_⟩
  · rcases hevent i e he with h | ⟨-, h⟩
    exacts [h, hi e h]
  · rcases huart i u hu with h | ⟨-, h⟩
    exacts [h, hi u h]
  · rcases hevent id e he with h | ⟨hne, -⟩
    exacts [h, absurd rfl hne]
  · rcases huart id u hu with h | ⟨hne, -⟩
    exacts [h, absurd rfl hne]

/-- Removing a UART's driver leaves the table, brings nothing up, and leaves the UART idle. -/
theorem holds_uninstall (m : Machine) (id : DeviceId) :
    Holds (uninstall id) (fun _ m' => m'.table = m.table ∧ Lowers m m' ∧ m'.UartIdle id) m := by
  simp only [uninstall, updateUart, holds_bind, holds_uart?]
  cases hu : m.uartAt id with
  | none => exact ⟨rfl, .refl m, fun u h => by cases hu.symm.trans h⟩
  | some u =>
    obtain ⟨hlow, -, hidle⟩ := lowers_modify m id (d := .uart u.uninstall) rfl
    exact ⟨rfl, hlow, hidle⟩

/-- Letting a device know its descriptor was freed closes it if it is an event device; nothing
else changes, and nothing comes up. -/
theorem holds_deviceClose (m : Machine) (id : DeviceId) :
    Holds (deviceClose id) (fun _ m' => m'.table = m.table ∧ Lowers m m' ∧ m'.EventClosed id) m := by
  simp only [deviceClose, eventLine?, holds_bind, holds_device?]
  cases hd : m.devices[id]? with
  | none => exact ⟨rfl, .refl m, fun e h => nomatch hd.symm.trans h⟩
  | some d =>
    cases d with
    | uart u => exact ⟨rfl, .refl m, fun e h => nomatch hd.symm.trans h⟩
    | event e =>
      obtain ⟨hlow, hclosed, -⟩ := lowers_modify m id (d := .event e.closeDevice) rfl
      exact ⟨rfl, hlow, hclosed⟩

/-- Freeing a descriptor in use frees it in the table and closes the device it named. -/
theorem holds_closeFd {fd : Fd} (h : m.table.slot fd = some id) :
    Holds (closeFd fd)
      (fun r m' => r = .ok () ∧ m'.table = m.table.erase fd ∧ Lowers m m' ∧ m'.EventClosed id) m := by
  simp only [closeFd, DescriptorTable.remove, h, holds_bind, holds_get, holds_modify, holds_pure]
  obtain ⟨ht, hlow, hclosed⟩ := holds_deviceClose { m with table := m.table.erase fd } id
  have hfree : Lowers m { m with table := m.table.erase fd } := .of_devices rfl
  exact ⟨trivial, ht, hfree.trans hlow, hclosed⟩

/-- Installing a driver on an idle UART, or on a device that is no UART, succeeds; it changes no
other UART and not the table. -/
theorem holds_install (p : UartParams) (rxSize txSize : Nat) (h : m.UartIdle id) :
    Holds (install id p rxSize txSize)
      (fun r m' => r = .ok () ∧ m'.table = m.table ∧ ∀ i, i ≠ id → m'.uartAt i = m.uartAt i) m := by
  simp only [install, holds_bind, holds_uart?]
  cases hu : m.uartAt id with
  | none => exact ⟨rfl, rfl, fun _ _ => rfl⟩
  | some u =>
    simp only [Uart.install, h u hu, Bool.false_eq_true, ↓reduceIte, setDevice, holds_bind, holds_modify,
      holds_pure]
    exact ⟨trivial, trivial, fun i hi => WireFrame.uartAt_modify_ne (Ne.symm hi) _⟩

end
end Machine

open Board Machine

/-- On a closed event device and a free reserved descriptor, the wake source comes up at 8. -/
theorem WakeSource.holds_init {w : WakeSource} {m : Machine} (hc : m.EventClosed w.device)
    (hfree : m.table.slot Fd.reservedMin = none) :
    Holds w.init (fun r m' => r = .ok { w with fd := some Fd.reservedMin } ∧
      m'.table = m.table.insert Fd.reservedMin w.device ∧ ∀ i, m'.uartAt i = m.uartAt i) m := by
  unfold WakeSource.init
  refine Holds.bind (holds_openEvent hc) ?_
  rintro r m₁ ⟨rfl, ht₁, hu₁⟩
  refine Holds.bind (holds_openReserved (by decide) (ht₁ ▸ hfree)) ?_
  rintro r m₂ ⟨rfl, rfl⟩
  simp only [holds_pure]
  exact ⟨trivial, by rw [ht₁], fun i => (uartAt_eq_of_devices rfl i).trans (hu₁ i)⟩

/-- On an idle UART, the console comes up at the descriptor `place` hands out. -/
theorem ConsolePort.exec_init {c : ConsolePort} {b : Board} {fd : Fd} {t : DescriptorTable}
    (hidle : b.machine.UartIdle c.device) (hplace : b.machine.table.place c.device = .ok (fd, t)) :
    ∃ m, exec ConsolePort.init c b = (.ok (.ok (), { c with fd := some fd }), { b with machine := m }) ∧
      m.table = t ∧ ∀ i, i ≠ c.device → m.uartAt i = b.machine.uartAt i := by
  obtain ⟨hr, ht, hu⟩ := holds_install c.params c.rxSize c.txSize hidle
  obtain ⟨hr', hm⟩ := holds_openFd (m := ((install c.device c.params c.rxSize c.txSize).run b.machine).2)
    (ht ▸ hplace)
  refine ⟨((openFd c.device).run ((install c.device c.params c.rxSize c.txSize).run b.machine).2).2, ?_,
    by rw [hm], fun i hi => by rw [hm, uartAt_eq_of_devices rfl i]; exact hu i hi⟩
  simp only [ConsolePort.init, exec_bind, exec_get, exec_onMachine, hr, hr', exec_set, exec_pure]

/-- On an idle UART, the radio link comes up at the descriptor `place` hands out. -/
theorem RadioLink.exec_init {r : RadioLink} {b : Board} {fd : Fd} {t : DescriptorTable}
    (hidle : b.machine.UartIdle r.device) (hplace : b.machine.table.place r.device = .ok (fd, t)) :
    ∃ m, Board.exec RadioLink.init r b =
        (.ok (.ok (), { r with fd := some fd, decoder := r.decoder.reset, frames := [] }), { b with machine := m }) ∧
      m.table = t ∧ ∀ i, i ≠ r.device → m.uartAt i = b.machine.uartAt i := by
  obtain ⟨hr, ht, hu⟩ := holds_install r.params r.rxSize r.txSize hidle
  obtain ⟨hr', hm⟩ := holds_openFd (m := ((install r.device r.params r.rxSize r.txSize).run b.machine).2)
    (ht ▸ hplace)
  simp only [RadioLink.init, Board.exec_bind, Board.exec_get, Board.exec_onMachine, hr, hr', Board.exec_set,
    Board.exec_pure, Board.log]
  refine ⟨_, rfl, by simp [hm], fun i hi => ?_⟩
  simp only [run_log, hm]
  exact (uartAt_eq_of_devices rfl i).trans (hu i hi)

/-- Releasing a radio link that holds a descriptor frees it, closes its device and removes the
driver; nothing comes up. -/
theorem RadioLink.exec_deinit {r : RadioLink} {b : Board} {fd : Fd} {id : DeviceId} (hfd : r.fd = some fd)
    (hslot : b.machine.table.slot fd = some id) :
    ∃ m, Board.exec RadioLink.deinit r b = (.ok ((), { r with fd := none }), { b with machine := m }) ∧
      m.table = b.machine.table.erase fd ∧ Lowers b.machine m ∧ m.EventClosed id ∧ m.UartIdle r.device := by
  obtain ⟨hr, ht, hlow, hclosed⟩ := holds_closeFd hslot
  obtain ⟨ht', hlow', hidle⟩ := holds_uninstall ((closeFd fd).run b.machine).2 r.device
  simp only [RadioLink.deinit, Board.exec_bind, Board.exec_get, hfd, Board.exec_onMachine, hr]
  exact ⟨_, rfl, ht'.trans ht, hlow.trans hlow', hlow'.event id hclosed, hidle⟩

/-- Releasing a console port that holds a descriptor frees it, closes its device and removes the
driver; nothing comes up. -/
theorem ConsolePort.exec_deinit {c : ConsolePort} {b : Board} {fd : Fd} {id : DeviceId} (hfd : c.fd = some fd)
    (hslot : b.machine.table.slot fd = some id) :
    ∃ m, exec ConsolePort.deinit c b = (.ok ((), { c with fd := none, sendsDone := 0 }), { b with machine := m }) ∧
      m.table = b.machine.table.erase fd ∧ Lowers b.machine m ∧ m.EventClosed id ∧ m.UartIdle c.device := by
  obtain ⟨hr, ht, hlow, hclosed⟩ := holds_closeFd hslot
  obtain ⟨ht', hlow', hidle⟩ := holds_uninstall ((closeFd fd).run b.machine).2 c.device
  simp only [ConsolePort.deinit, exec_bind, exec_get, hfd, exec_onMachine, hr]
  exact ⟨_, rfl, ht'.trans ht, hlow.trans hlow', hlow'.event id hclosed, hidle⟩

/-- Releasing a wake source that holds a descriptor frees it and closes its device. -/
theorem WakeSource.holds_deinit {w : WakeSource} {m : Machine} {fd : Fd} {id : DeviceId} (hfd : w.fd = some fd)
    (hslot : m.table.slot fd = some id) :
    Holds w.deinit (fun w' m' => w' = { w with fd := none } ∧ m'.table = m.table.erase fd ∧ Lowers m m' ∧
      m'.EventClosed id) m := by
  unfold WakeSource.deinit
  rw [hfd]
  refine Holds.bind (holds_closeFd hslot) ?_
  rintro r m₁ ⟨rfl, ht, hlow, hclosed⟩
  exact ⟨rfl, ht, hlow, hclosed⟩

namespace DescriptorTable

/-- The descriptors of a platform that is up: the wake event at the reserved 8, the console at 3
and the radio at 4. -/
def platform (event cli radio : DeviceId) : DescriptorTable :=
  ((empty.insert Fd.reservedMin event).insert Fd.three cli).insert Fd.four radio

/-- Freeing the radio's, the console's and the wake event's descriptors, in that order, leaves
no descriptor in use. -/
theorem platform_erase (event cli radio : DeviceId) :
    (((platform event cli radio).erase Fd.four).erase Fd.three).erase Fd.reservedMin = empty := by
  simp only [platform, erase, insert, empty, mk.injEq]
  funext g
  split_ifs <;> rfl

end DescriptorTable

namespace Board

/-- The board can carry a platform for `P`: its console and its radio are two devices, and its
flash has the partition `P` names, large enough for the swap pages. -/
structure Fits (P : PlatformParams) (b : Board) : Prop where
  apart : b.cli ≠ b.radio
  flash : ∃ f, (Flash.new P.flash).init b.partitions = .ok f

/-- No platform is on the board: no descriptor is in use, the wake device is closed and the
console and radio UARTs have no driver. -/
structure Clean (P : PlatformParams) (b : Board) : Prop where
  fits : b.Fits P
  table : b.machine.table = .empty
  event : b.machine.EventClosed b.event
  cli : b.machine.UartIdle b.cli
  radio : b.machine.UartIdle b.radio

/-- The reset flag is no part of a clean board. -/
theorem Clean.setReset {P : PlatformParams} {b : Board} (hb : b.Clean P) (v : Bool) :
    Clean P { b with resetRequested := v } :=
  ⟨⟨hb.fits.apart, hb.fits.flash⟩, hb.table, hb.event, hb.cli, hb.radio⟩

/-- A board fresh from its parameters is clean for them. -/
theorem clean_new (P : PlatformParams) : (Board.new P).Clean P := by
  have hparts : (Board.new P).partitions = #[RamPartition.new P.flash.partition P.flash.swapSize] := rfl
  have hevent : (Board.new P).machine.devices[(Board.new P).event]? = some (.event EventLine.new) := rfl
  have hcli : (Board.new P).machine.uartAt (Board.new P).cli = some (Uart.new P.console.port) := rfl
  have hradio : (Board.new P).machine.uartAt (Board.new P).radio = some (Uart.new P.radio.port) := rfl
  have hapart : (Board.new P).cli ≠ (Board.new P).radio := by
    show (1 : Nat) ≠ 2
    decide
  refine ⟨⟨hapart, by simp [Flash.init, Flash.new, hparts, RamPartition.new]⟩, rfl, fun e he => ?_,
    fun u hu => ?_, fun u hu => ?_⟩
  · rw [hevent] at he
    cases he
    rfl
  · rw [hcli] at hu
    cases hu
    rfl
  · rw [hradio] at hu
    cases hu
    rfl

@[simp] theorem run_modify (f : Board → Board) (b : Board) :
    (modify f : BoardM PUnit).run.run b = (.ok ⟨⟩, f b) := rfl

end Board

namespace Platform

/-- A platform that is up on the board: it holds the wake event at 8, the console at 3 and the
radio at 4, on the board's devices, and the table names these three descriptors and no other. -/
structure Up (P : PlatformParams) (p : Platform) (b : Board) : Prop where
  fits : b.Fits P
  table : b.machine.table = .platform b.event b.cli b.radio
  wake : p.wake.fd = some Fd.reservedMin
  console : p.console.fd = some Fd.three
  radio : p.radio.fd = some Fd.four
  wakeDevice : p.wake.device = b.event
  consoleDevice : p.console.device = b.cli
  radioDevice : p.radio.device = b.radio

theorem exec_bringUp {P : PlatformParams} {b : Board} (hb : b.Clean P) :
    ∃ p b', exec bringUp (build b P) b = (.ok (.ok (), p), b') ∧ p.Up P b' ∧
      b'.resetRequested = b.resetRequested := by
  -- the wake event comes up at 8, the console at 3, the radio at 4, then the flash
  obtain ⟨hw, ht₁, hu₁⟩ := WakeSource.holds_init (w := (build b P).wake) (m := b.machine) hb.event
    (by rw [hb.table]; rfl)
  set m₁ := ((build b P).wake.init.run b.machine).2 with hm₁
  have hidle₁ : m₁.UartIdle b.cli := fun u hu => hb.cli u ((hu₁ b.cli).symm.trans hu)
  obtain ⟨m₂, hc, ht₂, hu₂⟩ := ConsolePort.exec_init (c := (build b P).console) (b := { b with machine := m₁ })
    hidle₁ (DescriptorTable.place_three (by rw [ht₁, hb.table]; rfl))
  have hidle₂ : m₂.UartIdle b.radio := fun u hu =>
    hb.radio u ((hu₁ b.radio).symm.trans ((hu₂ b.radio (Ne.symm hb.fits.apart)).symm.trans hu))
  obtain ⟨m₃, hr, ht₃, -⟩ := RadioLink.exec_init (r := (build b P).radio) (b := { b with machine := m₂ })
    hidle₂ (DescriptorTable.place_four (by rw [ht₂]; simp [DescriptorTable.insert]) (by rw [ht₂, ht₁, hb.table]; rfl))
  obtain ⟨f, hf⟩ := hb.fits.flash
  have hf' : (build b P).flash.init b.partitions = .ok f := hf
  simp only [bringUp, exec_bind, exec_get, exec_onMachine, hw, exec_modify, ← hm₁,
    exec_onConsole, hc, exec_onRadio, hr, exec_getBoard, hf']
  refine ⟨_, _, rfl, ⟨⟨hb.fits.apart, hb.fits.flash⟩, ?_, rfl, rfl, rfl, rfl, rfl, rfl⟩, rfl⟩
  show m₃.table = _
  rw [ht₃, ht₂, ht₁, hb.table]
  rfl

/-- A clean board takes a platform for valid parameters: the bring-up succeeds, every part comes
up, and no reset is left pending. -/
theorem init_clean {P : PlatformParams} {b : Board} (hP : P.validate = .ok ()) (hb : b.Clean P) :
    ∃ p b', (init P).run.run b = (.ok (.ok p), b') ∧ p.Up P b' ∧ b'.resetRequested = false := by
  obtain ⟨p, b', hrun, hup, hreq⟩ := exec_bringUp (hb.setReset false)
  have hrun' : (bringUp.run (build { b with resetRequested := false } P)).run.run
      { b with resetRequested := false } = (.ok (.ok (), p), b') := hrun
  refine ⟨p, b', ?_, hup, hreq⟩
  simp only [init, hP, run_bind, clearReset, run_modify, run_get, hrun', run_pure]

/-- Releasing a platform that is up leaves the board clean: the three descriptors are free, the
wake device is closed and both UARTs have no driver. -/
theorem deinit_up {P : PlatformParams} {p : Platform} {b : Board} (hu : p.Up P b) :
    ∃ p' b', exec deinit p b = (.ok ((), p'), b') ∧ b'.Clean P := by
  obtain ⟨m₂, hr, ht₂, hlow₂, -, hidle₂⟩ := RadioLink.exec_deinit (r := p.radio)
    (b := { b with settings := { b.settings with initialized := false } }) hu.radio
    (show _ = some b.radio by rw [hu.table]; rfl)
  obtain ⟨m₃, hc, ht₃, hlow₃, -, hidle₃⟩ := ConsolePort.exec_deinit (c := p.console)
    (b := { b with machine := m₂, settings := { b.settings with initialized := false } }) hu.console
    (show _ = some b.cli by rw [ht₂, hu.table]; rfl)
  obtain ⟨hw, ht₄, hlow₄, hclosed₄⟩ := WakeSource.holds_deinit (w := p.wake) (m := m₃) hu.wake
    (show _ = some b.event by rw [ht₃, ht₂, hu.table]; rfl)
  simp only [deinit, exec_bind, setSettingsUp, exec_liftM, run_modify, exec_modify, exec_onRadio, hr,
    exec_onConsole, hc, exec_get]
  refine ⟨_, _, rfl, ⟨hu.fits.apart, hu.fits.flash⟩, ?_, hclosed₄, ?_, ?_⟩
  · show (p.wake.deinit.run m₃).2.table = _
    rw [ht₄, ht₃, ht₂, hu.table]
    exact DescriptorTable.platform_erase _ _ _
  · exact hlow₄.uart _ (hu.consoleDevice ▸ hidle₃)
  · exact hlow₄.uart _ (hlow₃.uart _ (hu.radioDevice ▸ hidle₂))

end Platform
end ThreadPlatform
