import ThreadPlatform.Proofs.Platform.BringUp

/-!
# What a failed bring-up gives back

A bring-up takes descriptors and devices one part at a time: the wake event at the reserved
descriptor, then the console and the radio UARTs at the lowest free descriptors, then the flash
partition. When a part fails, the partial platform is released, part by part in the reverse
order, and each part gives back what it took.

`Device.seen` is what a bring-up takes from a device and must give back: its kind, whether it is
in use (a UART's driver installed, an event device open), and an event device's pending
activation. `Machine.Seen m m'` says that `m'` has the descriptor table of `m` and every device
seen as in `m`; `Machine.Lent m m' fd dev` says that `m'` is `m` with the device `dev`, down
before, brought up at the free descriptor `fd`. A part's bring-up fails with the machine seen
alike or lends its device (`WakeSource.holds_init_gives`, `Machine.port_cases`), and its release
gives a lent device back (`Machine.Lent.release`, `Machine.Lent.release_event`).

`Platform.Ledger p m₀ m` chains what the three parts hold, in the order they come up. A bring-up
that fails leaves such a ledger (`Platform.exec_bringUp_error`), and the release that follows
turns it back into a machine seen like `m₀` (`Platform.exec_deinit_gives`).

`Platform.failed_bringUp_gives_back`: on every board whose devices are of the kinds it names, a
failed `Platform.init` leaves the descriptor table and every device's state as it found them and
keeps every stored setting. It does not keep the settings store's own state: the release takes
the store down whenever the parameters were valid, also when a running platform had it up
(`Platform.second_init_lowers_settings`).
-/

namespace ThreadPlatform

namespace DescriptorTable

/-- `place` hands out a free descriptor and names the device there. -/
theorem place_eq_ok {t t' : DescriptorTable} {dev : DeviceId} {fd : Fd} (h : t.place dev = .ok (fd, t')) :
    t.slot fd = none ∧ t' = t.insert fd dev := by
  unfold place at h
  cases hf : dynamic.find? (fun fd => !t.isOpen fd) with
  | none => simp [hf] at h
  | some g =>
    simp only [hf, Except.ok.injEq, Prod.mk.injEq] at h
    obtain ⟨rfl, rfl⟩ := h
    have hfree := List.find?_some hf
    simp only [isOpen, Bool.not_eq_eq_eq_not, Bool.not_true, Option.isSome_eq_false_iff,
      Option.isNone_iff_eq_none] at hfree
    exact ⟨hfree, rfl⟩

@[simp] theorem slot_insert_self (t : DescriptorTable) (fd : Fd) (dev : DeviceId) :
    (t.insert fd dev).slot fd = some dev := by
  simp [insert]

/-- Freeing a descriptor just taken gives the table back. -/
theorem erase_insert {t : DescriptorTable} {fd : Fd} (h : t.slot fd = none) (dev : DeviceId) :
    (t.insert fd dev).erase fd = t := by
  cases t with
  | mk slot =>
    simp only [insert, erase, mk.injEq]
    funext g
    split_ifs with hg
    · subst hg
      exact h.symm
    · rfl

end DescriptorTable

namespace Device

/-- What a bring-up takes from a device and must give back: whether it is a UART, whether it is
in use, and an event device's pending activation. -/
def seen : Device → Bool × Bool × Bool
  | .uart u => (true, u.installed, false)
  | .event e => (false, e.isOpen, e.pending)

end Device

namespace Machine

/-- `m'` looks like `m` to a bring-up: the same descriptors, every device seen alike. -/
structure Seen (m m' : Machine) : Prop where
  table : m'.table = m.table
  devices : ∀ id : DeviceId, (m'.devices[id]?).map Device.seen = (m.devices[id]?).map Device.seen

/-- `m'` is `m` with the device `dev`, down before, brought up at the descriptor `fd`, free
before: the table names `dev` at `fd`, `dev` is still of its kind (a UART when `kind`), and every
other device is seen alike. -/
structure Lent (m m' : Machine) (fd : Fd) (dev : DeviceId) (kind : Bool) : Prop where
  free : m.table.slot fd = none
  table : m'.table = m.table.insert fd dev
  before : (m.devices[dev]?).map Device.seen = some (kind, false, false)
  after : ((m'.devices[dev]?).map Device.seen).map Prod.fst = some kind
  others : ∀ id : DeviceId, id ≠ dev → (m'.devices[id]?).map Device.seen = (m.devices[id]?).map Device.seen

namespace Seen
variable {m m₁ m₂ m₃ : Machine}

theorem refl (m : Machine) : Seen m m := ⟨rfl, fun _ => rfl⟩

theorem trans (h₁ : Seen m₁ m₂) (h₂ : Seen m₂ m₃) : Seen m₁ m₃ :=
  ⟨h₂.table.trans h₁.table, fun id => (h₂.devices id).trans (h₁.devices id)⟩

/-- Work on neither the devices nor the table. -/
theorem of_eq (hd : m₂.devices = m₁.devices) (ht : m₂.table = m₁.table) : Seen m₁ m₂ :=
  ⟨ht, fun id => by rw [hd]⟩

/-- Seen alike, a UART stays a UART with the same driver state. -/
theorem uartAt (h : Seen m₁ m₂) {id : DeviceId} {u : Uart} (hu : m₁.uartAt id = some u) :
    ∃ u', m₂.uartAt id = some u' ∧ u'.installed = u.installed := by
  have hd := h.devices id
  rw [uartAt_eq_some.1 hu] at hd
  cases hd₂ : m₂.devices[id]? with
  | none => simp [hd₂] at hd
  | some d =>
    rw [hd₂] at hd
    cases d with
    | uart u' =>
      simp only [Option.map_some, Option.some.injEq, Device.seen, Prod.mk.injEq, true_and] at hd
      exact ⟨u', uartAt_eq_some.2 hd₂, hd.1⟩
    | event e => simp [Device.seen] at hd

end Seen

/-- A lent device stays lent whatever is done after that leaves the machine seen alike. -/
theorem Lent.seen {m m' m'' : Machine} {fd : Fd} {dev : DeviceId} {kind : Bool} (h : Lent m m' fd dev kind)
    (h' : Seen m' m'') : Lent m m'' fd dev kind :=
  ⟨h.free, h'.table.trans h.table, h.before, by rw [h'.devices dev]; exact h.after,
    fun id hid => (h'.devices id).trans (h.others id hid)⟩

/-- Lending a device keeps every UART a UART. -/
theorem Lent.uartAt {m m' : Machine} {fd : Fd} {dev : DeviceId} {kind : Bool} (h : Lent m m' fd dev kind)
    {id : DeviceId} {u : Uart} (hu : m.uartAt id = some u) : ∃ u', m'.uartAt id = some u' := by
  have hkind : ((m'.devices[id]?).map Device.seen).map Prod.fst = some true := by
    by_cases hid : id = dev
    · subst hid
      have hb := h.before
      rw [uartAt_eq_some.1 hu] at hb
      simp only [Option.map_some, Option.some.injEq, Device.seen, Prod.mk.injEq] at hb
      rw [h.after, ← hb.1]
    · rw [h.others id hid, uartAt_eq_some.1 hu]
      rfl
  cases hd : m'.devices[id]? with
  | none => simp [hd] at hkind
  | some d =>
    cases d with
    | uart u' => exact ⟨u', uartAt_eq_some.2 hd⟩
    | event e => simp [hd, Device.seen] at hkind

/-! ## The device work of a bring-up, on a device of known kind -/

section Primitives
variable {m : Machine} {id : DeviceId}

theorem getElem?_modify_self {d₀ : Device} (h : m.devices[id]? = some d₀) (d : Device) :
    (m.devices.modify id fun _ => d)[id]? = some d := by
  rw [Array.getElem?_modify, if_pos rfl, h]
  rfl

theorem getElem?_modify_ne {j : DeviceId} (h : j ≠ id) (f : Device → Device) :
    (m.devices.modify id f)[j]? = m.devices[j]? := by
  rw [Array.getElem?_modify, if_neg (Ne.symm h)]

theorem holds_openEvent_open {e : EventLine} (he : m.devices[id]? = some (.event e)) (ho : e.isOpen = true) :
    Holds (openEvent id) (fun r m' => r = .error .alreadyOpen ∧ m' = m) m := by
  simp [openEvent, eventLine?, he, EventLine.openDevice, ho]

theorem holds_openEvent_closed {e : EventLine} (he : m.devices[id]? = some (.event e)) (ho : e.isOpen = false) :
    Holds (openEvent id) (fun r m' => r = .ok () ∧
      m' = { m with devices := m.devices.modify id fun _ => .event { e with isOpen := true, pending := false } }) m := by
  simp [openEvent, eventLine?, he, EventLine.openDevice, ho, setDevice]

theorem holds_openReserved_taken {fd : Fd} {d : DeviceId} (h : m.table.slot fd = some d) :
    Holds (openReserved fd id) (fun r m' => (∃ e, r = .error e) ∧ m' = m) m := by
  have hfail : ∃ e, m.table.placeReserved fd id = .error e := by
    unfold DescriptorTable.placeReserved
    split
    · exact ⟨_, rfl⟩
    · simp [DescriptorTable.isOpen, h]
  obtain ⟨e, he⟩ := hfail
  simp [openReserved, he]

theorem holds_deviceClose_event {e : EventLine} (he : m.devices[id]? = some (.event e)) :
    Holds (deviceClose id) (fun _ m' => m' = { m with devices := m.devices.modify id fun _ => .event e.closeDevice }) m := by
  simp [deviceClose, eventLine?, he, setDevice]

theorem holds_deviceClose_uart {u : Uart} (hu : m.devices[id]? = some (.uart u)) :
    Holds (deviceClose id) (fun _ m' => m' = m) m := by
  simp [deviceClose, eventLine?, hu]

theorem holds_install_installed {u : Uart} (hu : m.uartAt id = some u) (hi : u.installed = true)
    (p : UartParams) (rxSize txSize : Nat) :
    Holds (install id p rxSize txSize) (fun r m' => r = .error .alreadyOpen ∧ m' = m) m := by
  simp [install, hu, Uart.install, hi]

theorem holds_install_idle {u : Uart} (hu : m.uartAt id = some u) (hi : u.installed = false)
    (p : UartParams) (rxSize txSize : Nat) :
    Holds (install id p rxSize txSize) (fun r m' => r = .ok () ∧
      ∃ u', u'.installed = true ∧ m' = { m with devices := m.devices.modify id fun _ => .uart u' }) m := by
  simp only [install, holds_bind, holds_uart?, hu, Uart.install, hi, Bool.false_eq_true, ↓reduceIte, setDevice,
    holds_modify, holds_pure, true_and]
  exact ⟨_, rfl, rfl⟩

theorem holds_uninstall_uart {u : Uart} (hu : m.uartAt id = some u) :
    Holds (uninstall id) (fun _ m' => m' = { m with devices := m.devices.modify id fun _ => .uart u.uninstall }) m := by
  simp [uninstall, updateUart, hu, setDevice]

theorem holds_openFd_full {e : TableError} (h : m.table.place id = .error e) :
    Holds (openFd id) (fun r m' => r = .error e ∧ m' = m) m := by
  simp [openFd, h]

theorem holds_uninstall_event {e : EventLine} (he : m.devices[id]? = some (.event e)) :
    Holds (uninstall id) (fun _ m' => m' = m) m := by
  have hu : m.uartAt id = none := by simp [uartAt, he]
  simp [uninstall, updateUart, hu]

end Primitives

/-! ## Seen alike, and lent -/

section Modify
variable {m : Machine} {id : DeviceId} {d₀ : Device}

/-- A device put at `id` and then replaced by one seen like the device there before leaves the
machine seen alike. -/
theorem seen_modify_twice (h : m.devices[id]? = some d₀) (d₁ d₂ : Device) (hs : d₂.seen = d₀.seen) :
    Seen m { m with devices := (m.devices.modify id fun _ => d₁).modify id fun _ => d₂ } := by
  refine ⟨rfl, fun j => ?_⟩
  by_cases hj : j = id
  · subst hj
    have h₁ : (m.devices.modify j fun _ => d₁)[j]? = some d₁ := getElem?_modify_self h d₁
    rw [getElem?_modify_self (m := { m with devices := m.devices.modify j fun _ => d₁ }) h₁, h]
    simp [hs]
  · rw [getElem?_modify_ne (m := { m with devices := m.devices.modify id fun _ => d₁ }) hj,
      getElem?_modify_ne hj]

/-- A device that is down, replaced by one of its kind and placed at a free descriptor, is lent. -/
theorem lent_modify (h : m.devices[id]? = some d₀) (hdown : d₀.seen.2 = (false, false)) {d : Device}
    (hk : d.seen.1 = d₀.seen.1) {fd : Fd} (hfree : m.table.slot fd = none) :
    Lent m { m with devices := m.devices.modify id fun _ => d, table := m.table.insert fd id } fd id d₀.seen.1 := by
  refine ⟨hfree, rfl, ?_, ?_, fun j hj => by rw [getElem?_modify_ne hj]⟩
  · rw [h, Option.map_some, ← hdown]
  · rw [getElem?_modify_self h d]
    simp [hk]

end Modify

section Release
variable {m m' : Machine} {fd : Fd} {dev : DeviceId} {kind : Bool}

/-- A lent device is still there, of its kind. -/
theorem Lent.device (h : Lent m m' fd dev kind) : ∃ d, m'.devices[dev]? = some d ∧ d.seen.1 = kind := by
  have ha := h.after
  cases hd : m'.devices[dev]? with
  | none => simp [hd] at ha
  | some d => exact ⟨d, rfl, by simpa [hd] using ha⟩

/-- A lent device let go, so that it is seen as before it was lent, with its descriptor freed,
gives back a machine seen like the one it was lent from. -/
theorem Lent.giveBack (h : Lent m m' fd dev kind) {d d' : Device} (hd : m'.devices[dev]? = some d)
    (hd' : d'.seen = (kind, false, false)) :
    Seen m { m' with table := m'.table.erase fd, devices := m'.devices.modify dev fun _ => d' } := by
  refine ⟨by rw [h.table, DescriptorTable.erase_insert h.free], fun j => ?_⟩
  by_cases hj : j = dev
  · subst hj
    rw [getElem?_modify_self hd, h.before, Option.map_some, hd']
  · rw [getElem?_modify_ne hj]
    exact h.others j hj

/-- Releasing a lent device, by freeing its descriptor and removing any driver, gives back a
machine seen like the one it was lent from. -/
theorem Lent.release (h : Lent m m' fd dev kind) :
    Holds (closeFd fd) (fun r m₁ => r = .ok () ∧ Holds (uninstall dev) (fun _ m₂ => Seen m m₂) m₁) m' := by
  have hslot : m'.table.slot fd = some dev := by rw [h.table]; simp
  simp only [closeFd, DescriptorTable.remove, hslot, holds_bind, holds_get, holds_modify, holds_pure, true_and]
  obtain ⟨d, hd, hk⟩ := h.device
  -- the device is let go whatever its kind: a UART loses its driver, an event device closes
  cases d with
  | uart u =>
    refine (holds_deviceClose_uart (m := { m' with table := m'.table.erase fd }) hd).mono ?_
    rintro - m₁ rfl
    refine (holds_uninstall_uart (m := { m' with table := m'.table.erase fd }) (uartAt_eq_some.2 hd)).mono ?_
    rintro - m₂ rfl
    exact h.giveBack hd (by rw [← hk]; rfl)
  | event e =>
    refine (holds_deviceClose_event (m := { m' with table := m'.table.erase fd }) hd).mono ?_
    rintro - m₁ rfl
    refine (holds_uninstall_event (m := { m' with
      table := m'.table.erase fd, devices := m'.devices.modify dev fun _ => .event e.closeDevice })
      (getElem?_modify_self hd _)).mono ?_
    rintro - m₂ rfl
    exact h.giveBack hd (by rw [← hk]; rfl)

/-- Releasing a lent event device by freeing its descriptor gives back a machine seen like the
one it was lent from. -/
theorem Lent.release_event (h : Lent m m' fd dev false) :
    Holds (closeFd fd) (fun r m₁ => r = .ok () ∧ Seen m m₁) m' := by
  have hslot : m'.table.slot fd = some dev := by rw [h.table]; simp
  simp only [closeFd, DescriptorTable.remove, hslot, holds_bind, holds_get, holds_modify, holds_pure, true_and]
  obtain ⟨d, hd, hk⟩ := h.device
  cases d with
  | uart u => cases hk
  | event e =>
    refine (holds_deviceClose_event (m := { m' with table := m'.table.erase fd }) hd).mono ?_
    rintro - m₁ rfl
    exact h.giveBack hd (by rw [← hk]; rfl)

end Release

/-- What bringing a UART port up does to the machine, in three cases: the driver is already
installed and nothing changes; no descriptor is free, and the driver is removed again, leaving the
machine seen alike; or the device is lent at the descriptor `place` hands out. -/
theorem port_cases {m : Machine} {dev : DeviceId} {u : Uart} (hu : m.uartAt dev = some u) (p : UartParams)
    (rxSize txSize : Nat) :
    (install dev p rxSize txSize).run m = (.error .alreadyOpen, m) ∨
    (∃ m₁ e, (install dev p rxSize txSize).run m = (.ok (), m₁) ∧ (openFd dev).run m₁ = (.error e, m₁) ∧
      m.Seen ((uninstall dev).run m₁).2) ∨
    (∃ m₁ fd m₂, (install dev p rxSize txSize).run m = (.ok (), m₁) ∧ (openFd dev).run m₁ = (.ok fd, m₂) ∧
      m.Lent m₂ fd dev true) := by
  have hd := uartAt_eq_some.1 hu
  cases hi : u.installed with
  | true =>
    obtain ⟨hr, hm⟩ := holds_install_installed hu hi p rxSize txSize
    exact .inl (Prod.ext hr hm)
  | false =>
    obtain ⟨hr, u', hi', hm₁⟩ := holds_install_idle hu hi p rxSize txSize
    have hu' := WireFrame.uartAt_modify_self hu u'
    cases hplace : m.table.place dev with
    | error e =>
      -- no descriptor: the driver goes again, and the UART is seen as before
      obtain ⟨hr', hm₂⟩ := holds_openFd_full (m := { m with devices := m.devices.modify dev fun _ => .uart u' }) hplace
      refine .inr (.inl ⟨_, e, Prod.ext hr hm₁, Prod.ext hr' hm₂, ?_⟩)
      have hm₃ : ((uninstall dev).run { m with devices := m.devices.modify dev fun _ => .uart u' }).2 = _ :=
        holds_uninstall_uart hu'
      rw [hm₃]
      exact seen_modify_twice hd _ _ (by simp [Device.seen, Uart.uninstall, hi])
    | ok r =>
      obtain ⟨fd, t⟩ := r
      obtain ⟨hr', hm₂⟩ := holds_openFd (m := { m with devices := m.devices.modify dev fun _ => .uart u' }) hplace
      obtain ⟨hfree, rfl⟩ := DescriptorTable.place_eq_ok hplace
      refine .inr (.inr ⟨_, fd, _, Prod.ext hr hm₁, Prod.ext hr' hm₂, ?_⟩)
      exact lent_modify hd (by simp [Device.seen, hi]) (by simp [Device.seen, hi']) hfree

/-- What one part of a platform holds of the machine `m` it came up on, in the machine `m'`: with
no descriptor, `m'` is seen like `m`; with the descriptor `fd`, its device `dev` is lent there. -/
def Holding (fd : Option Fd) (dev : DeviceId) (kind : Bool) (m m' : Machine) : Prop :=
  match fd with
  | none => Seen m m'
  | some fd => Lent m m' fd dev kind

namespace Holding
variable {fd : Option Fd} {dev : DeviceId} {kind : Bool} {m m' m'' : Machine}

/-- What a part holds stays so through work that leaves the machine seen alike. -/
theorem seen (h : Holding fd dev kind m m') (h' : Seen m' m'') : Holding fd dev kind m m'' := by
  cases fd with
  | none => exact Seen.trans h h'
  | some fd => exact Lent.seen h h'

/-- Whatever a part holds, every UART stays a UART. -/
theorem uartAt (h : Holding fd dev kind m m') {id : DeviceId} {u : Uart} (hu : m.uartAt id = some u) :
    ∃ u', m'.uartAt id = some u' := by
  cases fd with
  | none =>
    obtain ⟨u', hu', -⟩ := Seen.uartAt h hu
    exact ⟨u', hu'⟩
  | some fd => exact Lent.uartAt h hu

end Holding

end Machine

open Board Machine

/-- What bringing the wake source up does, in two cases: it fails with the machine seen alike, or
it lends the event device at the reserved descriptor. The device must be pending only while open:
opening it and closing it again clears a pending activation. -/
theorem WakeSource.holds_init_gives {w : WakeSource} {m : Machine} {e : EventLine}
    (he : m.devices[w.device]? = some (.event e)) (hp : e.pending = true → e.isOpen = true) :
    Holds w.init (fun r m' => (∃ err, r = .error err) ∧ m.Seen m' ∨
      r = .ok { w with fd := some Fd.reservedMin } ∧ m.Lent m' Fd.reservedMin w.device false) m := by
  unfold WakeSource.init
  cases ho : e.isOpen with
  | true =>
    refine Holds.bind (holds_openEvent_open he ho) ?_
    rintro r m₁ ⟨rfl, rfl⟩
    exact .inl ⟨⟨_, rfl⟩, .refl _⟩
  | false =>
    have hpend : e.pending = false := by
      cases hq : e.pending
      · rfl
      · simpa [ho] using hp hq
    have hdown : (Device.event e).seen.2 = (false, false) := by simp [Device.seen, ho, hpend]
    refine Holds.bind (holds_openEvent_closed he ho) ?_
    rintro r m₁ ⟨rfl, hm₁⟩
    have he₁ : m₁.devices[w.device]? = some (.event { e with isOpen := true, pending := false }) := by
      rw [hm₁]
      exact getElem?_modify_self he _
    have ht₁ : m₁.table = m.table := by rw [hm₁]
    cases hs : m.table.slot Fd.reservedMin with
    | none =>
      refine Holds.bind (holds_openReserved (by decide) (ht₁ ▸ hs)) ?_
      rintro r m₂ ⟨rfl, rfl⟩
      subst hm₁
      exact .inr ⟨rfl, lent_modify (d := .event { e with isOpen := true, pending := false }) he hdown rfl hs⟩
    | some d =>
      -- the reserved descriptor is taken: the device is closed again, as it was
      refine Holds.bind (holds_openReserved_taken (ht₁ ▸ hs)) ?_
      rintro r m₂ ⟨⟨err, rfl⟩, rfl⟩
      simp only [holds_bind]
      refine (holds_deviceClose_event he₁).mono ?_
      rintro - m₃ rfl
      subst hm₁
      exact .inl ⟨⟨_, rfl⟩, seen_modify_twice he _ _ (by simp [Device.seen, EventLine.closeDevice, ho, hpend])⟩

/-- The wake source's release gives back what it holds. -/
theorem WakeSource.holds_deinit_gives {w : WakeSource} {m₀ m : Machine} (h : Holding w.fd w.device false m₀ m) :
    Holds w.deinit (fun _ m' => m₀.Seen m') m := by
  unfold WakeSource.deinit
  cases hfd : w.fd with
  | none =>
    rw [hfd] at h
    exact h
  | some fd =>
    rw [hfd] at h
    refine Holds.bind (Lent.release_event h) ?_
    rintro r m₁ ⟨rfl, hs⟩
    exact hs

namespace ConsolePort

/-- Bringing the console up on a UART leaves the machine held as `Holding` says. -/
theorem exec_init_holding {c : ConsolePort} {b : Board} {u : Uart} (hfd : c.fd = none)
    (hu : b.machine.uartAt c.device = some u) :
    ∃ r c' m, exec init c b = (.ok (r, c'), { b with machine := m }) ∧ c'.device = c.device ∧
      Holding c'.fd c'.device true b.machine m := by
  rcases port_cases hu c.params c.rxSize c.txSize with h | ⟨m₁, e, h₁, h₂, hs⟩ | ⟨m₁, fd, m₂, h₁, h₂, hl⟩
  · refine ⟨.error (.uart c.params.port .alreadyOpen), c, b.machine, ?_, rfl, by rw [hfd]; exact .refl _⟩
    simp only [init, exec_bind, exec_get, exec_onMachine, h, exec_pure]
  · refine ⟨.error (.table e), c, _, ?_, rfl, by rw [hfd]; exact hs⟩
    simp only [init, exec_bind, exec_get, exec_onMachine, h₁, h₂, exec_pure]
  · refine ⟨.ok (), { c with fd := some fd }, m₂, ?_, rfl, hl⟩
    simp only [init, exec_bind, exec_get, exec_onMachine, h₁, h₂, exec_set, exec_pure]

/-- Releasing the console gives back what it holds. -/
theorem exec_deinit_gives {c : ConsolePort} {b : Board} {m₀ : Machine} (h : Holding c.fd c.device true m₀ b.machine) :
    ∃ m, exec deinit c b = (.ok ((), { c with fd := none, sendsDone := 0 }), { b with machine := m }) ∧ m₀.Seen m := by
  cases hfd : c.fd with
  | none =>
    rw [hfd] at h
    refine ⟨b.machine, ?_, h⟩
    simp only [deinit, exec_bind, exec_get, hfd, exec_set]
  | some fd =>
    rw [hfd] at h
    obtain ⟨hr, hs⟩ := Lent.release h
    refine ⟨_, ?_, hs⟩
    simp only [deinit, exec_bind, exec_get, hfd, exec_onMachine, hr, exec_set]

end ConsolePort

namespace RadioLink

/-- Bringing the radio up on a UART leaves the machine held as `Holding` says. -/
theorem exec_init_holding {r : RadioLink} {b : Board} {u : Uart} (hfd : r.fd = none)
    (hu : b.machine.uartAt r.device = some u) :
    ∃ x r' m, Board.exec init r b = (.ok (x, r'), { b with machine := m }) ∧ r'.device = r.device ∧
      Holding r'.fd r'.device true b.machine m := by
  rcases port_cases hu r.params r.rxSize r.txSize with h | ⟨m₁, e, h₁, h₂, hs⟩ | ⟨m₁, fd, m₂, h₁, h₂, hl⟩
  · refine ⟨.error (.uart r.params.port .alreadyOpen), r, b.machine, ?_, rfl, by rw [hfd]; exact .refl _⟩
    simp only [init, Board.exec_bind, Board.exec_get, Board.exec_onMachine, h, Board.exec_pure]
  · refine ⟨.error (.table e), r, _, ?_, rfl, by rw [hfd]; exact hs⟩
    simp only [init, Board.exec_bind, Board.exec_get, Board.exec_onMachine, h₁, h₂, Board.exec_pure]
  · -- the note that the radio is ready touches only the journal
    simp only [init, Board.exec_bind, Board.exec_get, Board.exec_onMachine, h₁, h₂, Board.exec_set, Board.log, Board.exec_pure]
    exact ⟨_, _, _, rfl, rfl, Lent.seen hl (Seen.of_eq rfl rfl)⟩

/-- Releasing the radio gives back what it holds. -/
theorem exec_deinit_gives {r : RadioLink} {b : Board} {m₀ : Machine} (h : Holding r.fd r.device true m₀ b.machine) :
    ∃ m, Board.exec deinit r b = (.ok ((), { r with fd := none }), { b with machine := m }) ∧ m₀.Seen m := by
  cases hfd : r.fd with
  | none =>
    rw [hfd] at h
    refine ⟨b.machine, ?_, h⟩
    simp only [deinit, Board.exec_bind, Board.exec_get, hfd, Board.exec_set]
  | some fd =>
    rw [hfd] at h
    obtain ⟨hr, hs⟩ := Lent.release h
    refine ⟨_, ?_, hs⟩
    simp only [deinit, Board.exec_bind, Board.exec_get, hfd, Board.exec_onMachine, hr, Board.exec_set]

end RadioLink

/-- The board's devices are of the kinds a platform takes: an event device for the wake source,
pending only while open, and UARTs for the console and the radio. -/
structure Board.Wired (b : Board) : Prop where
  event : ∃ e, b.machine.devices[b.event]? = some (.event e) ∧ (e.pending = true → e.isOpen = true)
  cli : ∃ u, b.machine.uartAt b.cli = some u
  radio : ∃ u, b.machine.uartAt b.radio = some u

/-- A board fresh from its parameters is wired. -/
theorem Board.wired_new (P : PlatformParams) : (Board.new P).Wired :=
  ⟨⟨EventLine.new, rfl, fun h => nomatch h⟩, ⟨_, rfl⟩, ⟨_, rfl⟩⟩

namespace Platform

/-- What the parts of `p`, brought up one after another from the machine `m₀`, hold of the
machine `m`: the wake source of what `m₀` had, the console of what the wake source left, the radio
of what the console left. -/
def Ledger (p : Platform) (m₀ m : Machine) : Prop :=
  ∃ m₁ m₂, Holding p.wake.fd p.wake.device false m₀ m₁ ∧ Holding p.console.fd p.console.device true m₁ m₂ ∧
    Holding p.radio.fd p.radio.device true m₂ m

/-- Releasing a platform gives back everything its parts hold, in the reverse order, and takes
the settings store down. -/
theorem exec_deinit_gives {p : Platform} {b : Board} {m₀ : Machine} (h : p.Ledger m₀ b.machine) :
    ∃ p' m, exec deinit p b =
      (.ok ((), p'), { b with machine := m, settings := { b.settings with initialized := false } }) ∧ m₀.Seen m := by
  obtain ⟨m₁, m₂, hw, hc, hr⟩ := h
  obtain ⟨mr, hmr, hsr⟩ := RadioLink.exec_deinit_gives (b := { b with settings := { b.settings with initialized := false } }) hr
  obtain ⟨mc, hmc, hsc⟩ := ConsolePort.exec_deinit_gives
    (b := { b with machine := mr, settings := { b.settings with initialized := false } }) (hc.seen hsr)
  have hmw := WakeSource.holds_deinit_gives (m := mc) (hw.seen hsc)
  simp only [deinit, exec_bind, setSettingsUp, exec_liftM, run_modify, exec_modify, exec_onRadio, hmr,
    exec_onConsole, hmc, exec_get]
  exact ⟨_, _, rfl, hmw⟩

/-- A bring-up that fails leaves the board as it was but for its machine, of which its parts hold
what the ledger says. -/
theorem exec_bringUp_error {P : PlatformParams} {b b' : Board} {p : Platform} {e : BringUpError}
    (hb : b.Wired) (h : exec bringUp (build b P) b = (.ok (.error e, p), b')) :
    p.Ledger b.machine b'.machine ∧ b' = { b with machine := b'.machine } := by
  obtain ⟨ev, hev, hpend⟩ := hb.event
  obtain ⟨uc, huc⟩ := hb.cli
  obtain ⟨ur, hur⟩ := hb.radio
  rcases WakeSource.holds_init_gives (w := (build b P).wake) hev hpend with ⟨⟨err, hw⟩, hs⟩ | ⟨hw, hl⟩
  case inl =>
    -- the wake source failed: nothing is held
    simp only [bringUp, exec_bind, exec_get, exec_onMachine, hw, exec_pure, Prod.mk.injEq, Except.ok.injEq] at h
    obtain ⟨⟨-, rfl⟩, rfl⟩ := h
    exact ⟨⟨_, _, hs, .refl _, .refl _⟩, rfl⟩
  case inr =>
  obtain ⟨uc₁, huc₁⟩ := hl.uartAt huc
  obtain ⟨rc, c, mc, hc, -, hcl⟩ := ConsolePort.exec_init_holding (c := (build b P).console)
    (b := { b with machine := ((build b P).wake.init.run b.machine).2 }) rfl huc₁
  rcases rc with err | ⟨⟩
  case error =>
    -- the console failed: the wake source holds its device
    simp only [bringUp, exec_bind, exec_get, exec_onMachine, hw, exec_modify, exec_onConsole, hc, exec_pure,
      Prod.mk.injEq, Except.ok.injEq] at h
    obtain ⟨⟨-, rfl⟩, rfl⟩ := h
    exact ⟨⟨_, mc, hl, hcl, .refl _⟩, rfl⟩
  obtain ⟨ur₁, hur₁⟩ := hcl.uartAt (hl.uartAt hur).choose_spec
  obtain ⟨rr, r, mr, hr, -, hrl⟩ := RadioLink.exec_init_holding (r := (build b P).radio)
    (b := { b with machine := mc }) rfl hur₁
  rcases rr with err | ⟨⟩
  case error =>
    -- the radio failed: the wake source and the console hold theirs
    simp only [bringUp, exec_bind, exec_get, exec_onMachine, hw, exec_modify, exec_onConsole, hc, exec_onRadio, hr,
      exec_pure, Prod.mk.injEq, Except.ok.injEq] at h
    obtain ⟨⟨-, rfl⟩, rfl⟩ := h
    exact ⟨⟨_, mc, hl, hcl, hrl⟩, rfl⟩
  -- all three are up; only the flash can fail
  cases hf : (build b P).flash.init b.partitions with
  | error err =>
    simp only [bringUp, exec_bind, exec_get, exec_onMachine, hw, exec_modify, exec_onConsole, hc, exec_onRadio, hr,
      exec_getBoard, hf, exec_pure, Prod.mk.injEq, Except.ok.injEq] at h
    obtain ⟨⟨-, rfl⟩, rfl⟩ := h
    exact ⟨⟨_, mc, hl, hcl, hrl⟩, rfl⟩
  | ok f =>
    simp only [bringUp, exec_bind, exec_get, hw, exec_modify, exec_onConsole, hc, exec_onRadio, hr,
      exec_getBoard, hf, exec_liftM, setSettingsUp, run_modify, Board.log, run_onMachine, exec_pure, Prod.mk.injEq,
      Except.ok.injEq, reduceCtorEq, false_and] at h

/-- A failed `init` on a wired board gives back every descriptor and every device as it found
them: the table, each UART's driver state, the wake event's open and pending state. The settings
store keeps every value, but the release of the partial platform takes the store down whenever the
parameters were valid, also when it was up before the call. -/
theorem failed_bringUp_gives_back {P : PlatformParams} {b b' : Board} {e : BringUpError} (hb : b.Wired)
    (h : (init P).run.run b = (.ok (.error e), b')) :
    b.machine.Seen b'.machine ∧ b'.settings.values = b.settings.values ∧
      b'.settings.initialized = (if P.validate.isOk then false else b.settings.initialized) := by
  cases hv : P.validate with
  | error ce =>
    -- refused parameters: the board is not touched
    simp only [init, hv, run_pure] at h
    obtain ⟨-, rfl⟩ := h
    exact ⟨.refl _, rfl, rfl⟩
  | ok u =>
    have hb₁ : Board.Wired { b with resetRequested := false } := ⟨hb.event, hb.cli, hb.radio⟩
    have hrun : ∀ b₁ : Board, (bringUp.run (build b₁ P)).run.run b₁ = exec bringUp (build b₁ P) b₁ := fun _ => rfl
    have hdeinit : ∀ (p : Platform) (b₂ : Board), (deinit.run p).run.run b₂ = exec deinit p b₂ := fun _ _ => rfl
    simp only [init, hv, run_bind, clearReset, run_modify, run_get, hrun] at h
    rcases hbu : exec bringUp (build { b with resetRequested := false } P) { b with resetRequested := false }
      with ⟨fatal | ⟨r, p⟩, b₂⟩
    · simp only [hbu] at h
      cases h
    rcases r with e' | ⟨⟩
    case ok =>
      simp only [hbu] at h
      cases h
    -- the bring-up failed part way: the release gives back what its parts hold
    obtain ⟨hledger, hb₂⟩ := exec_bringUp_error hb₁ hbu
    obtain ⟨p', m, hd, hseen⟩ := exec_deinit_gives hledger
    simp only [hbu, hdeinit, hd, run_bind, run_pure] at h
    cases h
    rw [hb₂]
    exact ⟨hseen, rfl, rfl⟩

/-- The failure an `init` answered with, if it failed. -/
def failure? : Except Fatal (Except BringUpError Platform) → Option BringUpError
  | .ok (.error e) => some e
  | _ => none

theorem failure?_eq_some {r : Except Fatal (Except BringUpError Platform)} {e : BringUpError}
    (h : failure? r = some e) : r = .ok (.error e) := by
  rcases r with _ | _ | _ <;> simp_all [failure?]

/-- A board without the partition the parameters name: the console and the radio come up and are
released again, the store that was up is taken down, and every value stays. -/
theorem failed_bringUp_without_partition :
    let b := { Board.new .standard with partitions := #[], settings := { SettingsStore.empty with initialized := true } }
    let r := (init .standard).run.run b
    b.Wired ∧ failure? r.1 = some (.partitionNotFound "ot_storage") ∧
      b.machine.Seen r.2.machine ∧ r.2.settings.values = b.settings.values ∧ r.2.settings.initialized = false := by
  intro b r
  have hw : b.Wired := ⟨(Board.wired_new _).event, (Board.wired_new _).cli, (Board.wired_new _).radio⟩
  have hf : failure? r.1 = some (.partitionNotFound "ot_storage") := by
    dsimp only [r, b]
    decide +kernel
  obtain ⟨hseen, hvals, hinit⟩ := failed_bringUp_gives_back hw (Prod.ext (failure?_eq_some hf) rfl)
  rw [PlatformParams.validate_standard] at hinit
  exact ⟨hw, hf, hseen, hvals, hinit⟩

/-- A second `init` on a board whose platform is up fails, since the wake event is already open,
and still takes down the settings store the running platform uses. -/
theorem second_init_lowers_settings :
    let up := ((init .standard).run.run (Board.new .standard)).2
    let next := (init .standard).run.run up
    up.settings.initialized = true ∧ failure? next.1 = some (.table (.device .alreadyOpen)) ∧
      next.2.settings.initialized = false := by
  intro up next
  dsimp only [next, up]
  decide +kernel

end Platform

end ThreadPlatform
