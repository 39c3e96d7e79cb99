import ThreadPlatform.Proofs.Machine.SelectOutcome
/-!
# The waits never run out of room

Each wait of the machine is given room for one more turn than there are wire events ahead
(`Machine.eventsLeft`): a wait on the signal (`Machine.awaitSignal`) and the rounds of a
`select` (`Machine.selectRounds`). This module shows that the room is never short, so that the
waits answer as the unbounded loops they stand for, and what a `select` leaves for the loops that
wait on one.

* Every wire event the machine runs raises the signal for each watched device it changes
  (`Machine.signalsChanges_fireNext`), and spends (`Machine.fireNext_spends`): the events left go
  down, and so does what is ahead of each device, its `Machine.potential`, which counts an
  interruption pending on it as well.
* A wait on the signal with room for more turns than events ahead answers as with any more room
  (`Machine.awaitSignal_room`). So do the rounds of a `select` (`Machine.selectRounds_room`): each
  round that goes on consumed the signal, raised before its wait or by an event the wait ran. The
  room the machine gives them is enough (`Machine.waitSignal_enough`, `Machine.selectRounds_enough`).
* How a wait on the signal ends (`Machine.awaitSignal_spends`), and how the rounds of a `select`
  end (`Machine.selectRounds_spends`): an interrupted `select` consumed an interruption, so the
  potential of that device went down; one that answers with a context leaves no interruption
  pending on the devices it waited on, and one that found nothing ready waited until its timeout
  (`Machine.select_spends`).
-/

namespace ThreadPlatform

namespace Machine

/-! ## Wire events wake the watcher -/

/-- From `m` to `m'` the signal, once raised, stayed raised; every device kept whether a `select`
watches it; and every watched device that changed raised the signal. -/
structure Wakes (m m' : Machine) : Prop where
  signal : m.signal = true → m'.signal = true
  watched : ∀ j : DeviceId, (m'.devices[j]?).map Device.watched = (m.devices[j]?).map Device.watched
  woke : ∀ (j : DeviceId) d, m.devices[j]? = some d → d.watched = true → m'.devices[j]? = some d ∨ m'.signal = true

namespace Wakes

theorem refl (m : Machine) : Wakes m m :=
  ⟨id, fun _ => rfl, fun _ _ hd _ => .inl hd⟩

theorem trans {m₁ m₂ m₃ : Machine} (h₁ : Wakes m₁ m₂) (h₂ : Wakes m₂ m₃) : Wakes m₁ m₃ := by
  refine ⟨h₂.signal ∘ h₁.signal, fun j => (h₂.watched j).trans (h₁.watched j), ?_⟩
  intro j d hd hw
  rcases h₁.woke j d hd hw with hd₂ | hs₂
  · exact h₂.woke j d hd₂ hw
  · exact .inr (h₂.signal hs₂)

/-- A step that leaves every device alone and lowers no signal. -/
theorem of_devices {m m' : Machine} (hd : m'.devices = m.devices) (hs : m.signal = true → m'.signal = true) :
    Wakes m m' :=
  ⟨hs, fun j => by rw [hd], fun j d hj _ => .inl (hd ▸ hj)⟩

/-- A step that replaces the device `id` by `d'`, which keeps its registration, and raises the
signal by that registration whenever `b` says that the device changed. -/
theorem of_update {m m' : Machine} {id : DeviceId} {d d' : Device} {b : Bool}
    (hd : m.devices[id]? = some d) (hdev : m'.devices = m.devices.modify id fun _ => d')
    (hw : d'.watched = d.watched) (hsig : m'.signal = (m.signal || (b && d.watched)))
    (hb : b = false → d' = d) : Wakes m m' := by
  refine ⟨fun h => by simp [hsig, h], fun j => ?_, fun j d₀ hj hw₀ => ?_⟩
  · rw [hdev, Array.getElem?_modify]
    split
    · next hij =>
      subst hij
      simp [hd, hw]
    · rfl
  · rw [hdev, Array.getElem?_modify]
    split
    · next hij =>
      subst hij
      rw [hd] at hj
      cases hj
      cases b with
      | false => exact .inl (by simp [hd, hb rfl])
      | true => exact .inr (by simp [hsig, hw₀])
    · exact .inl hj

end Wakes

/-- Run from any machine, the action is a wire step: it raises the signal for every watched
device it changes. -/
def SignalsChanges {α : Type} (act : MachineM α) : Prop :=
  ∀ m, Wakes m (act.run m).2

namespace SignalsChanges

theorem bind {α β : Type} {x : MachineM α} {f : α → MachineM β} (hx : SignalsChanges x)
    (hf : ∀ a, SignalsChanges (f a)) : SignalsChanges (x >>= f) :=
  fun m => (hx m).trans (hf (x.run m).1 (x.run m).2)

theorem pure {α : Type} (a : α) : SignalsChanges (Pure.pure a : MachineM α) :=
  fun m => Wakes.refl m

/-- Work that leaves the devices and the signal alone. -/
theorem of_eq {α : Type} {act : MachineM α}
    (h : ∀ m, (act.run m).2.devices = m.devices ∧ (act.run m).2.signal = m.signal) : SignalsChanges act :=
  fun m => Wakes.of_devices (h m).1 fun hs => (h m).2.trans hs

end SignalsChanges

/-! ## Every wire event wakes the watcher -/

section Calls
variable {m : Machine} {id : DeviceId}

theorem run_receive {u : Uart} (hu : m.uartAt id = some u) (bytes : List UInt8) :
    ((receive id bytes).run m).2.devices = m.devices.modify id (fun _ => .uart (u.receive bytes).2) ∧
    ((receive id bytes).run m).2.signal = (m.signal || (decide (0 < (u.receive bytes).1) && u.watched)) := by
  show Holds (receive id bytes) (fun _ m' => m'.devices = _ ∧ m'.signal = _) m
  simp only [receive, holds_bind, holds_uart?, hu, setDevice, log, wake, holds_modify, holds_ite,
    holds_pure, Uart.receive_watched]
  by_cases hn : 0 < (u.receive bytes).1 <;> cases u.watched <;> simp [hn]

theorem run_takeTx {u : Uart} (hu : m.uartAt id = some u) :
    ((takeTx id).run m).2.devices = m.devices.modify id (fun _ => .uart u.takeTx.2) ∧
    ((takeTx id).run m).2.signal = (m.signal || (!u.tx.isEmpty && u.watched)) := by
  show Holds (takeTx id) (fun _ m' => m'.devices = _ ∧ m'.signal = _) m
  simp only [takeTx, holds_bind, holds_uart?, hu, setDevice, wake, holds_modify, Uart.takeTx]
  by_cases he : u.tx.isEmpty = true <;> by_cases hw : u.watched = true <;> simp [he, hw]

theorem run_setFault {u : Uart} (hu : m.uartAt id = some u) (on : Bool) :
    ((setFault id on).run m).2.devices = m.devices.modify id (fun _ => .uart (u.setFault on)) ∧
    ((setFault id on).run m).2.signal = (m.signal || (true && u.watched)) := by
  show Holds (setFault id on) (fun _ m' => m'.devices = _ ∧ m'.signal = _) m
  simp only [setFault, holds_bind, holds_uart?, hu, setDevice, wake, holds_modify, holds_ite, holds_pure]
  cases u.watched <;> simp

theorem run_interrupt {u : Uart} (hu : m.uartAt id = some u) :
    ((interrupt id).run m).2.devices = m.devices.modify id (fun _ => .uart u.interrupt) ∧
    ((interrupt id).run m).2.signal = (m.signal || (true && u.watched)) := by
  show Holds (interrupt id) (fun _ m' => m'.devices = _ ∧ m'.signal = _) m
  simp only [interrupt, holds_bind, holds_uart?, hu, setDevice, wake, holds_modify, holds_ite, holds_pure]
  cases u.watched <;> simp

/-- An activation of the wake device is the call `EventLine.Call.activate` on it. -/
theorem run_activate {e : EventLine} (hd : m.devices[id]? = some (.event e)) :
    ((activate id).run m).2.devices = m.devices.modify id (fun _ => .event (e.apply .activate)) ∧
    ((activate id).run m).2.signal = (m.signal || (e.isOpen && e.watched)) := by
  show Holds (activate id) (fun _ m' => m'.devices = _ ∧ m'.signal = _) m
  simp only [activate, signalEvent, eventLine?, holds_bind, holds_device?, hd]
  cases ho : e.isOpen
  · simp [EventLine.signal, EventLine.apply, ho, log, modify_devices_self hd]
  · cases hw : e.watched <;> simp [EventLine.signal, EventLine.apply, ho, hw, setDevice, wake]

theorem signalsChanges_receive (id : DeviceId) (bytes : List UInt8) : SignalsChanges (receive id bytes) := by
  intro m
  cases hu : m.uartAt id with
  | none =>
    show Holds (receive id bytes) (fun _ m' => Wakes m m') m
    simp only [receive, holds_bind, holds_uart?, hu, holds_pure]
    exact Wakes.refl m
  | some u =>
    obtain ⟨hdev, hsig⟩ := run_receive hu bytes
    refine Wakes.of_update (uartAt_eq_some.1 hu) hdev (by simp [Device.watched]) hsig fun hb => ?_
    simp only [decide_eq_false_iff_not, Nat.not_lt, Nat.le_zero] at hb
    rw [Uart.receive_eq_self hb]

theorem signalsChanges_takeTx (id : DeviceId) : SignalsChanges (takeTx id) := by
  intro m
  cases hu : m.uartAt id with
  | none =>
    show Holds (takeTx id) (fun _ m' => Wakes m m') m
    simp only [takeTx, holds_bind, holds_uart?, hu, holds_pure]
    exact Wakes.refl m
  | some u =>
    obtain ⟨hdev, hsig⟩ := run_takeTx hu
    refine Wakes.of_update (uartAt_eq_some.1 hu) hdev rfl hsig fun hb => ?_
    -- an empty FIFO taken is the FIFO as it was
    simp only [Bool.not_eq_false', List.isEmpty_iff] at hb
    cases u
    simp_all [Uart.takeTx]

theorem signalsChanges_setFault (id : DeviceId) (on : Bool) : SignalsChanges (setFault id on) := by
  intro m
  cases hu : m.uartAt id with
  | none =>
    show Holds (setFault id on) (fun _ m' => Wakes m m') m
    simp only [setFault, holds_bind, holds_uart?, hu, holds_pure]
    exact Wakes.refl m
  | some u =>
    obtain ⟨hdev, hsig⟩ := run_setFault hu on
    exact Wakes.of_update (uartAt_eq_some.1 hu) hdev rfl hsig nofun

theorem signalsChanges_interrupt (id : DeviceId) : SignalsChanges (interrupt id) := by
  intro m
  cases hu : m.uartAt id with
  | none =>
    show Holds (interrupt id) (fun _ m' => Wakes m m') m
    simp only [interrupt, holds_bind, holds_uart?, hu, holds_pure]
    exact Wakes.refl m
  | some u =>
    obtain ⟨hdev, hsig⟩ := run_interrupt hu
    exact Wakes.of_update (uartAt_eq_some.1 hu) hdev rfl hsig nofun

theorem signalsChanges_activate (id : DeviceId) : SignalsChanges (activate id) := by
  intro m
  cases hd : m.devices[id]? with
  | none =>
    show Holds (activate id) (fun _ m' => Wakes m m') m
    simp only [activate, signalEvent, eventLine?, holds_bind, holds_device?, hd, holds_pure]
    exact Wakes.refl m
  | some d =>
    cases d with
    | uart u =>
      show Holds (activate id) (fun _ m' => Wakes m m') m
      simp only [activate, signalEvent, eventLine?, holds_bind, holds_device?, hd, holds_pure]
      exact Wakes.refl m
    | event e =>
      obtain ⟨hdev, hsig⟩ := run_activate hd
      refine Wakes.of_update hd hdev ?_ hsig fun hb => ?_
      · cases ho : e.isOpen <;> simp [EventLine.apply, EventLine.signal, Device.watched, ho]
      · simp [EventLine.apply, EventLine.signal, hb]

theorem signalsChanges_start (th : WireThread) (t : Nat) : SignalsChanges (start th t) := by
  unfold start
  split
  · exact SignalsChanges.bind (signalsChanges_receive _ _) fun _ => SignalsChanges.pure _
  · exact SignalsChanges.bind (signalsChanges_interrupt _) fun _ => SignalsChanges.pure _
  · exact SignalsChanges.bind (signalsChanges_setFault _ _) fun _ => SignalsChanges.pure _
  · exact SignalsChanges.bind (signalsChanges_takeTx _) fun _ => SignalsChanges.pure _
  · exact SignalsChanges.bind (signalsChanges_activate _) fun _ => SignalsChanges.pure _
  · split
    · exact SignalsChanges.pure _
    · exact SignalsChanges.bind (signalsChanges_takeTx _) fun _ => SignalsChanges.pure _

/-- The next wire event, whichever it is, is a wire step. -/
theorem signalsChanges_fireNext : SignalsChanges fireNext := by
  unfold fireNext
  refine SignalsChanges.bind (SignalsChanges.of_eq fun _ => ⟨rfl, rfl⟩) fun m => ?_
  split
  · exact SignalsChanges.pure _
  · split
    · exact SignalsChanges.pure _
    · split
      · exact SignalsChanges.pure _
      · refine SignalsChanges.bind (SignalsChanges.of_eq fun _ => ⟨rfl, rfl⟩) fun _ => ?_
        -- the new phase is computed by a match; only a start touches a device
        have hset : ∀ (i : Nat) (th : WireThread) (phase : WirePhase), SignalsChanges (do
            modify fun m : Machine => { m with threads := m.threads.set i { th with phase := phase } }
            Pure.pure true) := fun _ _ _ => SignalsChanges.of_eq fun _ => ⟨rfl, rfl⟩
        dsimp only
        split
        · exact SignalsChanges.bind (signalsChanges_start _ _) (hset _ _)
        · exact SignalsChanges.bind (SignalsChanges.pure _) (hset _ _)
        · exact SignalsChanges.bind (SignalsChanges.pure _) (hset _ _)

end Calls

/-! ## Registrations survive a wait -/

section Wait
variable {watched : List (Fd × DeviceId)}

/-- A wait on the signal keeps every registration: it only consumes the signal, lets time pass
and runs wire events. -/
theorem watching_awaitSignal (deadline : Nat) :
    ∀ (fuel : Nat) (m : Machine), Watching watched m → Watching watched ((awaitSignal deadline fuel).run m).2
  | 0, m, hw => by
    show Holds (awaitSignal deadline 0) (fun _ m' => Watching watched m') m
    simp only [awaitSignal, consumeSignal, passTo, holds_bind, holds_modifyGet]
    split <;> exact hw.of_watched fun _ => rfl
  | fuel + 1, m, hw => by
    show Holds (awaitSignal deadline (fuel + 1)) (fun _ m' => Watching watched m') m
    simp only [awaitSignal, consumeSignal, holds_bind, holds_modifyGet, holds_ite, holds_get]
    have hw₁ : Watching watched { m with signal := false } := hw.of_watched fun _ => rfl
    split
    · exact hw₁
    · split
      · split
        · exact watching_awaitSignal deadline fuel _
            (hw₁.of_watched (signalsChanges_fireNext { m with signal := false }).watched)
        · exact hw₁.of_watched fun _ => rfl
      · exact hw₁.of_watched fun _ => rfl

theorem watching_waitSignal (deadline : Nat) {m : Machine} (hw : Watching watched m) :
    Watching watched ((waitSignal deadline).run m).2 :=
  watching_awaitSignal deadline _ m hw

end Wait

section Register

/-- Registering with one device marks it watched and keeps the other registrations. -/
theorem watching_startWatch {pre : List (Fd × DeviceId)} {m : Machine} (p : Fd × DeviceId)
    (hw : Watching pre m) : Watching (pre ++ [p]) ((startWatch p.2).run m).2 := by
  have hdev : ∀ j : DeviceId, ((startWatch p.2).run m).2.devices[j]? =
      if p.2 = j then (m.devices[j]?).map (Device.setWatched true) else m.devices[j]? := by
    intro j
    show Holds (startWatch p.2) (fun _ m' => m'.devices[j]? = _) m
    simp only [startWatch, holds_bind, holds_device?]
    cases hd : m.devices[p.2]? with
    | none =>
      simp only [holds_pure]
      split
      · next hj => subst hj; simp [hd]
      · rfl
    | some d =>
      have hmod : (m.devices.modify p.2 fun _ => d.setWatched true)[j]? =
          if p.2 = j then (m.devices[j]?).map (Device.setWatched true) else m.devices[j]? := by
        rw [Array.getElem?_modify]
        split
        · next hj =>
          subst hj
          simp [hd]
        · rfl
      cases d with
      | uart u => simpa [setDevice] using hmod
      | event e =>
        by_cases hp : e.pending = true <;> simpa [setDevice, wake, holds_ite, hp] using hmod
  intro q hq d hd
  rw [hdev] at hd
  split at hd
  · next hj =>
    obtain ⟨d₀, -, rfl⟩ := Option.map_eq_some_iff.1 hd
    exact Device.watched_setWatched true d₀
  · next hj =>
    rcases List.mem_append.1 hq with hq | hq
    · exact hw q hq d hd
    · simp only [List.mem_singleton] at hq
      subst hq
      exact absurd rfl hj

/-- Registering with every device of a list marks them all watched. -/
theorem watching_forM_startWatch : ∀ (l pre : List (Fd × DeviceId)) (m : Machine), Watching pre m →
    Watching (pre ++ l) ((l.forM fun p => startWatch p.2).run m).2
  | [], pre, m, hw => by
    rw [List.append_nil]
    exact hw
  | p :: l, pre, m, hw => by
    have h := watching_forM_startWatch l (pre ++ [p]) _ (watching_startWatch p hw)
    rw [List.append_assoc, List.singleton_append] at h
    exact h

end Register

/-! ## What is ahead of the machine -/

/-- What is ahead of the machine for device `id`: the wire events left, and the interruption
pending on the device, which a `select`, a read or a write consumes. -/
def potential (m : Machine) (id : DeviceId) : Nat := m.eventsLeft + (m.interruptPending id).toNat

theorem eventsLeft_of_threads {m m' : Machine} (h : m'.threads = m.threads) : m'.eventsLeft = m.eventsLeft := by
  unfold eventsLeft
  rw [h]

theorem interruptPending_eq_any (m : Machine) (j : DeviceId) :
    m.interruptPending j = (m.devices[j]?).any Device.interrupted := by
  unfold interruptPending uartAt
  rcases m.devices[j]? with _ | _ | _ <;> rfl

/-- From `m` to `m'` time did not go back, no wire event was added, and nothing was added to
what is ahead of any device. -/
structure Spent (m m' : Machine) : Prop where
  now : m.now ≤ m'.now
  eventsLeft : m'.eventsLeft ≤ m.eventsLeft
  potential : ∀ j, m'.potential j ≤ m.potential j

namespace Spent
variable {m m' m₁ m₂ m₃ : Machine}

theorem refl (m : Machine) : Spent m m := ⟨Nat.le_refl _, Nat.le_refl _, fun _ => Nat.le_refl _⟩

theorem trans (h₁ : Spent m₁ m₂) (h₂ : Spent m₂ m₃) : Spent m₁ m₃ :=
  ⟨h₁.now.trans h₂.now, h₂.eventsLeft.trans h₁.eventsLeft, fun j => (h₂.potential j).trans (h₁.potential j)⟩

/-- Work on the devices that raises no interruption spends nothing. -/
theorem of_devices (hth : m'.threads = m.threads) (hnow : m'.now = m.now)
    (hp : ∀ j, m'.interruptPending j = true → m.interruptPending j = true) : Spent m m' := by
  refine ⟨hnow.ge, (eventsLeft_of_threads hth).le, fun j => ?_⟩
  have hle : (m'.interruptPending j).toNat ≤ (m.interruptPending j).toNat := by
    cases h : m'.interruptPending j
    · simp
    · simp [hp j h]
  unfold Machine.potential
  rw [eventsLeft_of_threads hth]
  omega

end Spent

/-! ## Device work keeps what is pending -/

/-- Work that leaves every device's pending interruption as it was. -/
def KeepsPending {α : Type} (act : MachineM α) : Prop :=
  ∀ m j, (act.run m).2.interruptPending j = m.interruptPending j

namespace KeepsPending
variable {α β : Type}

theorem bind {x : MachineM α} {f : α → MachineM β} (hx : KeepsPending x) (hf : ∀ a, KeepsPending (f a)) :
    KeepsPending (x >>= f) :=
  fun m j => (hf (x.run m).1 (x.run m).2 j).trans (hx m j)

theorem pure (a : α) : KeepsPending (Pure.pure a : MachineM α) := fun _ _ => rfl

/-- Work that leaves the devices alone. -/
theorem of_devices {act : MachineM α} (h : ∀ m, (act.run m).2.devices = m.devices) : KeepsPending act := by
  intro m j
  rw [interruptPending_eq_any, interruptPending_eq_any, h]

theorem forM {f : α → MachineM Unit} (hf : ∀ a, KeepsPending (f a)) :
    ∀ l : List α, KeepsPending (l.forM f)
  | [] => pure _
  | a :: l => bind (hf a) (fun _ => forM hf l)

theorem mapM {f : α → MachineM β} (hf : ∀ a, KeepsPending (f a)) :
    ∀ l : List α, KeepsPending (l.mapM f)
  | [] => pure _
  | a :: l => by
    rw [List.mapM_cons]
    exact bind (hf a) fun _ => bind (mapM hf l) fun _ => pure _

/-- Work whose only change to the devices is to put `d'` in place of the device `id`, which had
the same interruption pending. -/
theorem update {act : MachineM α} {m : Machine} {id : DeviceId} {d d' : Device} (hd : m.devices[id]? = some d)
    (hdev : (act.run m).2.devices = m.devices.modify id fun _ => d') (hi : d'.interrupted = d.interrupted)
    (j : DeviceId) : (act.run m).2.interruptPending j = m.interruptPending j := by
  rw [interruptPending_eq_any, interruptPending_eq_any, hdev, Array.getElem?_modify]
  by_cases h : id = j
  · subst h
    simp [hd, hi]
  · simp [h]

end KeepsPending

section Leaves
variable {id : DeviceId}

theorem keepsPending_receive (id : DeviceId) (bytes : List UInt8) : KeepsPending (receive id bytes) := by
  intro m j
  cases hu : m.uartAt id with
  | none =>
    show Holds (receive id bytes) (fun _ m' => m'.interruptPending j = _) m
    simp only [receive, holds_bind, holds_uart?, hu, holds_pure]
  | some u =>
    exact KeepsPending.update (uartAt_eq_some.1 hu) (run_receive hu bytes).1 (by simp [Device.interrupted]) j

theorem keepsPending_takeTx (id : DeviceId) : KeepsPending (takeTx id) := by
  intro m j
  cases hu : m.uartAt id with
  | none =>
    show Holds (takeTx id) (fun _ m' => m'.interruptPending j = _) m
    simp only [takeTx, holds_bind, holds_uart?, hu, holds_pure]
  | some u => exact KeepsPending.update (uartAt_eq_some.1 hu) (run_takeTx hu).1 rfl j

theorem keepsPending_setFault (id : DeviceId) (on : Bool) : KeepsPending (setFault id on) := by
  intro m j
  cases hu : m.uartAt id with
  | none =>
    show Holds (setFault id on) (fun _ m' => m'.interruptPending j = _) m
    simp only [setFault, holds_bind, holds_uart?, hu, holds_pure]
  | some u => exact KeepsPending.update (uartAt_eq_some.1 hu) (run_setFault hu on).1 rfl j

theorem keepsPending_activate (id : DeviceId) : KeepsPending (activate id) := by
  intro m j
  rcases hd : m.devices[id]? with _ | (u | e)
  · show Holds (activate id) (fun _ m' => m'.interruptPending j = _) m
    simp only [activate, signalEvent, eventLine?, holds_bind, holds_device?, hd, holds_pure]
  · show Holds (activate id) (fun _ m' => m'.interruptPending j = _) m
    simp only [activate, signalEvent, eventLine?, holds_bind, holds_device?, hd, holds_pure]
  · exact KeepsPending.update hd (run_activate hd).1 rfl j

theorem keepsPending_feedThread (id : DeviceId) (th : WireThread) : KeepsPending (feedThread id th) := by
  unfold feedThread
  split
  · split
    · exact KeepsPending.bind (keepsPending_takeTx _) fun _ => KeepsPending.pure _
    · exact KeepsPending.pure _
  · exact KeepsPending.pure _

theorem keepsPending_feedDrains (id : DeviceId) : KeepsPending (feedDrains id) := by
  unfold feedDrains
  refine KeepsPending.bind (KeepsPending.of_devices fun _ => rfl) fun m => ?_
  exact KeepsPending.bind (KeepsPending.mapM (keepsPending_feedThread id) _) fun _ =>
    KeepsPending.of_devices fun _ => rfl

end Leaves

/-- Starting a thread leaves it at most one event ahead. The events it leaves ahead and the
interruption it leaves pending on any device are together at most one more than that device had:
an interruption, the one call that raises one, finishes at once. -/
theorem start_spends (th : WireThread) (t : Nat) (m : Machine) :
    Holds (start th t) (fun ph m' => ph.eventsLeft ≤ 1 ∧
      ∀ j, ph.eventsLeft + (m'.interruptPending j).toNat ≤ 1 + (m.interruptPending j).toNat) m := by
  -- a call that keeps what is pending and leaves the thread at most one event ahead
  have hkeeps : ∀ {α : Type} {act : MachineM α} (ph : α → WirePhase), KeepsPending act →
      (∀ a, (ph a).eventsLeft ≤ 1) → Holds (ph <$> act) (fun ph m' => ph.eventsLeft ≤ 1 ∧
        ∀ j, ph.eventsLeft + (m'.interruptPending j).toNat ≤ 1 + (m.interruptPending j).toNat) m := by
    intro α act ph hk hph
    rw [holds_map]
    refine ⟨hph _, fun j => ?_⟩
    have := hph (act.run m).1
    rw [hk m j]
    omega
  unfold start
  split
  · exact hkeeps (fun n => .finished (.accepted n)) (keepsPending_receive _ _) fun _ => by simp [WirePhase.eventsLeft]
  · -- an interruption finishes at once
    simp only [holds_bind, holds_pure]
    refine ⟨by simp [WirePhase.eventsLeft], fun j => ?_⟩
    have := Bool.toNat_le (((interrupt th.device).run m).2.interruptPending j)
    simp only [WirePhase.eventsLeft]
    omega
  · exact hkeeps (fun _ => .finished .done) (keepsPending_setFault _ _) fun _ => by simp [WirePhase.eventsLeft]
  · exact hkeeps (fun d => .finished (.data d)) (keepsPending_takeTx _) fun _ => by simp [WirePhase.eventsLeft]
  · exact hkeeps (fun _ => .finished .done) (keepsPending_activate _) fun _ => by simp [WirePhase.eventsLeft]
  · rename_i want _
    split
    · simp only [holds_pure]
      simp [WirePhase.eventsLeft]
    · exact hkeeps (fun got => if want ≤ got.length then .finished (.data got) else .draining got (t + drainLimit))
        (keepsPending_takeTx _) fun _ => by split <;> simp [WirePhase.eventsLeft]

/-! ## Work that leaves the clock alone -/

/-- Work that leaves the wire side's threads and the clock as they were. -/
def KeepsClock {α : Type} (act : MachineM α) : Prop :=
  ∀ m, (act.run m).2.threads = m.threads ∧ (act.run m).2.now = m.now

namespace KeepsClock
variable {α β : Type}

theorem bind {x : MachineM α} {f : α → MachineM β} (hx : KeepsClock x) (hf : ∀ a, KeepsClock (f a)) :
    KeepsClock (x >>= f) := fun m =>
  ⟨(hf _ _).1.trans (hx m).1, (hf _ _).2.trans (hx m).2⟩

theorem pure (a : α) : KeepsClock (Pure.pure a : MachineM α) := fun _ => ⟨rfl, rfl⟩

theorem forM {f : α → MachineM Unit} (hf : ∀ a, KeepsClock (f a)) :
    ∀ l : List α, KeepsClock (l.forM f)
  | [] => pure _
  | a :: l => bind (hf a) (fun _ => forM hf l)

end KeepsClock

section Leaves

theorem keepsClock_receive (id : DeviceId) (bytes : List UInt8) : KeepsClock (receive id bytes) := fun m => by
  show Holds (receive id bytes) (fun _ m' => m'.threads = m.threads ∧ m'.now = m.now) m
  simp only [receive, holds_bind, holds_uart?]
  split <;> simp [setDevice, log, wake, holds_ite]

theorem keepsClock_takeTx (id : DeviceId) : KeepsClock (takeTx id) := fun m => by
  show Holds (takeTx id) (fun _ m' => m'.threads = m.threads ∧ m'.now = m.now) m
  simp only [takeTx, holds_bind, holds_uart?]
  split <;> simp [setDevice, wake, holds_ite]

theorem keepsClock_setFault (id : DeviceId) (on : Bool) : KeepsClock (setFault id on) := fun m => by
  show Holds (setFault id on) (fun _ m' => m'.threads = m.threads ∧ m'.now = m.now) m
  simp only [setFault, holds_bind, holds_uart?]
  split <;> simp [setDevice, wake, holds_ite]

theorem keepsClock_interrupt (id : DeviceId) : KeepsClock (interrupt id) := fun m => by
  show Holds (interrupt id) (fun _ m' => m'.threads = m.threads ∧ m'.now = m.now) m
  simp only [interrupt, holds_bind, holds_uart?]
  split <;> simp [setDevice, wake, holds_ite]

theorem keepsClock_activate (id : DeviceId) : KeepsClock (activate id) := fun m => by
  show Holds (activate id) (fun _ m' => m'.threads = m.threads ∧ m'.now = m.now) m
  simp only [activate, signalEvent, eventLine?, holds_bind, holds_device?]
  split <;> simp [log]
  split <;> simp [setDevice, wake, holds_ite]

theorem keepsClock_startWatch (id : DeviceId) : KeepsClock (startWatch id) := fun m => by
  show Holds (startWatch id) (fun _ m' => m'.threads = m.threads ∧ m'.now = m.now) m
  simp only [startWatch, holds_bind, holds_device?]
  split <;> simp [setDevice]
  split <;> simp [wake, holds_ite]

theorem keepsClock_start (th : WireThread) (t : Nat) : KeepsClock (start th t) := by
  unfold start
  split
  · exact KeepsClock.bind (keepsClock_receive _ _) fun _ => KeepsClock.pure _
  · exact KeepsClock.bind (keepsClock_interrupt _) fun _ => KeepsClock.pure _
  · exact KeepsClock.bind (keepsClock_setFault _ _) fun _ => KeepsClock.pure _
  · exact KeepsClock.bind (keepsClock_takeTx _) fun _ => KeepsClock.pure _
  · exact KeepsClock.bind (keepsClock_activate _) fun _ => KeepsClock.pure _
  · split
    · exact KeepsClock.pure _
    · exact KeepsClock.bind (keepsClock_takeTx _) fun _ => KeepsClock.pure _

end Leaves

/-! ## Every wire event spends -/

/-- A fold that only ever keeps its accumulator or takes a thread's due time ends with one of them. -/
theorem foldl_due {g : Option Nat → WireThread → Option Nat}
    (hg : ∀ acc th t, g acc th = some t → acc = some t ∨ th.phase.due = some t) :
    ∀ (l : List WireThread) (acc : Option Nat) (t : Nat), l.foldl g acc = some t →
      acc = some t ∨ ∃ th ∈ l, th.phase.due = some t
  | [], acc, t, h => .inl h
  | th :: l, acc, t, h => by
    rcases foldl_due hg l (g acc th) t h with h₁ | ⟨th', hmem, hdue⟩
    · rcases hg acc th t h₁ with hacc | hth
      · exact .inl hacc
      · exact .inr ⟨th, List.mem_cons_self, hth⟩
    · exact .inr ⟨th', List.mem_cons_of_mem _ hmem, hdue⟩

/-- The time `nextDue` gives is the time of some thread's next event. -/
theorem nextDue_some {l : List WireThread} {t : Nat} (h : nextDue l = some t) :
    ∃ th ∈ l, th.phase.due = some t := by
  refine (foldl_due ?_ l none t h).resolve_left nofun
  intro acc th t' h'
  -- the step keeps the accumulator, takes the thread's time, or the least of the two
  rcases hd : th.phase.due with _ | t₁ <;> rcases acc with _ | a <;>
    simp only [hd, Option.some.injEq, reduceCtorEq] at h' ⊢ <;> omega

/-- Setting the phase of one thread changes the events left by what the phases differ by. -/
theorem eventsLeft_set {m : Machine} {i : Nat} {th : WireThread} (h : m.threads[i]? = some th)
    (th' : WireThread) :
    ({ m with threads := m.threads.set i th' } : Machine).eventsLeft + th.phase.eventsLeft =
      m.eventsLeft + th'.phase.eventsLeft := by
  show (m.threads.set i th').foldr _ 0 + _ = m.threads.foldr _ 0 + _
  generalize m.threads = l at h ⊢
  induction l generalizing i with
  | nil => simp at h
  | cons t rest ih =>
    cases i with
    | zero =>
      simp only [List.getElem?_cons_zero, Option.some.injEq] at h
      subst h
      simp only [List.set_cons_zero, List.foldr_cons]
      omega
    | succ i =>
      simp only [List.getElem?_cons_succ] at h
      have := ih h
      simp only [List.set_cons_succ, List.foldr_cons]
      omega

/-- A wire event that is due runs and spends: the events left go down, and so does what is ahead
of every device, an interruption it leaves pending counted in; time reaches the event's. -/
theorem fireNext_spends {m : Machine} {t : Nat} (hdue : nextDue m.threads = some t) :
    Holds fireNext (fun _ m' => m'.eventsLeft < m.eventsLeft ∧ (∀ j, m'.potential j < m.potential j) ∧
      m'.now = max m.now t) m := by
  -- the first thread whose event is due at `t` runs it
  obtain ⟨i, hfind⟩ : ∃ i, m.threads.findIdx? (fun th => th.phase.due == some t) = some i := by
    obtain ⟨th, hmem, hth⟩ := nextDue_some hdue
    exact Option.isSome_iff_exists.1
      (List.findIdx?_isSome.trans (List.any_eq_true.2 ⟨th, hmem, by simp [hth]⟩))
  obtain ⟨hi, hp, -⟩ := List.findIdx?_eq_some_iff_getElem.1 hfind
  have hth : m.threads[i]? = some m.threads[i] := List.getElem?_eq_getElem hi
  generalize m.threads[i] = th at hth hp
  simp only [fireNext, holds_bind, holds_get, hdue, hfind, hth, holds_modify]
  rcases hph : th.phase with w | ⟨got, stop⟩ | r
  · -- asleep: the thread starts, on a machine whose clock reached `t`
    simp only [holds_bind, holds_modify, holds_pure]
    have hclock := keepsClock_start th t { m with now := max m.now t }
    have hs := start_spends th t { m with now := max m.now t }
    unfold Holds at hs ⊢
    generalize (start th t).run { m with now := max m.now t } = r at hclock hs ⊢
    obtain ⟨ph, m₂⟩ := r
    obtain ⟨hthreads, hnow⟩ := hclock
    obtain ⟨hone, hbound⟩ := hs
    dsimp only at hthreads hnow hone hbound ⊢
    have hset := eventsLeft_set (m := m₂) (i := i) (hthreads ▸ hth) { th with phase := ph }
    have hleft : m₂.eventsLeft = m.eventsLeft := eventsLeft_of_threads hthreads
    have htwo : th.phase.eventsLeft = 2 := by rw [hph]; rfl
    dsimp only at hset
    refine ⟨by omega, fun j => ?_, hnow⟩
    have := hbound j
    unfold potential
    simp only [interruptPending_eq_any] at this ⊢
    omega
  · -- draining: the drain stops
    simp only [holds_bind, holds_pure, holds_modify]
    have hset := eventsLeft_set (m := { m with now := max m.now t }) (i := i) hth
      { th with phase := .finished (.data got) }
    have hone : th.phase.eventsLeft = 1 := by rw [hph]; rfl
    have hzero : (WirePhase.finished (.data got)).eventsLeft = 0 := rfl
    have hleft : ({ m with now := max m.now t } : Machine).eventsLeft = m.eventsLeft := rfl
    dsimp only at hset
    refine ⟨by omega, fun j => ?_, by simp⟩
    unfold potential
    simp only [interruptPending_eq_any]
    omega
  · -- a finished thread has nothing due
    simp [hph, WirePhase.due] at hp

/-! ## A wait on the signal -/

section Await
variable {deadline : Nat} {m : Machine}

/-- A raised signal is consumed at once. -/
theorem run_awaitSignal_raised (hs : m.signal = true) (fuel : Nat) :
    (awaitSignal deadline fuel).run m = (true, { m with signal := false }) := by
  show Holds (awaitSignal deadline fuel) (fun r m' => (r, m') = (true, { m with signal := false })) m
  cases fuel <;> simp [awaitSignal, consumeSignal, hs]

/-- With the signal clear and an event due by the deadline, the event runs and the wait goes on. -/
theorem run_awaitSignal_fire (hs : m.signal = false) {t : Nat} (hd : nextDue m.threads = some t)
    (ht : t ≤ deadline) (fuel : Nat) :
    (awaitSignal deadline (fuel + 1)).run m = (awaitSignal deadline fuel).run (fireNext.run { m with signal := false }).2 := by
  show Holds (awaitSignal deadline (fuel + 1)) (fun r m' => (r, m') = _) m
  simp only [awaitSignal, consumeSignal, holds_bind, holds_modifyGet, hs, Bool.false_eq_true, if_false,
    holds_get, hd, ht, if_true]
  rfl

/-- With the signal clear and nothing due by the deadline, time reaches the deadline. -/
theorem run_awaitSignal_quiet (hs : m.signal = false) (hq : ∀ t, nextDue m.threads = some t → deadline < t)
    (fuel : Nat) :
    (awaitSignal deadline (fuel + 1)).run m = (false, { m with signal := false, now := max m.now deadline }) := by
  show Holds (awaitSignal deadline (fuel + 1)) (fun r m' => (r, m') = _) m
  cases hd : nextDue m.threads with
  | none => simp [awaitSignal, consumeSignal, passTo, hs, hd]
  | some t => simp [awaitSignal, consumeSignal, passTo, hs, hd, Nat.not_le.2 (hq t hd)]

/-- Out of room with the signal clear, the wait lets time reach the deadline. -/
theorem run_awaitSignal_zero (hs : m.signal = false) :
    (awaitSignal deadline 0).run m = (false, { m with signal := false, now := max m.now deadline }) := by
  show Holds (awaitSignal deadline 0) (fun r m' => (r, m') = _) m
  simp [awaitSignal, consumeSignal, passTo, hs]

/-- A wait on the signal with room for more turns than there are events ahead answers as with
any more room: each turn that goes on runs an event. -/
theorem awaitSignal_room (deadline : Nat) :
    ∀ n k (m : Machine), m.eventsLeft < n → (awaitSignal deadline (n + k)).run m = (awaitSignal deadline n).run m
  | 0, _, _, h => absurd h (Nat.not_lt_zero _)
  | n + 1, k, m, h => by
    rw [Nat.add_right_comm]
    cases hs : m.signal
    · by_cases hfire : ∃ t, nextDue m.threads = some t ∧ t ≤ deadline
      · obtain ⟨t, hd, ht⟩ := hfire
        rw [run_awaitSignal_fire hs hd ht, run_awaitSignal_fire hs hd ht]
        -- the event spends one of the events ahead
        have hspent := (fireNext_spends (m := { m with signal := false }) hd).1
        exact awaitSignal_room deadline n k _ (by dsimp only [eventsLeft] at hspent h ⊢; omega)
      · have hq : ∀ t, nextDue m.threads = some t → deadline < t :=
          fun t hd => Nat.lt_of_not_le fun ht => hfire ⟨t, hd, ht⟩
        rw [run_awaitSignal_quiet hs hq, run_awaitSignal_quiet hs hq]
    · rw [run_awaitSignal_raised hs, run_awaitSignal_raised hs]

/-- A wait on the signal is given room enough, one more turn than the events ahead: with any more
it answers the same. -/
theorem waitSignal_enough (deadline k : Nat) (m : Machine) :
    (awaitSignal deadline (m.eventsLeft + 1 + k)).run m = (waitSignal deadline).run m :=
  awaitSignal_room deadline _ k m (Nat.lt_succ_self _)

/-- What a wait on the signal from `m` leaves when it answers `r` with the machine `m'`. It spent:
time did not go back, and nothing was added to what is ahead of any device. The answer `true`
consumed the signal, and with it the signal or one of the events ahead; the answer `false` came
at the deadline, with every device a `select` watches as it was. -/
def AwaitEnd (deadline : Nat) (m : Machine) (r : Bool) (m' : Machine) : Prop :=
  Spent m m' ∧ (r = true → m'.signal = false ∧ m'.eventsLeft < m.eventsLeft + m.signal.toNat) ∧
    (r = false → deadline ≤ m'.now ∧
      ∀ j : DeviceId, (m.devices[j]?).all Device.watched = true → m'.devices[j]? = m.devices[j]?)

theorem AwaitEnd.raised (hs : m.signal = true) : AwaitEnd deadline m true { m with signal := false } := by
  refine ⟨Spent.of_devices rfl rfl fun _ h => h, fun _ => ⟨rfl, ?_⟩, nofun⟩
  show m.eventsLeft < m.eventsLeft + m.signal.toNat
  simp [hs]

theorem AwaitEnd.quiet : AwaitEnd deadline m false { m with signal := false, now := max m.now deadline } :=
  ⟨⟨Nat.le_max_left _ _, Nat.le_refl _, fun _ => Nat.le_refl _⟩, nofun,
    fun _ => ⟨Nat.le_max_right _ _, fun _ _ => rfl⟩⟩

/-- How a wait on the signal ends, whatever its room (`AwaitEnd`). -/
theorem awaitSignal_spends (deadline : Nat) :
    ∀ (fuel : Nat) (m : Machine), Holds (awaitSignal deadline fuel) (AwaitEnd deadline m) m
  | 0, m => by
    cases hs : m.signal
    · rw [holds_of_run_eq (run_awaitSignal_zero hs)]
      exact AwaitEnd.quiet
    · rw [holds_of_run_eq (run_awaitSignal_raised hs 0)]
      exact AwaitEnd.raised hs
  | fuel + 1, m => by
    cases hs : m.signal
    · by_cases hfire : ∃ t, nextDue m.threads = some t ∧ t ≤ deadline
      · obtain ⟨t, hd, ht⟩ := hfire
        unfold Holds
        rw [run_awaitSignal_fire hs hd ht fuel]
        -- the event spends, and what the wait goes on to do is the induction's
        have hfired := fireNext_spends (m := { m with signal := false }) hd
        have hwake := signalsChanges_fireNext { m with signal := false }
        have ih := awaitSignal_spends deadline fuel (fireNext.run { m with signal := false }).2
        unfold Holds at hfired
        generalize (fireNext.run { m with signal := false }).2 = m₁ at hfired hwake ih
        obtain ⟨hleft, hpot, hnow⟩ := hfired
        obtain ⟨hspent, htrue, hfalse⟩ := ih
        have hspent₁ : Spent m m₁ :=
          ⟨by rw [hnow]; exact Nat.le_max_left _ _, Nat.le_of_lt hleft, fun j => Nat.le_of_lt (hpot j)⟩
        refine ⟨hspent₁.trans hspent, fun hr => ?_, fun hr => ?_⟩
        · obtain ⟨hsig, hlt⟩ := htrue hr
          refine ⟨hsig, ?_⟩
          have := Bool.toNat_le m₁.signal
          have hsame : ({ m with signal := false } : Machine).eventsLeft = m.eventsLeft := rfl
          omega
        · obtain ⟨hdl, hkeep⟩ := hfalse hr
          refine ⟨hdl, fun j hw => ?_⟩
          -- a watched device that changed raised the signal, and the wait would have answered `true`
          have hsame : m₁.devices[j]? = m.devices[j]? := by
            rcases hj : m.devices[j]? with _ | d
            · have hmap := hwake.watched j
              rw [hj] at hmap
              exact Option.map_eq_none_iff.1 hmap
            · rw [hj] at hw
              rcases hwake.woke j d hj hw with hj₁ | hsig
              · exact hj₁
              · have hrun : (awaitSignal deadline fuel).run m₁ = _ := run_awaitSignal_raised hsig fuel
                exact absurd (hr.symm.trans (congrArg Prod.fst hrun)) Bool.false_ne_true
          rw [← hsame] at hw ⊢
          exact hkeep j hw
      · have hq : ∀ t, nextDue m.threads = some t → deadline < t :=
          fun t hd => Nat.lt_of_not_le fun ht => hfire ⟨t, hd, ht⟩
        rw [holds_of_run_eq (run_awaitSignal_quiet hs hq fuel)]
        exact AwaitEnd.quiet
    · rw [holds_of_run_eq (run_awaitSignal_raised hs _)]
      exact AwaitEnd.raised hs

end Await

/-! ## The rounds of a `select` -/

section Rounds
variable {watched : List (Fd × DeviceId)} {ctx : PollContext} {deadline : Nat} {m m₁ m₂ : Machine}

/-- Taking an interruption changes the devices alone. -/
theorem takeInterrupt_devices (id : DeviceId) (m : Machine) :
    ∃ ds, ((takeInterrupt id).run m).2 = { m with devices := ds } := by
  show Holds (takeInterrupt id) (fun _ m' => ∃ ds, m' = { m with devices := ds }) m
  simp only [takeInterrupt, holds_bind, holds_uart?]
  split
  · exact ⟨_, rfl⟩
  · exact ⟨m.devices, rfl⟩

/-- Looking for interruptions changes the devices alone. -/
theorem anyInterrupted_devices :
    ∀ (l : List (Fd × DeviceId)) (m : Machine), ∃ ds, ((anyInterrupted l).run m).2 = { m with devices := ds }
  | [], m => ⟨m.devices, rfl⟩
  | (_, id) :: rest, m => by
    show Holds (anyInterrupted ((_, id) :: rest)) (fun _ m' => ∃ ds, m' = { m with devices := ds }) m
    simp only [anyInterrupted, holds_bind]
    obtain ⟨ds₁, h₁⟩ := takeInterrupt_devices id m
    refine Holds.mono (P := fun _ m₁ => m₁ = { m with devices := ds₁ }) h₁ fun hit m₁ hm => ?_
    subst hm
    split
    · exact ⟨ds₁, rfl⟩
    · obtain ⟨ds₂, h₂⟩ := anyInterrupted_devices rest { m with devices := ds₁ }
      exact ⟨ds₂, h₂⟩

/-- Looking for interruptions and finding none changed nothing: none was pending. -/
theorem anyInterrupted_false :
    ∀ (l : List (Fd × DeviceId)) (m m₁ : Machine), (anyInterrupted l).run m = (false, m₁) →
      m₁ = m ∧ ∀ p ∈ l, m.interruptPending p.2 = false
  | [], m, m₁, h => ⟨(congrArg Prod.snd h).symm, nofun⟩
  | (fd, id) :: rest, m, m₁, h => by
    obtain ⟨hhit, -⟩ := run_takeInterrupt m id
    cases hs : m.interruptPending id with
    | true =>
      -- the head device had one, and the look would have answered `true`
      have hrun : (anyInterrupted ((fd, id) :: rest)).run m = (true, ((takeInterrupt id).run m).2) := by
        show Holds (anyInterrupted ((fd, id) :: rest)) (fun r m' => (r, m') = _) m
        simp only [anyInterrupted, holds_bind]
        rw [holds_of_run_eq (Prod.ext (hhit.trans hs) rfl)]
        rfl
      rw [hrun] at h
      cases h
    | false =>
      have hsame := takeInterrupt_false id m (hhit.trans hs)
      have hrest : (anyInterrupted ((fd, id) :: rest)).run m = (anyInterrupted rest).run m := by
        show Holds (anyInterrupted ((fd, id) :: rest)) (fun r m' => (r, m') = _) m
        simp only [anyInterrupted, holds_bind]
        rw [holds_of_run_eq (Prod.ext (hhit.trans hs) hsame.1)]
        rfl
      rw [hrest] at h
      obtain ⟨rfl, hnone⟩ := anyInterrupted_false rest m m₁ h
      refine ⟨rfl, fun p hp => ?_⟩
      rcases List.mem_cons.1 hp with rfl | hp
      · exact hs
      · exact hnone p hp

theorem run_selectRounds_interrupted (h : (anyInterrupted watched).run m = (true, m₁)) (fuel : Nat) :
    (selectRounds watched ctx deadline (fuel + 1)).run m = (.error (.device .interrupted), m₁) := by
  show Holds (selectRounds watched ctx deadline (fuel + 1)) (fun r m' => (r, m') = _) m
  simp only [selectRounds, holds_bind]
  rw [holds_of_run_eq h]
  rfl

theorem run_selectRounds_ready (h : (anyInterrupted watched).run m = (false, m₁))
    (hr : 0 < ((readySubset watched ctx).run m₁).1.readyCount) (fuel : Nat) :
    (selectRounds watched ctx deadline (fuel + 1)).run m = (.ok ((readySubset watched ctx).run m₁).1, m₁) := by
  show Holds (selectRounds watched ctx deadline (fuel + 1)) (fun r m' => (r, m') = _) m
  simp only [selectRounds, holds_bind]
  rw [holds_of_run_eq h]
  simp only [Bool.false_eq_true, if_false, holds_bind]
  rw [holds_of_run_eq (run_readySubset watched ctx m₁)]
  rw [run_readySubset] at hr
  simp only [hr, if_true, holds_pure]
  rfl

theorem run_selectRounds_woken (h : (anyInterrupted watched).run m = (false, m₁))
    (hr : ((readySubset watched ctx).run m₁).1.readyCount = 0) (hw : (waitSignal deadline).run m₁ = (true, m₂))
    (fuel : Nat) :
    (selectRounds watched ctx deadline (fuel + 1)).run m = (selectRounds watched ctx deadline fuel).run m₂ := by
  show Holds (selectRounds watched ctx deadline (fuel + 1)) (fun r m' => (r, m') = _) m
  simp only [selectRounds, holds_bind]
  rw [holds_of_run_eq h]
  simp only [Bool.false_eq_true, if_false, holds_bind]
  rw [holds_of_run_eq (run_readySubset watched ctx m₁)]
  rw [run_readySubset] at hr
  simp only [hr, Nat.lt_irrefl, if_false, holds_bind]
  rw [holds_of_run_eq hw]
  rfl

theorem run_selectRounds_timeout (h : (anyInterrupted watched).run m = (false, m₁))
    (hr : ((readySubset watched ctx).run m₁).1.readyCount = 0) (hw : (waitSignal deadline).run m₁ = (false, m₂))
    (fuel : Nat) :
    (selectRounds watched ctx deadline (fuel + 1)).run m = (.ok ((readySubset watched ctx).run m₂).1, m₂) := by
  show Holds (selectRounds watched ctx deadline (fuel + 1)) (fun r m' => (r, m') = _) m
  simp only [selectRounds, holds_bind]
  rw [holds_of_run_eq h]
  simp only [Bool.false_eq_true, if_false, holds_bind]
  rw [holds_of_run_eq (run_readySubset watched ctx m₁)]
  rw [run_readySubset] at hr
  simp only [hr, Nat.lt_irrefl, if_false, holds_bind]
  rw [holds_of_run_eq hw]
  simp only [Bool.false_eq_true, if_false, holds_bind]
  rw [holds_of_run_eq (run_readySubset watched ctx m₂)]
  rfl

theorem waitSignal_spends (deadline : Nat) (m : Machine) : Holds (waitSignal deadline) (AwaitEnd deadline m) m :=
  awaitSignal_spends deadline _ m

/-- The rounds of a `select` with room for more turns than the events ahead and the raised signal
together answer as with any more room: a round that goes on consumed the signal, raised before
its wait or by an event the wait ran. -/
theorem selectRounds_room (watched : List (Fd × DeviceId)) (ctx : PollContext) (deadline : Nat) :
    ∀ n k (m : Machine), m.eventsLeft + m.signal.toNat < n →
      (selectRounds watched ctx deadline (n + k)).run m = (selectRounds watched ctx deadline n).run m
  | 0, _, _, h => absurd h (Nat.not_lt_zero _)
  | n + 1, k, m, h => by
    rw [Nat.add_right_comm]
    rcases hai : (anyInterrupted watched).run m with ⟨_ | _, m₁⟩
    · obtain ⟨hm, -⟩ := anyInterrupted_false watched m m₁ hai
      subst m₁
      by_cases hpos : 0 < ((readySubset watched ctx).run m).1.readyCount
      · rw [run_selectRounds_ready hai hpos, run_selectRounds_ready hai hpos]
      have hr := Nat.eq_zero_of_not_pos hpos
      rcases hw : (waitSignal deadline).run m with ⟨_ | _, m₂⟩
      · rw [run_selectRounds_timeout hai hr hw, run_selectRounds_timeout hai hr hw]
      · rw [run_selectRounds_woken hai hr hw, run_selectRounds_woken hai hr hw]
        obtain ⟨hsig, hlt⟩ := ((holds_of_run_eq hw).1 (waitSignal_spends deadline m)).2.1 rfl
        exact selectRounds_room watched ctx deadline n k m₂ (by rw [hsig, Bool.toNat_false]; omega)
    · rw [run_selectRounds_interrupted hai, run_selectRounds_interrupted hai]

/-- A `select` gives its rounds room enough, two more turns than the events ahead: with any
more they answer the same. -/
theorem selectRounds_enough (watched : List (Fd × DeviceId)) (ctx : PollContext) (deadline k : Nat)
    (m : Machine) :
    (selectRounds watched ctx deadline (m.eventsLeft + 2 + k)).run m =
      (selectRounds watched ctx deadline (m.eventsLeft + 2)).run m := by
  refine selectRounds_room watched ctx deadline _ k m ?_
  have := Bool.toNat_le m.signal
  omega

theorem Watching.all {watched : List (Fd × DeviceId)} {m : Machine} (h : Watching watched m)
    {p : Fd × DeviceId} (hp : p ∈ watched) : (m.devices[p.2]?).all Device.watched = true := by
  rcases hd : m.devices[p.2]? with _ | d
  · rfl
  · exact h p hp d hd

/-- What the rounds of a `select` over `watched` from `m` leave when they answer `r` with `m'`.
They spent. An interruption they answer was consumed from a watched device, whose potential went
down. A context they answer leaves no interruption pending on a watched device, and one in which
nothing is ready came at the deadline. -/
def RoundsEnd (watched : List (Fd × DeviceId)) (deadline : Nat) (m : Machine)
    (r : Except TableError PollContext) (m' : Machine) : Prop :=
  Spent m m' ∧ (∀ e, r = .error e → ∃ p ∈ watched, m'.potential p.2 < m.potential p.2) ∧
    ∀ ready, r = .ok ready →
      (∀ p ∈ watched, m'.interruptPending p.2 = false) ∧ (ready.readyCount = 0 → deadline ≤ m'.now)

theorem RoundsEnd.of_spent {watched : List (Fd × DeviceId)} {deadline : Nat} (hs : Spent m m₁)
    {r : Except TableError PollContext} (h : RoundsEnd watched deadline m₁ r m') : RoundsEnd watched deadline m r m' := by
  obtain ⟨hspent, herr, hok⟩ := h
  refine ⟨hs.trans hspent, fun e he => ?_, hok⟩
  obtain ⟨p, hp, hlt⟩ := herr e he
  exact ⟨p, hp, Nat.lt_of_lt_of_le hlt (hs.potential p.2)⟩

/-- How the rounds of a `select` end (`RoundsEnd`), given room for more turns than the events
ahead and the raised signal, while the watched devices are registered. -/
theorem selectRounds_spends (watched : List (Fd × DeviceId)) (ctx : PollContext) (deadline : Nat) :
    ∀ (fuel : Nat) (m : Machine), m.eventsLeft + m.signal.toNat < fuel → Watching watched m →
      Holds (selectRounds watched ctx deadline fuel) (RoundsEnd watched deadline m) m
  | 0, _, h, _ => absurd h (Nat.not_lt_zero _)
  | fuel + 1, m, h, hw => by
    rcases hai : (anyInterrupted watched).run m with ⟨_ | _, m₁⟩
    · obtain ⟨hm, hnone⟩ := anyInterrupted_false watched m m₁ hai
      subst m₁
      by_cases hpos : 0 < ((readySubset watched ctx).run m).1.readyCount
      · -- something is ready: nothing was pending
        rw [holds_of_run_eq (run_selectRounds_ready hai hpos fuel)]
        refine ⟨Spent.refl m, nofun, fun ready hready => ⟨hnone, fun h0 => ?_⟩⟩
        cases hready
        omega
      have hr := Nat.eq_zero_of_not_pos hpos
      rcases hwt : (waitSignal deadline).run m with ⟨_ | _, m₂⟩
      · -- timed out: the watched devices are as they were, and the deadline came
        rw [holds_of_run_eq (run_selectRounds_timeout hai hr hwt fuel)]
        obtain ⟨hspent, -, hfalse⟩ := (holds_of_run_eq hwt).1 (waitSignal_spends deadline m)
        obtain ⟨hdl, hkeep⟩ := hfalse rfl
        refine ⟨hspent, nofun, fun ready _ => ⟨fun p hp => ?_, fun _ => hdl⟩⟩
        rw [interruptPending_eq_any, hkeep p.2 (hw.all hp), ← interruptPending_eq_any]
        exact hnone p hp
      · -- woken: the next round has one turn less and as much room
        rw [holds_of_run_eq (run_selectRounds_woken hai hr hwt fuel)]
        obtain ⟨hspent, htrue, -⟩ := (holds_of_run_eq hwt).1 (waitSignal_spends deadline m)
        obtain ⟨hsig, hlt⟩ := htrue rfl
        have hw₂ : Watching watched m₂ := by
          have := watching_waitSignal deadline hw
          rw [hwt] at this
          exact this
        have ih := selectRounds_spends watched ctx deadline fuel m₂
          (by rw [hsig, Bool.toNat_false]; omega) hw₂
        exact RoundsEnd.of_spent hspent ih
    · -- interrupted: the interruption of a watched device was consumed
      rw [holds_of_run_eq (run_selectRounds_interrupted hai fuel)]
      obtain ⟨pre, p, post, hsplit, -, hp, hcons⟩ := (holds_of_run_eq hai).1 (anyInterrupted_true watched m) rfl
      obtain ⟨ds, hds⟩ := anyInterrupted_devices watched m
      rw [hai] at hds
      have hleft : m₁.eventsLeft = m.eventsLeft := by rw [show m₁ = _ from hds]; rfl
      refine ⟨Spent.of_devices (by rw [show m₁ = _ from hds]) (by rw [show m₁ = _ from hds])
        fun j hj => ?_, fun _ _ => ⟨p, ?_, ?_⟩, nofun⟩
      · rw [hcons j] at hj
        exact (Bool.and_eq_true_iff.1 hj).1
      · rw [hsplit]
        exact List.mem_append_right _ List.mem_cons_self
      · unfold potential
        rw [hcons p.2, hp, hleft]
        simp

end Rounds

/-! ## A whole `select` -/

section Select
variable {ctx : PollContext} {m : Machine}

/-- Registering with a device marks it watched. -/
theorem devices_startWatch {id : DeviceId} {d : Device} (hd : m.devices[id]? = some d) :
    ((startWatch id).run m).2.devices = m.devices.modify id fun _ => d.setWatched true := by
  show Holds (startWatch id) (fun _ m' => m'.devices = _) m
  simp only [startWatch, holds_bind, holds_device?, hd, setDevice, holds_modify]
  cases d with
  | uart u => rfl
  | event e => by_cases hp : e.pending = true <;> simp [wake, hp]

theorem keepsPending_startWatch (id : DeviceId) : KeepsPending (startWatch id) := by
  intro m j
  cases hd : m.devices[id]? with
  | none =>
    show Holds (startWatch id) (fun _ m' => m'.interruptPending j = _) m
    simp only [startWatch, holds_bind, holds_device?, hd, holds_pure]
  | some d => exact KeepsPending.update hd (devices_startWatch hd) (by cases d <;> rfl) j

theorem keepsClock_stopWatch (id : DeviceId) : KeepsClock (stopWatch id) := fun m => by
  rw [run_stopWatch]
  exact ⟨rfl, rfl⟩

/-- What a `select` leaves. It spent. An interruption it answers was consumed from the device of
a descriptor of interest, whose potential went down. A context it answers leaves no interruption
pending on the devices of the descriptors of interest, and one in which nothing is ready came at
the end of its timeout. -/
theorem select_spends (ctx : PollContext) (m : Machine) :
    Holds (select ctx) (fun r m' => Spent m m' ∧
      (∀ e, r = .error e → e.isInterrupted = true →
        ∃ fd ∈ ctx.interest.toList, ∃ id, m.table.slot fd = some id ∧ m'.potential id < m.potential id) ∧
      ∀ ready, r = .ok ready →
        (∀ fd ∈ ctx.interest.toList, ∀ id, m.table.slot fd = some id → m'.interruptPending id = false) ∧
        (ready.readyCount = 0 → m.now + ctx.timeout.nanos ≤ m'.now)) m := by
  by_cases hall : ∀ fd ∈ ctx.interest.toList, m.table.slot fd ≠ none
  · obtain ⟨watched, hmap⟩ := mapM_lookup_ok_of_slots hall
    have hw : ((watchList ctx).run m).1 = .ok watched := hmap
    rw [holds_of_run_eq (run_select_ok hw)]
    -- registering lowers the signal, and keeps the clock, the threads and what is pending
    have hclock := KeepsClock.forM (fun p : Fd × DeviceId => keepsClock_startWatch p.2) watched
      { m with signal := false }
    have hpend := (KeepsPending.forM (fun p : Fd × DeviceId => keepsPending_startWatch p.2) watched :
      KeepsPending (watched.forM fun p => startWatch p.2)) { m with signal := false }
    have hwatch := watching_forM_startWatch watched [] { m with signal := false } nofun
    generalize ((watched.forM fun p => startWatch p.2).run { m with signal := false }).2 = m₁ at hclock hpend hwatch ⊢
    have hspent₁ : Spent m m₁ := Spent.of_devices hclock.1 hclock.2 fun j h => by rw [hpend j] at h; exact h
    have hrounds := selectRounds_spends watched ctx (m₁.now + ctx.timeout.nanos) (m₁.eventsLeft + 2) m₁
      (by have := Bool.toNat_le m₁.signal; omega) hwatch
    unfold Holds at hrounds
    generalize (selectRounds watched ctx (m₁.now + ctx.timeout.nanos) (m₁.eventsLeft + 2)).run m₁ = rounds at hrounds ⊢
    obtain ⟨r, m₂⟩ := rounds
    obtain ⟨hspent, herr, hok⟩ := hrounds
    -- unregistering keeps the clock, the threads and what is pending
    have hclock₃ := KeepsClock.forM (fun p => keepsClock_stopWatch p.2) watched m₂
    have hpend₃ := interruptPending_forM_stopWatch watched m₂
    generalize ((watched.forM fun p => stopWatch p.2).run m₂).2 = m₃ at hclock₃ hpend₃ ⊢
    have hpot : ∀ j, m₃.potential j = m₂.potential j := fun j => by
      unfold potential
      rw [hpend₃ j, eventsLeft_of_threads hclock₃.1]
    refine ⟨hspent₁.trans (hspent.trans (Spent.of_devices hclock₃.1 hclock₃.2 fun j h => (hpend₃ j) ▸ h)),
      fun e he _ => ?_, fun ready hready => ?_⟩
    · obtain ⟨p, hp, hlt⟩ := herr e he
      obtain ⟨hfd, hid⟩ := (mem_watched hw).1 hp
      exact ⟨p.1, hfd, p.2, hid, by rw [hpot]; exact Nat.lt_of_lt_of_le hlt (hspent₁.potential p.2)⟩
    · obtain ⟨hnone, hdl⟩ := hok ready hready
      refine ⟨fun fd hfd id hid => ?_, fun h0 => ?_⟩
      · rw [hpend₃]
        exact hnone (fd, id) ((mem_watched hw).2 ⟨hfd, hid⟩)
      · rw [hclock₃.2, ← hclock.2]
        exact hdl h0
  · -- a descriptor names no device: the answer is that, and nothing changed
    obtain ⟨fd, -, -, -, hrun⟩ := select_badDescriptor (by simpa using hall)
    rw [holds_of_run_eq hrun]
    refine ⟨Spent.refl m, fun e he hi => ?_, nofun⟩
    cases he
    cases hi

end Select

end Machine

end ThreadPlatform
