import ThreadPlatform.Machine.Interleaving
import ThreadPlatform.Proofs.Machine.Frame
import ThreadPlatform.Proofs.Device.EventLine
import ThreadPlatform.Proofs.Core.DescriptorSet
/-!
# No lost wakeup in `select`

A `select` registers with every device it waits on, takes their pending interruptions, looks at
their readiness, and if nothing is ready sleeps on its signal. The wire side runs meanwhile on
threads of its own, between any two of those steps (`SelectStep`): a wire call changes its
device under the device's lock, cloning the signal of a `select` registered with the device,
and triggers that signal once it has let go of the lock.

What a `select` can find on a device is an `Aspect`: readable, writable, in error, interrupted.
Each is made to show by one kind of wire call (`Aspect.raisedBy`): bytes received or an
activation, a take of the transmit FIFO, a raised fault, an interruption. The heart of the
argument is `WireAction.lock_raises`: a critical section that makes a watched device show an
aspect is such a call, and it cloned the signal.

`SelectState.Inv` is the invariant, one `SelectState.Phase` for each point of the `select`: the
devices it registered with are watched, and from the moment it looked at a device, each aspect
of it that the `select` waits for either did not show, or the signal is raised, or a call in
flight made it show and owes the trigger (`SelectState.Answered`). Every step of either side
keeps it (`SelectState.Inv.step`), so every reachable state has it (`SelectState.Inv.reach`).

`select_never_sleeps_past_readiness` reads it off a state in which the `select` sleeps with its
signal clear: every watched device showing something the `select` waits for, or an
interruption, has a call in flight that made it so, cloned the signal and has yet to trigger it.
A take of the FIFO triggers inside its lock, so no device is left writable behind a sleeping
`select`. With what a read of the wake device counts (`EventLine.read_run_new`), no activation of
it is lost either.
-/

namespace ThreadPlatform

namespace PollContext

/-- Whether readiness `r` of the device behind `fd` is something `ctx` waits for. -/
def wants (ctx : PollContext) (fd : Fd) (r : Readiness) : Bool :=
  r.readable && ctx.isReadable fd || r.writable && ctx.isWritable fd || r.error && ctx.hasError fd

/-- `fd` is in one of the sets of `ready`. -/
def Reports (ready : PollContext) (fd : Fd) : Prop :=
  ready.readFds.contains fd = true ∨ ready.writeFds.contains fd = true ∨
    ready.errorFds.contains fd = true

theorem Reports.readyCount_pos {ready : PollContext} {fd : Fd} (h : ready.Reports fd) :
    0 < ready.readyCount := by
  unfold readyCount
  rcases h with h | h | h
  · have := FdSet.size_pos_of_contains h
    omega
  · have := FdSet.size_pos_of_contains h
    omega
  · have := FdSet.size_pos_of_contains h
    omega

section Mark
variable {ctx ready : PollContext} {fd g : Fd} {r : Readiness}

theorem reports_markReady (h : ctx.wants fd r = true) : (Machine.markReady ctx ready fd r).Reports fd := by
  unfold Machine.markReady Reports
  simp only [wants, Bool.or_eq_true] at h
  rcases h with (h | h) | h
  · simp only [h, if_true]
    split <;> split <;> simp [FdSet.contains_insert_self]
  · simp only [h, if_true]
    split <;> split <;> simp [FdSet.contains_insert_self]
  · simp only [h, if_true]
    split <;> split <;> simp [FdSet.contains_insert_self]

theorem Reports.markReady (h : ready.Reports g) : (Machine.markReady ctx ready fd r).Reports g := by
  unfold Machine.markReady
  rcases h with h | h | h
  all_goals
    split <;> split <;> split <;>
      simp [Reports, h, FdSet.contains_insert_of_contains]

end Mark

end PollContext

namespace Device

@[simp] theorem watched_setWatched (on : Bool) (d : Device) : (d.setWatched on).watched = on := by
  cases d <;> rfl

end Device

namespace Uart

/-- A receive that took nothing leaves the device as it was. -/
theorem receive_eq_self {u : Uart} {bytes : List UInt8} (h : (u.receive bytes).1 = 0) :
    (u.receive bytes).2 = u := by
  unfold receive at h ⊢
  split
  · next hi =>
    simp only [hi, if_true] at h
    simp [h]
  · rfl

/-! What the wire side's calls keep of a UART: each changes one part of what a `select` sees. -/

variable (u : Uart)

@[simp] theorem readiness_setFault (on : Bool) : (u.setFault on).readiness = { u.readiness with error := on } :=
  rfl

@[simp] theorem readiness_interrupt : u.interrupt.readiness = u.readiness := rfl

@[simp] theorem readable_takeTx : u.takeTx.2.readiness.readable = u.readiness.readable := rfl

@[simp] theorem error_takeTx : u.takeTx.2.readiness.error = u.readiness.error := rfl

@[simp] theorem interrupted_takeTx : u.takeTx.2.interrupted = u.interrupted := rfl

@[simp] theorem interrupted_setFault (on : Bool) : (u.setFault on).interrupted = u.interrupted := rfl

@[simp] theorem writable_receive (bytes : List UInt8) :
    (u.receive bytes).2.readiness.writable = u.readiness.writable := by
  unfold receive
  split <;> rfl

@[simp] theorem error_receive (bytes : List UInt8) : (u.receive bytes).2.readiness.error = u.readiness.error := by
  unfold receive
  split <;> rfl

@[simp] theorem interrupted_receive (bytes : List UInt8) : (u.receive bytes).2.interrupted = u.interrupted := by
  unfold receive
  split <;> rfl

@[simp] theorem receive_watched (bytes : List UInt8) : (u.receive bytes).2.watched = u.watched := by
  unfold receive
  split <;> rfl

end Uart

namespace Machine

/-- Every device of `watched` that exists knows that a `select` watches it. -/
def Watching (watched : List (Fd × DeviceId)) (m : Machine) : Prop :=
  ∀ p ∈ watched, ∀ d, m.devices[p.2]? = some d → d.watched = true

section Watching
variable {m m' : Machine} {watched : List (Fd × DeviceId)}

theorem Watching.of_watched (h : Watching watched m)
    (hw : ∀ j : DeviceId, (m'.devices[j]?).map Device.watched = (m.devices[j]?).map Device.watched) :
    Watching watched m' := by
  intro p hp d hd
  have hj := hw p.2
  rw [hd] at hj
  cases hm : m.devices[p.2]? with
  | none => simp [hm] at hj
  | some d₀ =>
    simp only [hm, Option.map_some, Option.some.injEq] at hj
    rw [hj]
    exact h p hp d₀ hm

end Watching

section Calls
variable {m : Machine} {id : DeviceId}

/-- Putting back the device that is there changes nothing. -/
theorem modify_devices_self {d : Device} (hd : m.devices[id]? = some d) :
    m.devices.modify id (fun _ => d) = m.devices := by
  apply Array.ext_getElem?
  intro j
  rw [Array.getElem?_modify]
  split
  · next hij =>
    subst hij
    simp [hd]
  · rfl

end Calls

/-- A look for an interruption that found none left the machine as it was. -/
theorem takeInterrupt_false (id : DeviceId) (m : Machine) :
    Holds (takeInterrupt id)
      (fun hit m' => hit = false → m' = m ∧ ∀ u, m.uartAt id = some u → u.interrupted = false) m := by
  simp only [takeInterrupt, holds_bind, holds_uart?]
  cases hu : m.uartAt id with
  | none => simp
  | some u =>
    simp only [setDevice, Uart.takeInterrupt, holds_bind, holds_modify, holds_pure]
    intro hi
    refine ⟨?_, fun u' hu' => Option.some.inj hu' ▸ hi⟩
    have hu' : { u with interrupted := false } = u := by
      cases u
      simp_all
    rw [hu', modify_devices_self (uartAt_eq_some.1 hu)]

/-- A list mapped into `Except` that came out whole holds the image of each of its members. -/
theorem mem_of_mapM_ok {α β ε : Type} {f : α → Except ε β} :
    ∀ {l : List α} {r : List β}, l.mapM f = .ok r → ∀ a ∈ l, ∀ b, f a = .ok b → b ∈ r
  | [], _, _, a, ha, _, _ => by cases ha
  | a :: l, r, h, a', ha', b, hb => by
    rw [List.mapM_cons] at h
    cases hfa : f a with
    | error e => simp [hfa] at h; cases h
    | ok b₀ =>
      cases hl : l.mapM f with
      | error e => simp [hfa, hl] at h; cases h
      | ok bs =>
        simp only [hfa, hl] at h
        cases h
        rcases List.mem_cons.1 ha' with rfl | ha'
        · rw [hfa] at hb
          cases hb
          exact List.mem_cons_self
        · exact List.mem_cons_of_mem _ (mem_of_mapM_ok hl a' ha' b hb)

end Machine

/-! ## What a wire call can make a device show -/

inductive Aspect where
  | readable
  | writable
  | error
  | interrupted
  deriving DecidableEq, Repr

namespace Aspect

def shows : Aspect → Device → Bool
  | readable, d => d.readiness.readable
  | writable, d => d.readiness.writable
  | error, d => d.readiness.error
  | interrupted, d => d.interrupted

def raisedBy : Aspect → WireAction → Bool
  | readable, .receive _ => true
  | readable, .activate => true
  | writable, .takeTx => true
  | writable, .drain _ => true
  | error, .fault on => on
  | interrupted, .interrupt => true
  | _, _ => false

end Aspect

namespace WireAction

theorem lock_activate (e : EventLine) :
    WireAction.activate.lock (.event e) =
      if e.isOpen then (.event { e with pending := true }, e.watched) else (.event e, false) := by
  simp only [lock, EventLine.signal]
  cases e.isOpen <;> rfl

@[simp] theorem watched_lock (a : WireAction) (d : Device) : (a.lock d).1.watched = d.watched := by
  cases d with
  | uart u => cases a <;> simp [lock, Device.watched, Uart.takeTx, Uart.setFault, Uart.interrupt]
  | event e =>
    cases a
    case activate =>
      rw [lock_activate]
      split <;> rfl
    all_goals rfl

/-- A critical section that changed its device owes the trigger exactly when a `select` is
registered with the device. -/
theorem lock_owes {a : WireAction} {d : Device} (h : (a.lock d).1 ≠ d) : (a.lock d).2 = d.watched := by
  cases d with
  | uart u =>
    cases a with
    | receive bytes =>
      by_cases hn : (u.receive bytes).1 = 0
      · simp [lock, Uart.receive_eq_self hn] at h
      · simp [lock, Device.watched, Nat.pos_iff_ne_zero, hn]
    | takeTx | drain _ =>
      cases ht : u.tx with
      | nil =>
        have hu : u.takeTx.2 = u := by simp [Uart.takeTx, ← ht]
        simp [lock, hu] at h
      | cons b bs => simp [lock, Device.watched, ht]
    | fault on | interrupt => rfl
    | activate => simp [lock] at h
  | event e =>
    cases a with
    | activate =>
      rw [lock_activate] at h ⊢
      split
      · rfl
      · next ho => simp [ho] at h
    | _ => simp [lock] at h

/-- A critical section makes a device show an aspect only if the call is one that raises it. -/
theorem shows_lock {a : WireAction} {d : Device} {x : Aspect} (hx : x.shows d = false)
    (hr : x.raisedBy a = false) : x.shows (a.lock d).1 = false := by
  cases d with
  | uart u =>
    cases a <;> cases x <;> simp_all [lock, Aspect.shows, Aspect.raisedBy, Device.readiness, Device.interrupted]
  | event e =>
    cases a
    case activate =>
      rw [lock_activate]
      split <;> cases x <;> simp_all [Aspect.shows, Aspect.raisedBy, Device.readiness, EventLine.readiness, Device.interrupted]
    all_goals exact hx

theorem lock_raises {a : WireAction} {d : Device} {x : Aspect} (hw : d.watched = true)
    (h₀ : x.shows d = false) (h₁ : x.shows (a.lock d).1 = true) :
    (a.lock d).2 = true ∧ x.raisedBy a = true := by
  have hne : (a.lock d).1 ≠ d := fun h => by rw [h, h₀] at h₁; cases h₁
  refine ⟨(lock_owes hne).trans hw, ?_⟩
  cases hr : x.raisedBy a with
  | true => rfl
  | false => rw [shows_lock h₀ hr] at h₁; cases h₁

end WireAction

namespace Aspect

/-- Whether a `select` on `ctx` looks for the aspect on `fd`; it always looks for an
interruption. -/
def wanted (ctx : PollContext) (fd : Fd) : Aspect → Bool
  | readable => ctx.isReadable fd
  | writable => ctx.isWritable fd
  | error => ctx.hasError fd
  | interrupted => true

end Aspect

/-! ## Answers -/

namespace SelectState

variable {σ : SelectState} {ctx : PollContext}

/-- A wire call in flight on device `id` made the aspect show and owes the `select` its
trigger. -/
def Owes (σ : SelectState) (id : DeviceId) (x : Aspect) : Prop :=
  ∃ c ∈ σ.inFlight, c.device = id ∧ c.owes = true ∧ x.raisedBy c.action = true

/-- The aspect `x` of the device behind `p` leaves the `select` nothing to miss: it is not looked
for, or not shown, or the signal is raised, or a call in flight owes the trigger. -/
def Answered (ctx : PollContext) (σ : SelectState) (p : Fd × DeviceId) (x : Aspect) : Prop :=
  x.wanted ctx p.1 = true → (σ.machine.devices[p.2]?).any x.shows = true →
    σ.machine.signal = true ∨ σ.Owes p.2 x

@[simp] theorem pc_afterLock (id : DeviceId) (a : WireAction) (d : Device) : (σ.afterLock id a d).pc = σ.pc := by
  unfold afterLock
  split <;> rfl

@[simp] theorem devices_afterLock (id : DeviceId) (a : WireAction) (d : Device) :
    (σ.afterLock id a d).machine.devices = σ.machine.devices.modify id fun _ => (a.lock d).1 := by
  unfold afterLock
  split <;> rfl

@[simp] theorem pc_afterTrigger (i : Nat) (c : InFlight) : (σ.afterTrigger i c).pc = σ.pc := rfl

@[simp] theorem devices_afterTrigger (i : Nat) (c : InFlight) :
    (σ.afterTrigger i c).machine.devices = σ.machine.devices := rfl

/-- An answer stands while the device stays, the signal stays raised and the calls in flight
stay. -/
theorem Answered.mono {σ' : SelectState} {p : Fd × DeviceId} {x : Aspect} (h : σ.Answered ctx p x)
    (hd : σ'.machine.devices[p.2]? = σ.machine.devices[p.2]?)
    (hs : σ.machine.signal = true → σ'.machine.signal = true) (hc : ∀ c ∈ σ.inFlight, c ∈ σ'.inFlight) :
    σ'.Answered ctx p x := by
  intro hw hshow
  rw [hd] at hshow
  rcases h hw hshow with hsig | ⟨c, hc', hdev, howes, hr⟩
  · exact .inl (hs hsig)
  · exact .inr ⟨c, hc c hc', hdev, howes, hr⟩

/-- An aspect that does not show is answered. -/
theorem answered_of_not_shows {p : Fd × DeviceId} {x : Aspect} (h : (σ.machine.devices[p.2]?).any x.shows = false) :
    σ.Answered ctx p x := fun _ hshow => by rw [h] at hshow; cases hshow

/-- A wire call's critical section keeps every answer of a device a `select` is registered
with: a change it makes shows is owed a trigger, or was triggered inside the lock. -/
theorem Answered.afterLock {id : DeviceId} {a : WireAction} {d : Device} {p : Fd × DeviceId} {x : Aspect}
    (hd : σ.machine.devices[id]? = some d) (hw : ∀ d', σ.machine.devices[p.2]? = some d' → d'.watched = true)
    (h : σ.Answered ctx p x) : (σ.afterLock id a d).Answered ctx p x := by
  have hsig : σ.machine.signal = true → (σ.afterLock id a d).machine.signal = true := by
    unfold SelectState.afterLock
    split <;> simp_all [raise]
  have hin : ∀ c ∈ σ.inFlight, c ∈ (σ.afterLock id a d).inFlight := by
    unfold SelectState.afterLock
    split <;> simp_all [raise]
  by_cases hid : id = p.2
  · subst hid
    intro hwant hshow
    simp only [devices_afterLock, Array.getElem?_modify, if_true, hd, Option.map_some, Option.any_some] at hshow
    cases h₀ : x.shows d with
    | true =>
      rcases h hwant (by rw [hd]; exact h₀) with hs | ⟨c, hc, hdev, howes, hr⟩
      · exact .inl (hsig hs)
      · exact .inr ⟨c, hin c hc, hdev, howes, hr⟩
    | false =>
      -- the call made the aspect show: it owes the trigger, unless it pulled it inside the lock
      obtain ⟨howes, hr⟩ := WireAction.lock_raises (hw d hd) h₀ hshow
      unfold SelectState.afterLock
      split
      · exact .inl (by simp [raise, howes])
      · exact .inr ⟨⟨p.2, a, (a.lock d).2⟩, by simp, rfl, howes, hr⟩
  · refine h.mono ?_ hsig hin
    simp [Array.getElem?_modify, hid]

/-- A trigger keeps every answer: the call it ends raises the signal if it owed it. -/
theorem Answered.afterTrigger {i : Nat} {c : InFlight} {p : Fd × DeviceId} {x : Aspect}
    (hc : σ.inFlight[i]? = some c) (h : σ.Answered ctx p x) : (σ.afterTrigger i c).Answered ctx p x := by
  intro hwant hshow
  rcases h hwant hshow with hs | ⟨c', hc', hdev, howes, hr⟩
  · exact .inl (by simp [SelectState.afterTrigger, raise, hs])
  · obtain ⟨j, hj⟩ := List.mem_iff_getElem?.1 hc'
    by_cases hji : j = i
    · -- the call that owed the answer is the one that triggered
      subst hji
      rw [hc, Option.some.injEq] at hj
      subst hj
      exact .inl (by simp [SelectState.afterTrigger, raise, howes])
    · exact .inr ⟨c', List.mem_eraseIdx_iff_getElem?.2 ⟨j, hji, hj⟩, hdev, howes, hr⟩

end SelectState

namespace Machine

/-- Registering with device `id` marks it watched and keeps the other registrations. -/
theorem watching_registerLocked {l : List (Fd × DeviceId)} {m : Machine} (p : Fd × DeviceId)
    (hw : Watching l m) : Watching (l ++ [p]) (registerLocked p.2 m).1 := by
  unfold registerLocked
  cases hd : m.devices[p.2]? with
  | none =>
    intro q hq d hd'
    rcases List.mem_append.1 hq with hq | hq
    · exact hw q hq d hd'
    · rw [List.mem_singleton.1 hq, hd] at hd'
      cases hd'
  | some d =>
    intro q hq d' hd'
    simp only [Array.getElem?_modify] at hd'
    split at hd'
    · next hj =>
      rw [← hj, hd, Option.map_some, Option.some.injEq] at hd'
      rw [← hd']
      exact Device.watched_setWatched true d
    · next hj =>
      rcases List.mem_append.1 hq with hq | hq
      · exact hw q hq d' hd'
      · rw [List.mem_singleton.1 hq] at hj
        exact absurd rfl hj

/-- No pending interruption shows on a device whose UART, if it is one, has none. -/
theorem interrupted_any_eq_false {m : Machine} {id : DeviceId}
    (h : ∀ u, m.uartAt id = some u → u.interrupted = false) :
    (m.devices[id]?).any Aspect.interrupted.shows = false := by
  cases hd : m.devices[id]? with
  | none => rfl
  | some d =>
    cases d with
    | uart u => exact h u (uartAt_eq_some.2 hd)
    | event e => rfl

/-- A readiness aspect that shows and is looked for is something the `select` waits for. -/
theorem wants_of_shows {m : Machine} {ctx : PollContext} {fd : Fd} {id : DeviceId} {x : Aspect}
    (hx : x ≠ .interrupted) (hw : x.wanted ctx fd = true) (hs : (m.devices[id]?).any x.shows = true) :
    ctx.wants fd ((readiness id).run m).1 = true := by
  show ctx.wants fd (((m.devices[id]?).map Device.readiness).getD ⟨false, false, false⟩) = true
  cases hd : m.devices[id]? with
  | none => rw [hd] at hs; cases hs
  | some d =>
    rw [hd, Option.any_some] at hs
    cases x <;> simp_all [PollContext.wants, Aspect.wanted, Aspect.shows]

end Machine

/-! ## The invariant -/

namespace SelectState

open Machine

variable {watched : List (Fd × DeviceId)} {ctx : PollContext} {σ σ' : SelectState}

/-- What holds of a `select` at each point of it. The devices it registered with are watched.
Once it looks for interruptions, each device it looked at answers for interruptions; once it
looks at readiness, each device it looked at answers for everything, unless something was
ready; while it waits, every device answers for everything. -/
def Phase (watched : List (Fd × DeviceId)) (ctx : PollContext) (σ : SelectState) : SelectPc → Prop
  | .register k => Watching (watched.take k) σ.machine
  | .notify k => Watching (watched.take (k + 1)) σ.machine
  | .interrupts k => Watching watched σ.machine ∧ ∀ p ∈ watched.take k, σ.Answered ctx p .interrupted
  | .sample k ready => Watching watched σ.machine ∧ (∀ p ∈ watched, σ.Answered ctx p .interrupted) ∧
      ((∃ g, ready.Reports g) ∨ ∀ p ∈ watched.take k, ∀ x, σ.Answered ctx p x)
  | .wait | .blocked => Watching watched σ.machine ∧ ∀ p ∈ watched, ∀ x, σ.Answered ctx p x
  | _ => True

/-- The invariant of a `select` among the wire calls: no call that triggers inside its lock is
ever left in flight, and the `select` is where `Phase` says. -/
structure Inv (watched : List (Fd × DeviceId)) (ctx : PollContext) (σ : SelectState) : Prop where
  inside : ∀ c ∈ σ.inFlight, c.action.triggersInside = false
  phase : Phase watched ctx σ σ.pc

/-- A change of state that keeps every registration and every answer of a registered device
keeps each phase. -/
theorem Phase.of_answered {pc : SelectPc} (hw : ∀ l, Watching l σ.machine → Watching l σ'.machine)
    (ha : ∀ p x, (∀ d, σ.machine.devices[p.2]? = some d → d.watched = true) →
      σ.Answered ctx p x → σ'.Answered ctx p x)
    (h : Phase watched ctx σ pc) : Phase watched ctx σ' pc := by
  have hreg : Watching watched σ.machine → ∀ p ∈ watched, ∀ d, σ.machine.devices[p.2]? = some d →
      d.watched = true := fun hw' p hp => hw' p hp
  cases pc with
  | register k => exact hw _ h
  | notify k => exact hw _ h
  | interrupts k =>
    exact ⟨hw _ h.1, fun p hp => ha p _ (hreg h.1 p (List.mem_of_mem_take hp)) (h.2 p hp)⟩
  | sample k ready =>
    obtain ⟨hw', hint, hready⟩ := h
    refine ⟨hw _ hw', fun p hp => ha p _ (hreg hw' p hp) (hint p hp), ?_⟩
    rcases hready with hr | hr
    · exact .inl hr
    · exact .inr fun p hp x => ha p x (hreg hw' p (List.mem_of_mem_take hp)) (hr p hp x)
  | wait => exact ⟨hw _ h.1, fun p hp x => ha p x (hreg h.1 p hp) (h.2 p hp x)⟩
  | blocked => exact ⟨hw _ h.1, fun p hp x => ha p x (hreg h.1 p hp) (h.2 p hp x)⟩
  | timedOut => trivial
  | unregister => trivial
  | done => trivial


/-- Registrations survive a wire call's critical section, which keeps whether its device is
watched. -/
theorem watching_afterLock {l : List (Fd × DeviceId)} {id : DeviceId} {a : WireAction} {d : Device}
    (hd : σ.machine.devices[id]? = some d) (hw : Watching l σ.machine) :
    Watching l (σ.afterLock id a d).machine :=
  hw.of_watched fun j => by
    simp only [devices_afterLock, Array.getElem?_modify]
    split
    · next hj =>
      subst hj
      simp [hd]
    · rfl

/-- One step of either side keeps the invariant's phase. -/
theorem Inv.phase_step (h : Inv watched ctx σ) (hs : SelectStep watched ctx σ σ') :
    Phase watched ctx σ' σ'.pc := by
  have hp := h.phase
  cases hs with
  | lock a hd =>
    rw [pc_afterLock]
    exact Phase.of_answered (fun _ => watching_afterLock hd) (fun _ _ hw ha => ha.afterLock hd hw) hp
  | trigger hc =>
    rw [pc_afterTrigger]
    exact Phase.of_answered (σ := σ) (fun _ hw => hw.of_watched fun _ => rfl) (fun _ _ _ ha => ha.afterTrigger hc) hp
  | @register k p hpc hk =>
    rw [hpc] at hp
    -- the device registered with joins the registrations
    have hw : Watching (watched.take (k + 1)) (registerLocked p.2 σ.machine).1 := by
      rw [List.take_add_one, hk, Option.toList_some]
      exact watching_registerLocked p hp
    dsimp only
    split
    · exact hw
    · exact hw
  | @registered k hpc hk =>
    rw [hpc] at hp
    have hw : Watching (watched.take k) σ.machine := hp
    rw [List.take_of_length_le (List.getElem?_eq_none_iff.1 hk)] at hw
    exact ⟨hw, fun _ hq => by simp at hq⟩
  | @notify k hpc =>
    rw [hpc] at hp
    exact hp.of_watched fun _ => rfl
  | @interrupt k p hpc hk =>
    rw [hpc] at hp
    obtain ⟨hw, hint⟩ := hp
    have ht := takeInterrupt_false p.2 σ.machine
    unfold Holds at ht
    dsimp only
    generalize (takeInterrupt p.2).run σ.machine = r at ht ⊢
    obtain ⟨hit, m'⟩ := r
    cases hit with
    | true => trivial
    | false =>
      -- no interruption was pending, and nothing changed
      obtain ⟨rfl, hnone⟩ := ht rfl
      refine ⟨hw, fun q hq => ?_⟩
      rw [List.take_add_one, hk, Option.toList_some] at hq
      rcases List.mem_append.1 hq with hq | hq
      · exact hint q hq
      · rw [List.mem_singleton.1 hq]
        exact answered_of_not_shows (interrupted_any_eq_false hnone)
  | @uninterrupted k hpc hk =>
    rw [hpc] at hp
    obtain ⟨hw, hint⟩ := hp
    rw [List.take_of_length_le (List.getElem?_eq_none_iff.1 hk)] at hint
    exact ⟨hw, hint, .inr fun _ hq => by simp at hq⟩
  | @sample k ready p hpc hk =>
    rw [hpc] at hp
    obtain ⟨hw, hint, hready⟩ := hp
    refine ⟨hw, hint, ?_⟩
    rcases hready with ⟨g, hg⟩ | hready
    · exact .inl ⟨g, hg.markReady⟩
    · cases hwant : ctx.wants p.1 ((readiness p.2).run σ.machine).1 with
      | true => exact .inl ⟨p.1, PollContext.reports_markReady hwant⟩
      | false =>
        -- the device looked at shows nothing the `select` waits for
        refine .inr fun q hq x => ?_
        rw [List.take_add_one, hk, Option.toList_some] at hq
        rcases List.mem_append.1 hq with hq | hq
        · exact hready q hq x
        · rw [List.mem_singleton.1 hq]
          by_cases hx : x = .interrupted
          · rw [hx]
            exact hint p (List.mem_of_getElem? hk)
          · intro hx₁ hx₂
            rw [wants_of_shows hx hx₁ hx₂] at hwant
            cases hwant
  | @sampled k ready hpc hk =>
    rw [hpc] at hp
    obtain ⟨hw, -, hready⟩ := hp
    dsimp only
    split
    · trivial
    · next hcount =>
      rw [List.take_of_length_le (List.getElem?_eq_none_iff.1 hk)] at hready
      refine ⟨hw, hready.resolve_left fun ⟨g, hg⟩ => hcount hg.readyCount_pos⟩
  | again hpc _ =>
    rw [hpc] at hp
    exact ⟨hp.1.of_watched fun _ => rfl, fun _ hq => by simp at hq⟩
  | sleep hpc _ =>
    rw [hpc] at hp
    exact hp
  | wake hpc _ =>
    rw [hpc] at hp
    exact ⟨hp.1.of_watched fun _ => rfl, fun _ hq => by simp at hq⟩
  | timeout => trivial
  | resample => trivial
  | resampled => trivial
  | unregister => trivial
  | unregistered => trivial

/-- One step of either side keeps the invariant. -/
theorem Inv.step (h : Inv watched ctx σ) (hs : SelectStep watched ctx σ σ') : Inv watched ctx σ' := by
  refine ⟨?_, h.phase_step hs⟩
  cases hs with
  | @lock id d a hd =>
    unfold SelectState.afterLock
    split
    · exact h.inside
    · next hin =>
      intro c hc
      rcases List.mem_append.1 hc with hc | hc
      · exact h.inside c hc
      · rw [List.mem_singleton.1 hc]
        simpa using hin
  | trigger hc => exact fun c hc' => h.inside c (List.mem_of_mem_eraseIdx hc')
  | _ => exact h.inside

/-- Every state a `select` reaches among the wire calls satisfies the invariant. -/
theorem Inv.reach {m : Machine} (h : SelectReach watched ctx m σ) : Inv watched ctx σ := by
  induction h with
  | start =>
    refine ⟨fun c hc => ?_, fun p hp => ?_⟩
    · simp [SelectState.start] at hc
    · simp at hp
  | step _ hs ih => exact ih.step hs

/-- Asleep with its signal clear, a `select` has each watched device's answers owed by calls in
flight. -/
theorem Inv.owes_of_blocked (h : Inv watched ctx σ) (hpc : σ.pc = .blocked) (hs : σ.machine.signal = false)
    {p : Fd × DeviceId} (hp : p ∈ watched) {x : Aspect} (hw : x.wanted ctx p.1 = true)
    (hx : (σ.machine.devices[p.2]?).any x.shows = true) : σ.Owes p.2 x := by
  have hphase := h.phase
  rw [hpc] at hphase
  rcases hphase.2 p hp x hw hx with hsig | howes
  · rw [hs] at hsig
    cases hsig
  · exact howes

end SelectState

namespace Machine

/-- A `select` never sleeps past readiness. Take a `select` on `ctx` over `watched`, begun on any
machine, and any wire calls in any order, each changing its device under the device's lock.
In every state it reaches asleep on its signal with the signal clear, each watched device that
shows something the `select` waits for there, or an interruption, has a wire call in flight
that made it show (bytes received or an activation for readable, a raised fault for an error,
an interruption), cloned the `select`'s signal and has not triggered it yet. No such call is a
take of the transmit FIFO, which triggers inside its lock, so no device is left writable behind
a sleeping `select`. The call's trigger raises the signal, and the `select` wakes and goes round
again. No activation of the wake device is lost either: a read of it answers 1 exactly when an
activation hit it while open and no read or close came after. -/
theorem select_never_sleeps_past_readiness :
    (∀ (watched : List (Fd × DeviceId)) (ctx : PollContext) (m : Machine) (σ : SelectState),
      SelectReach watched ctx m σ → σ.pc = .blocked → σ.machine.signal = false →
      ∀ p ∈ watched, ∀ x : Aspect, x.wanted ctx p.1 = true → (σ.machine.devices[p.2]?).any x.shows = true →
        ∃ i c, σ.inFlight[i]? = some c ∧ c.device = p.2 ∧ c.owes = true ∧ x.raisedBy c.action = true ∧
          c.action.triggersInside = false ∧ (σ.afterTrigger i c).machine.signal = true ∧
          SelectStep watched ctx σ (σ.afterTrigger i c) ∧
          SelectStep watched ctx (σ.afterTrigger i c) ((σ.afterTrigger i c).consume (.interrupts 0))) ∧
    ∀ calls : List EventLine.Call,
      ((EventLine.new.run calls).read.1 = .ok 1 ↔ EventLine.Hit .new calls) ∧
      ((EventLine.new.run calls).read.1 = .ok 0 ↔
        (EventLine.new.run calls).isOpen = true ∧ ¬ EventLine.Hit .new calls) ∧
      ((EventLine.new.run calls).isOpen = false →
        (EventLine.new.run calls).read.1 = .error (.error .closed)) := by
  refine ⟨fun watched ctx m σ hr hpc hs p hp x hw hx => ?_, EventLine.read_run_new⟩
  have hinv := SelectState.Inv.reach hr
  obtain ⟨c, hc, hdev, howes, hraised⟩ := hinv.owes_of_blocked hpc hs hp hw hx
  obtain ⟨i, hi⟩ := List.mem_iff_getElem?.1 hc
  -- the owed trigger raises the signal, which wakes the sleeping `select`
  have hsig : (σ.afterTrigger i c).machine.signal = true := by
    simp [SelectState.afterTrigger, SelectState.raise, howes]
  exact ⟨i, c, hi, hdev, howes, hraised, hinv.inside c hc, hsig, .trigger hi, .wake hpc hsig⟩

/-- A `select` waiting for a UART to be readable finds nothing and goes to sleep; a byte then
arrives under the UART's lock. The `select` sleeps on with its signal clear and the UART
readable, and the receive, in flight, owes it the trigger that wakes it. -/
theorem select_owed_trigger_after_receive :
    let u₀ : Uart := { Uart.new 1 with installed := true, rxCapacity := 16, txCapacity := 16 }
    let fd : Fd := ⟨⟨3, by decide⟩⟩
    let m : Machine := { Machine.empty with devices := #[.uart u₀], table := DescriptorTable.empty.insert fd 0 }
    let ctx := (PollContext.new (Span.ofMillis 10)).addRead fd
    ∃ σ, SelectReach [(fd, 0)] ctx m σ ∧ σ.pc = .blocked ∧ σ.machine.signal = false ∧
      Aspect.readable.wanted ctx fd = true ∧ (σ.machine.devices[0]?).any Aspect.readable.shows = true ∧
      ∃ i c, σ.inFlight[i]? = some c ∧ c.device = 0 ∧ c.owes = true ∧ Aspect.readable.raisedBy c.action = true ∧
        c.action.triggersInside = false ∧ (σ.afterTrigger i c).machine.signal = true ∧
        SelectStep [(fd, 0)] ctx σ (σ.afterTrigger i c) ∧
        SelectStep [(fd, 0)] ctx (σ.afterTrigger i c) ((σ.afterTrigger i c).consume (.interrupts 0)) := by
  intro u₀ fd m ctx
  -- register, find no interruption and nothing readable, sleep; then the byte arrives
  have h₁ := (@SelectReach.start [(fd, 0)] ctx m).step (.register rfl rfl)
  have h₂ := (h₁.step (.registered (k := 1) rfl rfl)).step (.interrupt rfl rfl)
  have h₃ := ((h₂.step (.uninterrupted (k := 1) rfl rfl)).step (.sample rfl rfl)).step (.sampled (k := 1) rfl rfl)
  have h₄ := (h₃.step (.sleep (if_neg (by decide)) rfl)).step
    (@SelectStep.lock _ _ _ 0 (.uart { u₀ with watched := true }) (.receive [1]) (by decide))
  have hw : Aspect.readable.wanted ctx fd = true := by decide
  exact ⟨_, h₄, rfl, rfl, hw, by decide, select_never_sleeps_past_readiness.1 _ _ _ _ h₄ rfl rfl (fd, 0)
    (List.mem_singleton_self _) .readable hw (by decide)⟩

end Machine

end ThreadPlatform
