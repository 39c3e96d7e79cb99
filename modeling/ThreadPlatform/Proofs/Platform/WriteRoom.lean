import ThreadPlatform.Proofs.Machine.Waits
import ThreadPlatform.Proofs.Device.UartTransmit
import ThreadPlatform.Proofs.Platform.PollAssembly
import ThreadPlatform.Proofs.Platform.Console
/-!
# The write loops never run out of room

The radio's wait for room (`RadioLink.awaitWritable`) and its write loop (`RadioLink.writeAll`),
and the console's write loop (`ConsolePort.writeOut`), turn at most as often as their room says:
out of room, the first two fail and the third gives up on what is left. This module shows that
the room each is given is enough, so that no answer of theirs comes from running out of it.

* A wait for room goes on only after a `select` that found nothing ready, which it answers once
  its timeout, the deadline, has passed, or that was interrupted, which consumed an interruption
  of the device (`Machine.select_spends`). What the wait may still spend, `Machine.waitCost`,
  goes down each turn (`RadioLink.awaitWritable_room`), and its room covers it
  (`RadioLink.awaitWritable_enough`).
* A write through a descriptor that a `select` answers writable takes something at once
  (`Machine.select_writesNow`, `Machine.writeFd_spends`). Each turn of a write loop shortens the
  data, or consumes an interruption, or waits for room before a write that takes something, so
  what the loop may still spend, `Machine.writeCost`, two turns an octet, goes down each turn
  (`RadioLink.writeAll_room`, `ConsolePort.writeOut_room`). The room of a frame's loop and of a
  send's loop covers it (`RadioLink.writeAll_enough`, `ConsolePort.writeOut_enough`).
-/

namespace ThreadPlatform

namespace Uart
variable (u : Uart) (data : List UInt8)

/-- A write leaves no interruption pending: it consumes one, and otherwise there was none. -/
@[simp] theorem interrupted_write : (u.write data).2.interrupted = false := by
  unfold write check
  by_cases hi : u.interrupted = true
  · simp [hi]
  · simp only [hi, Bool.false_eq_true, if_false]
    split_ifs <;> simp_all
    split <;> simp_all

/-- A write answers an interruption only when one was pending. -/
theorem interrupted_of_write {e : DeviceError} (h : (u.write data).1 = .error (.error e))
    (he : e = .interrupted) : u.interrupted = true := by
  subst he
  unfold write check at h
  by_cases hi : u.interrupted = true
  · exact hi
  · simp only [hi, Bool.false_eq_true, if_false] at h
    split_ifs at h <;> simp_all
    split at h <;> simp_all

/-- A write on a UART with room for the widest byte and no interruption pending takes at least
one octet of data that is not empty, or fails on a fault. -/
theorem write_of_writable {u : Uart} (hw : u.readiness.writable = true) (hi : u.interrupted = false)
    {data : List UInt8} (hne : data ≠ []) :
    (∃ n, (u.write data).1 = .ok n ∧ 0 < n) ∨ ∃ e, (u.write data).1 = .error (.error e) ∧ e ≠ .interrupted := by
  cases hf : u.fault
  · have hins : u.installed = true := by
      simp only [readiness, Bool.and_eq_true] at hw
      exact hw.1
    obtain ⟨b, rest, rfl⟩ := List.exists_cons_of_ne_nil hne
    have hpos := fill_pos_of_writable hw b rest
    refine .inl ⟨_, ?_, hpos⟩
    rw [write_passing hi hf hins, if_neg (by omega)]
  · refine .inr ⟨.fault, ?_, fun h => by cases h⟩
    simp [write, check, hi, hf]

end Uart

namespace Machine
variable {m : Machine} {fd : Fd} {id : DeviceId}

/-- Whether the device that `fd` names has an interruption pending. -/
def fdInterrupted (m : Machine) (fd : Fd) : Bool := (m.table.slot fd).any m.interruptPending

/-- Whether a write through `fd` takes something at once: `fd` names a UART with room for the
widest byte and no interruption pending. -/
def writesNow (m : Machine) (fd : Fd) : Bool :=
  (m.table.slot fd).any fun id => (m.uartAt id).any fun u => u.readiness.writable && !u.interrupted

/-- What a write loop through `fd` has still to spend on `data`: two turns an octet, one more
while an interruption is pending on the device, one less while a write takes something at once. -/
def writeCost (m : Machine) (fd : Fd) (data : List UInt8) : Nat :=
  2 * data.length + (m.fdInterrupted fd).toNat - (m.writesNow fd).toNat

theorem fdInterrupted_of_writesNow (h : m.writesNow fd = true) : m.fdInterrupted fd = false := by
  unfold writesNow at h
  unfold fdInterrupted
  rcases hs : m.table.slot fd with _ | id
  · rfl
  · rw [hs] at h
    rcases hu : m.uartAt id with _ | u
    · simp [hu] at h
    · simp only [hu, Option.any_some, Bool.and_eq_true, Bool.not_eq_eq_eq_not, Bool.not_true] at h
      simp [interruptPending, hu, h.2]

/-- A write on the device `id` of data that is not empty. On a UART with room and no interruption
pending it takes at least one octet, or fails on a fault; an interruption it answers was pending;
and it leaves none pending on the device, and the table as it was. -/
theorem deviceWrite_spends (id : DeviceId) {data : List UInt8} (hne : data ≠ []) (m : Machine) :
    Holds (deviceWrite id data) (fun r m' =>
      ((m.uartAt id).any (fun u => u.readiness.writable && !u.interrupted) = true →
        (∃ n, r = .ok n ∧ 0 < n) ∨ ∃ e, r = .error (.error e) ∧ e ≠ .interrupted) ∧
      (r = .error (.error .interrupted) → m.interruptPending id = true) ∧
      m'.interruptPending id = false ∧ m'.table = m.table) m := by
  unfold deviceWrite
  simp only [holds_bind, holds_device?]
  rcases hd : m.devices[id]? with _ | (u | e)
  · -- no device: the write would block
    have hu : m.uartAt id = none := by simp [uartAt, hd]
    simp [hu, interruptPending]
  · -- a UART: the write, then the drains it feeds
    have hu : m.uartAt id = some u := uartAt_eq_some.2 hd
    have hpend : interruptPending { m with devices := m.devices.modify id fun _ => .uart (u.write data).2 } id =
        false := by
      simp [interruptPending, WireFrame.uartAt_modify_self hu]
    simp only [setDevice, holds_bind, holds_modify]
    rcases hw : (u.write data).1 with f | n
    · simp only [Bool.false_eq_true, if_false, holds_pure]
      refine ⟨fun hgood => ?_, fun hint => ?_, hpend, by simp⟩
      · simp only [hu, Option.any_some, Bool.and_eq_true, Bool.not_eq_eq_eq_not, Bool.not_true] at hgood
        rcases Uart.write_of_writable hgood.1 hgood.2 hne with ⟨n, hn, -⟩ | ⟨e, he, hne⟩
        · rw [hw] at hn
          cases hn
        · rw [hw] at he
          exact .inr ⟨e, he, hne⟩
      · cases hint
        simp [interruptPending, hu, Uart.interrupted_of_write u data hw rfl]
    · simp only [if_true, holds_bind]
      have hfeed := keepsPending_feedDrains id
        { m with devices := m.devices.modify id fun _ => .uart (u.write data).2 } id
      obtain ⟨X, hX⟩ := (keepsWire_feedDrains id : KeepsWire id (feedDrains id))
        { m with devices := m.devices.modify id fun _ => .uart (u.write data).2 }
      refine ⟨fun hgood => ?_, (fun h => by cases h), hfeed.trans hpend, hX.table⟩
      simp only [hu, Option.any_some, Bool.and_eq_true, Bool.not_eq_eq_eq_not, Bool.not_true] at hgood
      rcases Uart.write_of_writable hgood.1 hgood.2 hne with ⟨n', hn, hpos⟩ | ⟨e, he, -⟩
      · rw [hw] at hn
        cases hn
        exact .inl ⟨n, rfl, hpos⟩
      · rw [hw] at he
        cases he
  · -- an event device: signalled, never interrupted
    have hu : m.uartAt id = none := by simp [uartAt, hd]
    unfold signalEvent eventLine?
    simp only [holds_bind, holds_device?, hd]
    cases hs : e.signal with
    | error err =>
      have hc : err = .closed := by
        unfold EventLine.signal at hs
        split at hs <;> simp_all
      simp [hs, hu, hc, interruptPending]
    | ok e' =>
      cases hw : e.watched <;>
        simp [hs, hw, setDevice, wake, uartAt, interruptPending, Array.getElem?_modify, hd]

/-- A write through `fd` of data that is not empty. One that takes nothing, and fails if at all
by an interruption, found no room at once; an interruption it answers was pending; and it leaves
none pending on the device. -/
theorem writeFd_spends (fd : Fd) {data : List UInt8} (hne : data ≠ []) (m : Machine) :
    Holds (writeFd fd data) (fun r m' =>
      ((∀ n, r = .ok n → n = 0) → (∀ e, r = .error (.error e) → e.isInterrupted = true) →
        m.writesNow fd = false) ∧
      (∀ e, r = .error (.error e) → e.isInterrupted = true → m.fdInterrupted fd = true) ∧
      m'.fdInterrupted fd = false) m := by
  unfold writeFd
  simp only [holds_bind, holds_get]
  cases hslot : m.table.slot fd with
  | none =>
    -- no device: the descriptor is bad, and nothing changes
    have hl : m.table.lookup fd = .error (.badDescriptor fd) := by simp [DescriptorTable.lookup, hslot]
    simp only [hl, holds_pure]
    refine ⟨fun _ _ => by simp [writesNow, hslot], fun e he hi => ?_, by simp [fdInterrupted, hslot]⟩
    cases he
    cases hi
  | some id =>
    have hl : m.table.lookup fd = .ok id := by simp [DescriptorTable.lookup, hslot]
    simp only [hl, holds_bind]
    refine Holds.mono (deviceWrite_spends id hne m) fun r m' hdev => ?_
    obtain ⟨hgood, hint, hpend, htable⟩ := hdev
    simp only [holds_pure]
    refine ⟨fun hnone hint' => ?_, fun e he hi => ?_, by simp [fdInterrupted, htable, hslot, hpend]⟩
    · -- a device with room and no interruption pending would have taken something
      cases hw : m.writesNow fd
      · rfl
      simp only [writesNow, hslot, Option.any_some] at hw
      rcases hgood hw with ⟨n, rfl, hn⟩ | ⟨e, rfl, he⟩
      · exact absurd (hnone n rfl) (Nat.pos_iff_ne_zero.1 hn)
      · have hi := hint' (.device e) rfl
        cases e <;> simp_all [TableError.isInterrupted]
    · -- the device's failure, passed on, is an interruption only if the device's was
      rcases r with (_ | e') | n
      · cases he
      · simp only [Except.mapError, IoFailure.map, Except.error.injEq, IoFailure.error.injEq] at he
        subst he
        cases e' <;> simp_all [TableError.isInterrupted, fdInterrupted]
      · cases he

/-- A descriptor that a `select` answers writable can be written at once: it names a UART with
room for the widest byte and no interruption pending. -/
theorem select_writesNow {ctx ready : PollContext} (hr : ((select ctx).run m).1 = .ok ready)
    (hfd : ready.isWritable fd = true) : ((select ctx).run m).2.writesNow fd = true := by
  obtain ⟨-, -, hwaiting⟩ := select_ready hr
  obtain ⟨hin, id, hid, hmeets⟩ := (hwaiting .writable fd).1 hfd
  have hspends := select_spends ctx m
  unfold Holds at hspends
  have hpend := (hspends.2.2 ready hr).1 fd (PollContext.mem_interest_of_waiting hin) id hid
  obtain ⟨X, hX⟩ := (keepsWire_select ctx : KeepsWire id (select ctx)) m
  generalize ((select ctx).run m).2 = m' at hpend hmeets hX ⊢
  change (((m'.devices[id]?).map Device.readiness).getD ⟨false, false, false⟩).meets .writable = true at hmeets
  unfold writesNow
  rw [hX.table, hid, Option.any_some]
  -- only a UART is ever ready to write
  rcases hd : m'.devices[id]? with _ | (u | e)
  · simp [hd, Readiness.meets] at hmeets
  · have hu : m'.uartAt id = some u := uartAt_eq_some.2 hd
    simp only [hd, Option.map_some, Option.getD_some, Device.readiness, Readiness.meets] at hmeets
    simp only [interruptPending, hu] at hpend
    simp [hu, hmeets, hpend]
  · simp [hd, Device.readiness, EventLine.readiness, Readiness.meets] at hmeets

/-- What a wait for room on `fd` until `deadline` may still spend: the events ahead, an
interruption pending on the device of `fd`, and one more while the deadline is ahead. -/
def waitCost (m : Machine) (fd : Fd) (deadline : Nat) : Nat :=
  m.eventsLeft + (m.fdInterrupted fd).toNat + (decide (m.now < deadline)).toNat

/-- Spending with the table kept adds nothing to what is ahead of the device of `fd`. -/
theorem Spent.fd_le {m m' : Machine} (hs : Spent m m') (ht : m'.table = m.table) (fd : Fd) :
    m'.eventsLeft + (m'.fdInterrupted fd).toNat ≤ m.eventsLeft + (m.fdInterrupted fd).toNat := by
  unfold fdInterrupted
  rw [ht]
  rcases m.table.slot fd with _ | id
  · simp only [Option.any_none, Bool.toNat_false]
    have := hs.eventsLeft
    omega
  · simp only [Option.any_some]
    have := hs.potential id
    unfold Machine.potential at this
    omega

/-- The context of a wait for room on `fd` waits on `fd` alone. -/
theorem eq_of_mem_roomContext {s : Span} {fd g : Fd}
    (h : g ∈ (((PollContext.new s).addWrite fd).addError fd).interest.toList) : g = fd := by
  rw [FdSet.mem_toList, PollContext.contains_interest] at h
  simp [PollContext.addWrite, PollContext.addError, PollContext.raiseMax, PollContext.new,
    PollContext.waiting, FdSet.contains_insert] at h
  exact h.symm

theorem timeout_roomContext (s : Span) (fd : Fd) :
    (((PollContext.new s).addWrite fd).addError fd).timeout = s := by
  simp [PollContext.addWrite, PollContext.addError, PollContext.new]

end Machine

namespace RadioLink

open Machine in
/-- A wait for room with room for as many turns as it may still spend answers as with any more
room. A turn that goes on found nothing ready, which only the end of the timeout of its `select`,
the deadline, brings about, or was interrupted, which consumed an interruption of the device. -/
theorem awaitWritable_room (fd : Fd) (deadline : Nat) :
    ∀ n k (b : Board), b.machine.waitCost fd deadline ≤ n →
      (awaitWritable fd deadline (n + k)).run.run b = (awaitWritable fd deadline n).run.run b
  | 0, k, b, h => by
    -- nothing left to spend: the deadline has passed
    have hpast : deadline ≤ b.machine.now := by
      by_contra hlt
      simp [waitCost, Nat.lt_of_not_le hlt] at h
    cases k with
    | zero => rfl
    | succ k =>
      rw [Nat.zero_add]
      simp only [awaitWritable, Board.run_bind, Board.run_now, hpast, if_true]
  | n + 1, k, b, h => by
    rw [Nat.add_right_comm]
    by_cases hpast : deadline ≤ b.machine.now
    · simp only [awaitWritable, Board.run_bind, Board.run_now, hpast, if_true]
    have hlt := Nat.lt_of_not_le hpast
    simp only [awaitWritable, Board.run_bind, Board.run_now, hpast, if_false, Board.run_onMachine]
    have hspends := select_spends (((PollContext.new ⟨deadline - b.machine.now⟩).addWrite fd).addError fd)
      b.machine
    obtain ⟨X, hX⟩ := (keepsWire_select _ : KeepsWire 0 (select
      (((PollContext.new ⟨deadline - b.machine.now⟩).addWrite fd).addError fd))) b.machine
    unfold Holds at hspends
    generalize (select (((PollContext.new ⟨deadline - b.machine.now⟩).addWrite fd).addError fd)).run b.machine =
      res at hspends hX ⊢
    obtain ⟨r, m'⟩ := res
    dsimp only at hspends hX
    obtain ⟨hspent, herr, hok⟩ := hspends
    have hle := hspent.fd_le hX.table fd
    rcases r with e | ready
    · dsimp only
      split
      · -- interrupted: an interruption of the device of `fd` was consumed
        rename_i hi
        obtain ⟨g, hg, id, hid, hpot⟩ := herr e rfl hi
        rw [eq_of_mem_roomContext hg] at hid
        refine awaitWritable_room fd deadline n k _ ?_
        have hnow := hspent.now
        simp only [waitCost, fdInterrupted, hX.table, hid, Option.any_some] at h ⊢
        unfold potential at hpot
        by_cases hd : m'.now < deadline
        · simp only [hd, hlt, decide_true, Bool.toNat_true] at h ⊢
          omega
        · simp only [hd, hlt, decide_true, decide_false, Bool.toNat_true, Bool.toNat_false] at h ⊢
          omega
      · rfl
    · dsimp only
      split
      · -- nothing ready: the timeout, which ends at the deadline, has passed
        rename_i h0
        refine awaitWritable_room fd deadline n k _ ?_
        have hdl := (hok ready rfl).2 h0
        rw [timeout_roomContext] at hdl
        have hout : ¬m'.now < deadline := by dsimp only at hdl; omega
        simp only [waitCost, hout, hlt, decide_true, decide_false, Bool.toNat_true, Bool.toNat_false] at h ⊢
        omega
      · rfl

open Machine in
/-- The room a wait for room is given, one more turn than the events ahead and one more for the
deadline, is enough: with any more it answers the same. -/
theorem awaitWritable_enough (fd : Fd) (deadline k : Nat) (b : Board) :
    (awaitWritable fd deadline (b.machine.eventsLeft + 2 + k)).run.run b =
      (awaitWritable fd deadline (b.machine.eventsLeft + 2)).run.run b := by
  refine awaitWritable_room fd deadline _ k b ?_
  have h₁ := Bool.toNat_le (b.machine.fdInterrupted fd)
  have h₂ := Bool.toNat_le (decide (b.machine.now < deadline))
  unfold waitCost
  omega

open Machine in
/-- A wait for room that finds room leaves `fd` writable at once. -/
theorem awaitWritable_writesNow (fd : Fd) (deadline : Nat) :
    ∀ (fuel : Nat) (b b' : Board), (awaitWritable fd deadline fuel).run.run b = (.ok (.ok ()), b') →
      b'.machine.writesNow fd = true
  | 0, b, b', h => by cases h
  | fuel + 1, b, b', h => by
    by_cases hpast : deadline ≤ b.machine.now
    · simp only [awaitWritable, Board.run_bind, Board.run_now, hpast, if_true] at h
      cases h
    simp only [awaitWritable, Board.run_bind, Board.run_now, hpast, if_false, Board.run_onMachine] at h
    have hready := fun ready (hr : ((select (((PollContext.new ⟨deadline - b.machine.now⟩).addWrite fd).addError
      fd)).run b.machine).1 = .ok ready) (hfd : ready.isWritable fd = true) => select_writesNow hr hfd
    generalize (select (((PollContext.new ⟨deadline - b.machine.now⟩).addWrite fd).addError fd)).run b.machine =
      res at hready h
    obtain ⟨r, m'⟩ := res
    rcases r with e | ready
    · dsimp only at h
      split at h
      · exact awaitWritable_writesNow fd deadline fuel _ _ h
      · exact absurd h (Board.run_fatal_ne _ _ _ _)
    · dsimp only at h
      split at h
      · exact awaitWritable_writesNow fd deadline fuel _ _ h
      · split at h
        · -- room: the answer of the `select`
          rename_i hfd
          cases h
          exact hready ready rfl hfd
        · exact absurd h (Board.run_fatal_ne _ _ _ _)

theorem waitWritable_writesNow {fd : Fd} {maxWait : Span} {b b' : Board}
    (h : (waitWritable fd maxWait).run.run b = (.ok (.ok ()), b')) : b'.machine.writesNow fd = true := by
  rw [run_waitWritable] at h
  split at h
  · exact awaitWritable_writesNow fd _ _ _ _ h
  · cases h

/-- A retry of the write loop answers alike with two fuels where, after a wait that found room,
the loop answers alike with them. -/
theorem run_retry_congr {fd : Fd} {maxWait : Span} {n n' : Nat} {data : List UInt8} {b₁ : Board}
    (h : ∀ b₂, (waitWritable fd maxWait).run.run b₁ = (.ok (.ok ()), b₂) →
      (writeAll fd maxWait n data).run.run b₂ = (writeAll fd maxWait n' data).run.run b₂) :
    (do
      match ← waitWritable fd maxWait with
      | .ok () => writeAll fd maxWait n data
      | .error e => pure (.error e) : BoardM (Except ThreadError Unit)).run.run b₁ =
    (do
      match ← waitWritable fd maxWait with
      | .ok () => writeAll fd maxWait n' data
      | .error e => pure (.error e) : BoardM (Except ThreadError Unit)).run.run b₁ := by
  rw [Board.run_bind, Board.run_bind]
  generalize (waitWritable fd maxWait).run.run b₁ = res at h ⊢
  obtain ⟨w, b₂⟩ := res
  rcases w with f | (e | ⟨⟩)
  · rfl
  · rfl
  · exact h b₂ rfl

open Machine in
/-- The write loop with room for more turns than it may still spend answers as with any more room.
A write that takes something shortens the data; one that takes nothing, or is interrupted, is
followed by a wait for room, after which a write takes something at once. -/
theorem writeAll_room (fd : Fd) (maxWait : Span) :
    ∀ n k (data : List UInt8) (b : Board), b.machine.writeCost fd data < n →
      (writeAll fd maxWait (n + k) data).run.run b = (writeAll fd maxWait n data).run.run b
  | 0, _, _, _, h => absurd h (Nat.not_lt_zero _)
  | n + 1, k, [], b, _ => by
    rw [Nat.add_right_comm]
    rfl
  | n + 1, k, x :: xs, b, h => by
    rw [Nat.add_right_comm]
    -- a write that took nothing left a wait's turn to spend, after which a write takes something
    have hretry : b.machine.writesNow fd = false → ∀ b₁ b₂ : Board,
        (waitWritable fd maxWait).run.run b₁ = (.ok (.ok ()), b₂) →
        (writeAll fd maxWait (n + k) (x :: xs)).run.run b₂ = (writeAll fd maxWait n (x :: xs)).run.run b₂ := by
      intro hwn b₁ b₂ hroom
      have hw := waitWritable_writesNow hroom
      refine writeAll_room fd maxWait n k _ b₂ ?_
      simp only [writeCost, hwn, hw, fdInterrupted_of_writesNow hw, Bool.toNat_true, Bool.toNat_false,
        List.length_cons] at h ⊢
      omega
    simp only [writeAll, Board.run_bind, Board.run_onMachine]
    have hwrite := writeFd_spends fd (List.cons_ne_nil x xs) b.machine
    unfold Holds at hwrite
    generalize (writeFd fd (x :: xs)).run b.machine = res at hwrite ⊢
    obtain ⟨r, m'⟩ := res
    obtain ⟨hstall, hint, hpend⟩ := hwrite
    dsimp only at hstall hint hpend
    rcases r with (_ | e) | (_ | n')
    · exact run_retry_congr (hretry (hstall (fun _ h => by cases h) fun _ h => by cases h) _)
    · dsimp only
      split
      · exact run_retry_congr (hretry (hstall (fun _ h => by cases h) fun _ h => by cases h; assumption) _)
      · rfl
    · exact run_retry_congr (hretry (hstall (fun _ h => by cases h; rfl) fun _ h => by cases h) _)
    · -- the write took something: what is left is shorter
      refine writeAll_room fd maxWait n k _ _ ?_
      have hlen : ((x :: xs).drop (n' + 1)).length ≤ xs.length := by simp
      have hw := Bool.toNat_le (b.machine.writesNow fd)
      simp only [writeCost, hpend, Bool.toNat_false] at h ⊢
      simp only [List.length_cons] at h
      omega

open Machine in
/-- The write loop of a frame is given room enough: with any more it answers the same. -/
theorem writeAll_enough (fd : Fd) (maxWait : Span) (data : List UInt8) (k : Nat) (b : Board) :
    (writeAll fd maxWait (2 * data.length + 4 + k) data).run.run b =
      (writeAll fd maxWait (2 * data.length + 4) data).run.run b := by
  refine writeAll_room fd maxWait _ k data b ?_
  have := Bool.toNat_le (b.machine.fdInterrupted fd)
  unfold writeCost
  omega

end RadioLink

namespace ConsolePort

open Machine in
/-- A wait for room that answers `true` leaves `fd` writable at once. -/
theorem waitWritable_writesNow {fd : Fd} {deadline : Nat} {b b' : Board}
    (h : (waitWritable fd deadline).run.run b = (.ok true, b')) : b'.machine.writesNow fd = true := by
  by_cases hpast : deadline ≤ b.machine.now
  · simp only [waitWritable, Board.run_bind, Board.run_now, hpast, if_true] at h
    cases h
  simp only [waitWritable, Board.run_bind, Board.run_now, hpast, if_false, Board.run_onMachine] at h
  have hready := fun ready (hr : ((select (((PollContext.new ⟨deadline - b.machine.now⟩).addWrite fd).addError
    fd)).run b.machine).1 = .ok ready) (hfd : ready.isWritable fd = true) => select_writesNow hr hfd
  generalize (select (((PollContext.new ⟨deadline - b.machine.now⟩).addWrite fd).addError fd)).run b.machine =
    res at hready h
  obtain ⟨r, m'⟩ := res
  rcases r with e | ready
  · cases h
  · obtain ⟨hok, rfl⟩ := Prod.mk.inj h
    simp only [Except.ok.injEq, Bool.and_eq_true] at hok
    exact hready ready rfl hok.2

open Machine in
/-- The console's write loop with room for more turns than it may still spend answers as with
any more room. A write that takes something shortens the data; an interrupted one consumed the
interruption, so the next write is not interrupted; one that takes nothing waits for room, after
which a write takes something at once. -/
theorem writeOut_room (fd : Fd) (deadline : Nat) :
    ∀ n k (rest : List UInt8) (b : Board), b.machine.writeCost fd rest < n →
      (writeOut fd deadline (n + k) rest).run.run b = (writeOut fd deadline n rest).run.run b
  | 0, _, _, _, h => absurd h (Nat.not_lt_zero _)
  | n + 1, k, [], b, _ => by
    rw [Nat.add_right_comm]
    rfl
  | n + 1, k, x :: xs, b, h => by
    rw [Nat.add_right_comm]
    simp only [writeOut, Board.run_bind, Board.run_onMachine]
    have hwrite := writeFd_spends fd (List.cons_ne_nil x xs) b.machine
    unfold Holds at hwrite
    generalize (writeFd fd (x :: xs)).run b.machine = res at hwrite ⊢
    obtain ⟨r, m'⟩ := res
    obtain ⟨hstall, hint, hpend⟩ := hwrite
    dsimp only at hstall hint hpend
    -- after a wait for room the next write takes something at once
    have hretry : b.machine.writesNow fd = false → ∀ b₁ : Board,
        (do
          if ← waitWritable fd deadline then writeOut fd deadline (n + k) (x :: xs)
          else pure (x :: xs) : BoardM (List UInt8)).run.run b₁ =
        (do
          if ← waitWritable fd deadline then writeOut fd deadline n (x :: xs)
          else pure (x :: xs) : BoardM (List UInt8)).run.run b₁ := by
      intro hwn b₁
      rw [Board.run_bind, Board.run_bind]
      have hroom := fun b₂ (hw : (waitWritable fd deadline).run.run b₁ = (.ok true, b₂)) =>
        waitWritable_writesNow hw
      generalize (waitWritable fd deadline).run.run b₁ = res at hroom ⊢
      obtain ⟨w, b₂⟩ := res
      rcases w with f | (_ | _)
      · rfl
      · rfl
      · have hw := hroom b₂ rfl
        refine writeOut_room fd deadline n k _ b₂ ?_
        simp only [writeCost, hwn, hw, fdInterrupted_of_writesNow hw, Bool.toNat_true, Bool.toNat_false,
          List.length_cons] at h ⊢
        omega
    rcases r with (_ | e) | (_ | n')
    · exact hretry (hstall (fun _ h => by cases h) fun _ h => by cases h) _
    · dsimp only
      split
      · -- interrupted: the interruption was consumed, and the write goes on at once
        rename_i hi
        refine writeOut_room fd deadline n k _ _ ?_
        have hwn := hstall (fun _ h => by cases h) fun _ h => by cases h; exact hi
        simp only [writeCost, hwn, hint e rfl hi, hpend, Bool.toNat_true, Bool.toNat_false,
          List.length_cons] at h ⊢
        have := Bool.toNat_le ((m' : Machine).writesNow fd)
        omega
      · rfl
    · exact hretry (hstall (fun _ h => by cases h; rfl) fun _ h => by cases h) _
    · -- the write took something: what is left is shorter
      refine writeOut_room fd deadline n k _ _ ?_
      have hlen : ((x :: xs).drop (n' + 1)).length ≤ xs.length := by simp
      have hw := Bool.toNat_le (b.machine.writesNow fd)
      simp only [writeCost, hpend, Bool.toNat_false, List.length_cons] at h ⊢
      omega

open Machine in
/-- The write loop of a send is given room enough: with any more it answers the same. -/
theorem writeOut_enough (fd : Fd) (deadline : Nat) (data : List UInt8) (k : Nat) (b : Board) :
    (writeOut fd deadline (2 * data.length + 2 * b.machine.eventsLeft + 4 + k) data).run.run b =
      (writeOut fd deadline (2 * data.length + 2 * b.machine.eventsLeft + 4) data).run.run b := by
  refine writeOut_room fd deadline _ k data b ?_
  have := Bool.toNat_le (b.machine.fdInterrupted fd)
  unfold writeCost
  omega

end ConsolePort

end ThreadPlatform
