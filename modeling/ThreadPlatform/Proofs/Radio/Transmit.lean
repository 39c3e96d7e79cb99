import ThreadPlatform.Proofs.Radio.Link
import ThreadPlatform.Proofs.Hdlc.Truncation
/-!
# What a send puts in the transmit FIFO

`RadioLink.sendFrame` frames a payload and writes the frame through the radio UART's
descriptor with the line endings plain, waiting for room whenever the FIFO is full; a wait that
runs out fails the send, possibly after part of the frame went out.

`Machine.TxFrame id out m m'` follows the transmit side of the UART `id`: from `m` to `m'` it
queued `out` while the wire took octets from the front of its FIFO, so the octets the wire took
followed by the FIFO after are the FIFO before followed by `out`. A write queues the front of
its data, as much as it reports written (`Machine.txFrame_writeFd`); a wait for room is a wire
frame (`RadioLink.keepsWire_awaitWritable`).

`RadioLink.writeRest` is the write loop that also returns what it did not write
(`RadioLink.writeAll_eq_writeRest`); it queues the front of its data and returns the rest
(`RadioLink.writeRest_queues`). From it, `RadioLink.sendCut` is how many octets of its frame a
send gets out, and `RadioLink.attempt` the send as the wire sees it. `RadioLink.exec_sendFrame`:
a send that returned queued exactly that front of its frame, all of it when it reported success.

`RadioLink.sendFrame_postcondition` gathers what one send does, from the three ways it can start
(`exec_sendFrame_unbound`, `exec_sendFrame_unframed`, `exec_sendFrame_framed`): a link that is not
up or a payload too long for a frame leaves the UART alone; otherwise the whole frame goes out
and is counted, or a proper front of it goes out and the send fails, and either way the UART
expands newlines again afterwards.
-/

namespace ThreadPlatform

namespace Machine

/-- How many octets a write reports written; a failed write wrote none. -/
def written {ε : Type} : Except ε Nat → Nat
  | .ok n => n
  | .error _ => 0

@[simp] theorem written_ok {ε : Type} (n : Nat) : written (.ok n : Except ε Nat) = n := rfl

@[simp] theorem written_error {ε : Type} (e : ε) : written (.error e : Except ε Nat) = 0 := rfl

@[simp] theorem written_mapError {ε ε' : Type} (f : ε → ε') (r : Except ε Nat) :
    written (r.mapError f) = written r := by
  cases r <;> rfl

end Machine

namespace Uart

theorem check_keeps (u : Uart) : Wire.Keeps u u.check.2 ∧ u.check.2.tx = u.tx := by
  unfold check
  repeat' split
  all_goals exact ⟨⟨rfl, rfl, rfl, rfl⟩, rfl⟩

/-- Without line-ending expansion, the octets that fit are the front of the data. -/
theorem fill_plain (room : Nat) (data : List UInt8) :
    (fill false room data).2 = data.take (fill false room data).1 := by
  induction data generalizing room with
  | nil => rfl
  | cons b rest ih =>
    simp only [fill, expand, Bool.false_and, Bool.false_eq_true, if_false, List.length_singleton]
    split
    · rfl
    · simp [ih]

/-- With plain line endings a write queues the front of the data, as much as it reports
written; a failed write queues nothing. -/
theorem write_plain (u : Uart) (hle : u.lineEndings = .lf) (data : List UInt8) :
    (u.write data).2.tx = u.tx ++ data.take (Machine.written (u.write data).1) ∧ Wire.Keeps u (u.write data).2 := by
  unfold write
  rcases hc : u.check with ⟨e | ⟨⟩, u₁⟩
  · have hk := check_keeps u
    rw [hc] at hk
    exact ⟨by simpa using hk.2, hk.1⟩
  · have hu₁ : u₁ = u := by
      have hok := @check_ok u
      rw [hc] at hok
      exact hok rfl
    subst hu₁
    have hcr : (u₁.lineEndings == .crLf) = false := by rw [hle]; rfl
    have hfill := fill_plain u₁.txRoom data
    rcases hf : fill false u₁.txRoom data with ⟨n, out⟩
    rw [hf] at hfill
    dsimp only at hfill
    simp only [hcr, hf]
    split
    · exact ⟨by simp, ⟨rfl, rfl, rfl, rfl⟩⟩
    · exact ⟨by simp [hfill], ⟨rfl, rfl, rfl, rfl⟩⟩

end Uart

namespace Machine

/-- From `m` to `m'` the table stayed, and the UART `id`, if it is one, queued `out` for sending
while the wire took octets from the front of its FIFO; its driver, line endings and queue
sizes stayed. -/
structure TxFrame (id : DeviceId) (out : List UInt8) (m m' : Machine) : Prop where
  table : m'.table = m.table
  uart : ∀ u, m.uartAt id = some u →
    ∃ u' Y, m'.uartAt id = some u' ∧ Y ++ u'.tx = u.tx ++ out ∧ Uart.Wire.Keeps u u'

namespace TxFrame
variable {id : DeviceId} {m m' m₁ m₂ m₃ : Machine}

/-- The wire takes octets from the front of the FIFO and queues none. -/
theorem of_wireFrame {X : List UInt8} (h : WireFrame id X m m') : TxFrame id [] m m' := by
  refine ⟨h.table, fun u hu => ?_⟩
  obtain ⟨u', hu', hw⟩ := h.uart u hu
  obtain ⟨j, hj⟩ := hw.tx
  exact ⟨u', u.tx.take j, hu', by rw [hj, List.take_append_drop, List.append_nil], hw.keeps⟩

theorem trans {A B : List UInt8} (h₁ : TxFrame id A m₁ m₂) (h₂ : TxFrame id B m₂ m₃) :
    TxFrame id (A ++ B) m₁ m₃ := by
  refine ⟨h₂.table.trans h₁.table, fun u hu => ?_⟩
  obtain ⟨u₂, Y₁, hu₂, hY₁, hk₁⟩ := h₁.uart u hu
  obtain ⟨u₃, Y₂, hu₃, hY₂, hk₂⟩ := h₂.uart u₂ hu₂
  refine ⟨u₃, Y₁ ++ Y₂, hu₃, ?_, hk₁.trans hk₂⟩
  rw [List.append_assoc, hY₂, ← List.append_assoc, hY₁, List.append_assoc]

/-- Where the device is no UART only the table is followed. -/
theorem of_uartAt_none {out : List UInt8} (hu : m.uartAt id = none) (ht : m'.table = m.table) :
    TxFrame id out m m' :=
  ⟨ht, fun u h => by rw [hu] at h; cases h⟩

end TxFrame

/-- Setting the line endings replaces the UART by itself with the new setting. -/
theorem run_setLineEndings {m : Machine} {id : DeviceId} {u : Uart} (hu : m.uartAt id = some u)
    (le : LineEndings) :
    ((setLineEndings id le).run m).2 =
      { m with devices := m.devices.modify id fun _ => .uart { u with lineEndings := le } } := by
  simp [setLineEndings, updateUart, uart?, device?, setDevice, uartAt_eq_some.1 hu]
  rfl

/-- A write through a descriptor that names a UART with plain line endings queues the front
of the data, as much as it reports written; the drains it feeds then take octets from the
front of the FIFO. -/
theorem txFrame_writeFd {m : Machine} {fd : Fd} {id : DeviceId} (ht : m.table.lookup fd = .ok id)
    (hle : ∀ u, m.uartAt id = some u → u.lineEndings = .lf) (data : List UInt8) :
    TxFrame id (data.take (written ((writeFd fd data).run m).1)) m ((writeFd fd data).run m).2 := by
  show Holds (writeFd fd data) (fun r m' => TxFrame id (data.take (written r)) m m') m
  unfold writeFd deviceWrite
  simp only [holds_bind, holds_get, ht, holds_device?]
  cases hd : m.devices[id]? with
  | none => exact TxFrame.of_wireFrame (.refl id m)
  | some d =>
    cases d with
    | uart u =>
      have hu : m.uartAt id = some u := uartAt_eq_some.2 hd
      obtain ⟨htx, hk⟩ := Uart.write_plain u (hle u hu) data
      -- the write itself: the UART replaced by its state after the write
      have h₁ : TxFrame id (data.take (written (u.write data).1)) m
          { m with devices := m.devices.modify id fun _ => .uart (u.write data).2 } := by
        refine ⟨rfl, fun v hv => ?_⟩
        rw [hu] at hv
        cases hv
        exact ⟨_, [], WireFrame.uartAt_modify_self hu _, by rw [htx]; rfl, hk⟩
      obtain ⟨X, hX⟩ := (keepsWire_feedDrains id : KeepsWire id (feedDrains id))
        { m with devices := m.devices.modify id fun _ => .uart (u.write data).2 }
      have h₂ := h₁.trans (TxFrame.of_wireFrame hX)
      rw [List.append_nil] at h₂
      simp only [setDevice, holds_bind, holds_modify, holds_pure, written_mapError]
      -- only a write that went through feeds the drains
      rcases hw : (u.write data).1 with e | n
      · simpa [hw] using h₁
      · simp only [hw, if_true, holds_bind, holds_pure, written_ok] at h₂ ⊢
        exact h₂
    | event e =>
      have hu : m.uartAt id = none := by simp [uartAt, hd]
      obtain ⟨X, hX⟩ := (keepsWire_signalEvent id : KeepsWire id (signalEvent id)) m
      simp only [holds_bind]
      unfold Holds
      dsimp only
      split <;> exact TxFrame.of_uartAt_none hu hX.table

end Machine

namespace Board

section Run
variable {α β : Type}

theorem run_bind (x : BoardM α) (f : α → BoardM β) (b : Board) :
    (x >>= f).run.run b =
      match x.run.run b with
      | (.ok a, b') => (f a).run.run b'
      | (.error e, b') => (.error e, b') := by
  simp only [ExceptT.run_bind, StateT.run_bind]
  rcases x.run.run b with ⟨_ | a, b'⟩ <;> rfl

/-- Work that ended normally ended normally in both its parts. -/
theorem run_bind_ok {x : BoardM α} {f : α → BoardM β} {b b'' : Board} {c : β}
    (h : (x >>= f).run.run b = (.ok c, b'')) :
    ∃ a b', x.run.run b = (.ok a, b') ∧ (f a).run.run b' = (.ok c, b'') := by
  rw [run_bind] at h
  split at h
  · rename_i a b' hx
    exact ⟨a, b', hx, h⟩
  · cases h

theorem run_map (f : α → β) (x : BoardM α) (b : Board) :
    (f <$> x).run.run b = ((x.run.run b).1.map f, (x.run.run b).2) := by
  simp only [ExceptT.run_map, StateT.run_map]
  rcases x.run.run b with ⟨_ | a, b'⟩ <;> rfl

@[simp] theorem run_pure (a : α) (b : Board) : (pure a : BoardM α).run.run b = (.ok a, b) := rfl

@[simp] theorem run_get (b : Board) : (get : BoardM Board).run.run b = (.ok b, b) := rfl

@[simp] theorem run_now (b : Board) : now.run.run b = (.ok b.machine.now, b) := rfl

@[simp] theorem run_onMachine (act : MachineM α) (b : Board) :
    (onMachine act).run.run b = (.ok (act.run b.machine).1, { b with machine := (act.run b.machine).2 }) :=
  rfl

@[simp] theorem run_fatal_fst (msg : String) (b : Board) : ((fatal msg : BoardM α).run.run b).1 = .error ⟨msg, none⟩ :=
  rfl

/-- A fatal condition never ends board work normally. -/
theorem run_fatal_ne (msg : String) (a : α) (b b' : Board) : (fatal msg : BoardM α).run.run b ≠ (.ok a, b') := by
  intro h
  have hfst := congrArg Prod.fst h
  rw [run_fatal_fst] at hfst
  cases hfst

/-- A deadline leaves the board alone: it is the reading `s` from now, or, past the clock's
range, the overflow panic. -/
theorem run_deadlineAfter (site : String) (s : Span) (b : Board) :
    (deadlineAfter site s).run.run b =
      (if b.machine.now + s.nanos < Span.instantLimit then .ok (b.machine.now + s.nanos)
        else .error ⟨Span.overflowMessage, some site⟩, b) := by
  unfold deadlineAfter Span.after?
  rw [run_bind, run_get]
  by_cases h : b.machine.now + s.nanos < Span.instantLimit
  · simp only [h, if_true]
    rfl
  · simp only [h, if_false]
    rfl

end Run

/-- Board work that, run from any board, is a wire frame of the UART `id`. -/
def KeepsWire {α : Type} (id : DeviceId) (act : BoardM α) : Prop :=
  ∀ b, ∃ X, Machine.WireFrame id X b.machine (act.run.run b).2.machine

namespace KeepsWire
variable {id : DeviceId} {α β : Type}

theorem bind {x : BoardM α} {f : α → BoardM β} (hx : KeepsWire id x) (hf : ∀ a, KeepsWire id (f a)) :
    KeepsWire id (x >>= f) := by
  intro b
  obtain ⟨X, hX⟩ := hx b
  rw [run_bind]
  split
  · rename_i a b' hrun
    rw [hrun] at hX
    obtain ⟨Y, hY⟩ := hf a b'
    exact ⟨X ++ Y, hX.trans hY⟩
  · rename_i e b' hrun
    rw [hrun] at hX
    exact ⟨X, hX⟩

theorem pure (a : α) : KeepsWire id (Pure.pure a : BoardM α) :=
  fun b => ⟨[], .refl id b.machine⟩

theorem get : KeepsWire id (MonadState.get : BoardM Board) :=
  fun b => ⟨[], .refl id b.machine⟩

theorem now : KeepsWire id Board.now :=
  bind get fun _ => pure _

theorem onMachine {act : MachineM α} (h : Machine.KeepsWire id act) : KeepsWire id (Board.onMachine act) :=
  fun b => h b.machine

theorem fatal (msg : String) : KeepsWire id (Board.fatal msg : BoardM α) := by
  unfold Board.fatal
  exact bind (onMachine (Machine.keepsWire_log _ _)) fun _ b => ⟨[], .refl id b.machine⟩

theorem deadlineAfter (site : String) (s : Span) : KeepsWire id (Board.deadlineAfter site s) := fun b => by
  rw [run_deadlineAfter]
  exact ⟨[], .refl id b.machine⟩

theorem increment (site : String) (n : UInt32) : KeepsWire id (Board.increment site n) := fun b => by
  rw [run_increment]
  exact ⟨[], .refl id b.machine⟩

end KeepsWire

end Board

namespace RadioLink

open Board in
/-- A wait for room is a wire frame of every UART, however it ends. -/
theorem keepsWire_awaitWritable {id : DeviceId} (fd : Fd) (deadline : Nat) :
    ∀ fuel, KeepsWire id (awaitWritable fd deadline fuel)
  | 0 => KeepsWire.pure _
  | fuel + 1 => by
    unfold awaitWritable
    refine KeepsWire.bind KeepsWire.now fun now => ?_
    split
    · exact KeepsWire.pure _
    · refine KeepsWire.bind (KeepsWire.onMachine (Machine.keepsWire_select _)) fun res => ?_
      split
      · split
        · exact keepsWire_awaitWritable fd deadline fuel
        · split
          · exact KeepsWire.pure _
          · exact KeepsWire.fatal _
      · split
        · exact keepsWire_awaitWritable fd deadline fuel
        · exact KeepsWire.fatal _

theorem keepsWire_waitWritable {id : DeviceId} (fd : Fd) (maxWait : Span) :
    Board.KeepsWire id (waitWritable fd maxWait) :=
  .bind (.deadlineAfter _ maxWait) fun _ => .bind .get fun _ => keepsWire_awaitWritable fd _ _

/-- A wait for room first names its deadline, `maxWait` from now: past the clock's range that is
the overflow panic, with the board as it was, and otherwise the wait lasts until then. -/
theorem run_waitWritable (fd : Fd) (maxWait : Span) (b : Board) :
    (waitWritable fd maxWait).run.run b =
      if b.machine.now + maxWait.nanos < Span.instantLimit then
        (awaitWritable fd (b.machine.now + maxWait.nanos) (b.machine.eventsLeft + 2)).run.run b
      else (.error ⟨Span.overflowMessage, some deadlineSite⟩, b) := by
  unfold waitWritable
  rw [Board.run_bind, Board.run_deadlineAfter]
  by_cases h : b.machine.now + maxWait.nanos < Span.instantLimit
  · simp only [h, if_true]
    rfl
  · simp only [h, if_false]

/-- A wait for room that returns finds room or runs out of time. -/
theorem awaitWritable_outcome (fd : Fd) (deadline : Nat) :
    ∀ (fuel : Nat) (b b' : Board) (w : Except ThreadError Unit),
      (awaitWritable fd deadline fuel).run.run b = (.ok w, b') → w = .ok () ∨ w = .error .failed
  | 0, b, b', w, h => by
    simp only [awaitWritable, Board.run_pure] at h
    cases h
    exact .inr rfl
  | fuel + 1, b, b', w, h => by
    unfold awaitWritable at h
    obtain ⟨now, b₁, -, h⟩ := Board.run_bind_ok h
    split at h
    · simp only [Board.run_pure] at h
      cases h
      exact .inr rfl
    · obtain ⟨res, b₂, -, h⟩ := Board.run_bind_ok h
      -- a quiet or interrupted wait tries again; a ready one either has room or is fatal
      split at h
      · split at h
        · exact awaitWritable_outcome fd deadline fuel _ _ _ h
        · split at h
          · simp only [Board.run_pure] at h
            cases h
            exact .inl rfl
          · exact absurd h (Board.run_fatal_ne _ _ _ _)
      · split at h
        · exact awaitWritable_outcome fd deadline fuel _ _ _ h
        · exact absurd h (Board.run_fatal_ne _ _ _ _)

theorem waitWritable_outcome {fd : Fd} {maxWait : Span} {b b' : Board} {w : Except ThreadError Unit}
    (h : (waitWritable fd maxWait).run.run b = (.ok w, b')) : w = .ok () ∨ w = .error .failed := by
  unfold waitWritable at h
  obtain ⟨_, b₁, -, h⟩ := Board.run_bind_ok h
  obtain ⟨_, b₂, -, h⟩ := Board.run_bind_ok h
  exact awaitWritable_outcome fd _ _ _ _ _ h

/-- The write loop, also returning what it did not write. -/
def writeRest (fd : Fd) (maxWait : Span) : Nat → List UInt8 → BoardM (Except ThreadError Unit × List UInt8)
  | _, [] => return (.ok (), [])
  | 0, b :: bs => return (.error .failed, b :: bs)
  | fuel + 1, b :: bs => do
    let data := b :: bs
    let retry : BoardM (Except ThreadError Unit × List UInt8) := do
      match ← waitWritable fd maxWait with
      | .ok () => writeRest fd maxWait fuel data
      | .error e => return (.error e, data)
    match ← Board.onMachine (Machine.writeFd fd data) with
    | .ok 0 | .error .wouldBlock => retry
    | .ok n => writeRest fd maxWait fuel (data.drop n)
    | .error (.error e) =>
      if e.isInterrupted then retry
      else Board.fatal s!"radio UART write failed: {e.message}"

theorem writeAll_eq_writeRest (fd : Fd) (maxWait : Span) :
    ∀ fuel data, writeAll fd maxWait fuel data = Prod.fst <$> writeRest fd maxWait fuel data
  | 0, [] => rfl
  | _ + 1, [] => rfl
  | 0, _ :: _ => rfl
  | fuel + 1, b :: bs => by
    have ih := writeAll_eq_writeRest fd maxWait fuel
    -- the wait before a retry, on both sides
    have hretry : (do
          match ← waitWritable fd maxWait with
          | .ok () => writeAll fd maxWait fuel (b :: bs)
          | .error e => pure (.error e) : BoardM (Except ThreadError Unit)) =
        Prod.fst <$> (do
          match ← waitWritable fd maxWait with
          | .ok () => writeRest fd maxWait fuel (b :: bs)
          | .error e => pure (.error e, b :: bs)) := by
      rw [map_bind]
      congr 1
      funext w
      rcases w with e | ⟨⟩
      · rfl
      · exact ih _
    have hfatal : ∀ msg : String,
        (Board.fatal msg : BoardM (Except ThreadError Unit)) =
          Prod.fst <$> (Board.fatal msg : BoardM (Except ThreadError Unit × List UInt8)) := fun _ => rfl
    simp only [writeAll, writeRest, map_bind]
    congr 1
    funext res
    rcases res with (_ | e) | (_ | n)
    · exact hretry
    · dsimp only
      split
      · exact hretry
      · exact hfatal _
    · exact hretry
    · exact ih _

/-- How the write loop ended: with everything written and success, or with a wait for room that
ran out while octets were left. -/
def WriteEnd (res : Except ThreadError Unit) (rest : List UInt8) : Prop :=
  (res = .ok () ∧ rest = []) ∨ (res = .error .failed ∧ rest ≠ [])

theorem WriteEnd.rest_of_ok {rest : List UInt8} (h : WriteEnd (.ok ()) rest) : rest = [] :=
  (h.resolve_right fun h' => by cases h'.1).2

theorem WriteEnd.of_error {e : ThreadError} {rest : List UInt8} (h : WriteEnd (.error e) rest) :
    e = .failed ∧ rest ≠ [] := by
  rcases h with ⟨h', -⟩ | ⟨h', hne⟩
  · cases h'
  · cases h'
    exact ⟨rfl, hne⟩

/-- The write loop queues the front of the data on a UART with plain line endings and returns
the rest; it succeeds with nothing left, or fails for lack of room with octets left. -/
theorem writeRest_queues {fd : Fd} {id : DeviceId} {maxWait : Span} :
    ∀ (fuel : Nat) (data : List UInt8) (b b' : Board) (u : Uart) (res : Except ThreadError Unit)
      (rest : List UInt8), b.machine.table.lookup fd = .ok id → b.machine.uartAt id = some u →
      u.lineEndings = .lf → (writeRest fd maxWait fuel data).run.run b = (.ok (res, rest), b') →
      ∃ k, rest = data.drop k ∧ Machine.TxFrame id (data.take k) b.machine b'.machine ∧ WriteEnd res rest
  | _, [], b, b', u, res, rest, _, _, _, h => by
    simp only [writeRest, Board.run_pure] at h
    obtain ⟨⟨rfl, rfl⟩, rfl⟩ := h
    exact ⟨0, rfl, by simpa using Machine.TxFrame.of_wireFrame (.refl id b.machine), .inl ⟨rfl, rfl⟩⟩
  | 0, x :: xs, b, b', u, res, rest, _, _, _, h => by
    simp only [writeRest, Board.run_pure] at h
    obtain ⟨⟨rfl, rfl⟩, rfl⟩ := h
    exact ⟨0, rfl, by simpa using Machine.TxFrame.of_wireFrame (.refl id b.machine), .inr ⟨rfl, List.cons_ne_nil _ _⟩⟩
  | fuel + 1, x :: xs, b, b', u, res, rest, ht, hu, hle, h => by
    -- a retry, after a write that queued nothing, waits for room, which only the wire acts in,
    -- then runs the loop again
    have hretry : ∀ (b₁ : Board) (u₁ : Uart), Machine.TxFrame id [] b.machine b₁.machine →
        b₁.machine.table.lookup fd = .ok id → b₁.machine.uartAt id = some u₁ → u₁.lineEndings = .lf →
        (do
            match ← waitWritable fd maxWait with
            | .ok () => writeRest fd maxWait fuel (x :: xs)
            | .error e => pure (.error e, x :: xs) : BoardM (Except ThreadError Unit × List UInt8)).run.run b₁ =
          (.ok (res, rest), b') →
        ∃ k, rest = (x :: xs).drop k ∧ Machine.TxFrame id ((x :: xs).take k) b.machine b'.machine ∧
          WriteEnd res rest := by
      intro b₁ u₁ hw₁ ht₁ hu₁ hle₁ hrun
      obtain ⟨w, b₂, hwait, hrun⟩ := Board.run_bind_ok hrun
      obtain ⟨X, hX⟩ := (keepsWire_waitWritable fd maxWait : Board.KeepsWire id (waitWritable fd maxWait)) b₁
      rw [hwait] at hX
      have hX' := hw₁.trans (Machine.TxFrame.of_wireFrame hX)
      obtain ⟨u₂, -, hu₂, -, hk₂⟩ := (Machine.TxFrame.of_wireFrame hX).uart u₁ hu₁
      rcases w with e | ⟨⟩
      · -- the wait ran out: the send fails with the whole rest left
        have hfail : (.error e : Except ThreadError Unit) = .error .failed :=
          (waitWritable_outcome hwait).resolve_left (by simp)
        simp only [Board.run_pure] at hrun
        obtain ⟨⟨rfl, rfl⟩, rfl⟩ := hrun
        exact ⟨0, rfl, by simpa using hX', .inr ⟨hfail, List.cons_ne_nil _ _⟩⟩
      · obtain ⟨k, hk, hq, hok⟩ := writeRest_queues fuel (x :: xs) b₂ b' u₂ res rest
          (by rw [hX.table, ht₁]) hu₂ (hk₂.lineEndings.trans hle₁) hrun
        exact ⟨k, hk, by simpa using hX'.trans hq, hok⟩
    unfold writeRest at h
    obtain ⟨res₁, b₁, h₁, h⟩ := Board.run_bind_ok h
    simp only [Board.run_onMachine] at h₁
    obtain ⟨rfl, rfl⟩ := h₁
    have hw := Machine.txFrame_writeFd (m := b.machine) ht
      (fun v hv => by rw [hu] at hv; cases hv; exact hle) (x :: xs)
    obtain ⟨u₁, -, hu₁, -, hk₁⟩ := hw.uart u hu
    have ht₁ : ((Machine.writeFd fd (x :: xs)).run b.machine).2.table.lookup fd = .ok id := by
      rw [hw.table, ht]
    have hle₁ : u₁.lineEndings = .lf := hk₁.lineEndings.trans hle
    rcases hres : ((Machine.writeFd fd (x :: xs)).run b.machine).1 with (_ | e) | (_ | n) <;>
      rw [hres] at h hw
    · -- the FIFO was full
      exact hretry _ u₁ (by simpa using hw) ht₁ hu₁ hle₁ h
    · dsimp only at h
      split at h
      · -- interrupted
        exact hretry _ u₁ (by simpa using hw) ht₁ hu₁ hle₁ h
      · exact absurd h (Board.run_fatal_ne _ _ _ _)
    · -- nothing written
      exact hretry _ u₁ (by simpa using hw) ht₁ hu₁ hle₁ h
    · -- `n + 1` octets written: the loop goes on with the rest
      obtain ⟨k, hk, hq, hok⟩ := writeRest_queues fuel ((x :: xs).drop (n + 1)) _ b' u₁ res rest ht₁ hu₁ hle₁ h
      refine ⟨n + 1 + k, by rw [hk, List.drop_drop], ?_, hok⟩
      have hq' := hw.trans hq
      rwa [Machine.written_ok, ← List.take_add] at hq'

/-- What the write loop of a frame leaves unwritten when run from board `b`, the line endings
made plain first. -/
def frameRest (r : RadioLink) (fd : Fd) (data : List UInt8) (b : Board) : List UInt8 :=
  match ((writeRest fd r.maxWait (2 * data.length + 4) data).run.run
      ((Board.onMachine (Machine.setLineEndings r.device .lf)).run.run b).2).1 with
  | .ok (_, rest) => rest
  | .error _ => data

/-- Writing a frame queues its front on the radio UART, all of it when the write reports
success; the line endings are plain meanwhile and the table stays. -/
theorem writeFrame_queues {r : RadioLink} {fd : Fd} {data : List UInt8} {b b' : Board} {u : Uart}
    {res : Except ThreadError Unit} (ht : b.machine.table.lookup fd = .ok r.device)
    (hu : b.machine.uartAt r.device = some u) (h : (r.writeFrame fd data).run.run b = (.ok res, b')) :
    b'.machine.table = b.machine.table ∧ WriteEnd res (r.frameRest fd data b) ∧
      ∃ u' Y, b'.machine.uartAt r.device = some u' ∧ u'.lineEndings = .crLf ∧
        Y ++ u'.tx = u.tx ++ data.take (data.length - (r.frameRest fd data b).length) := by
  unfold writeFrame at h
  obtain ⟨_, b₁, h₁, h⟩ := Board.run_bind_ok h
  obtain ⟨res', b₂, h₂, h⟩ := Board.run_bind_ok h
  obtain ⟨_, b₃, h₃, h⟩ := Board.run_bind_ok h
  simp only [Board.run_pure] at h
  obtain ⟨rfl, rfl⟩ := h
  simp only [Board.run_onMachine] at h₁ h₃
  obtain ⟨-, rfl⟩ := h₁
  obtain ⟨-, rfl⟩ := h₃
  -- the loop itself, with the rest it leaves
  rw [writeAll_eq_writeRest, Board.run_map] at h₂
  rcases hw : (writeRest fd r.maxWait (2 * data.length + 4) data).run.run
      { b with machine := ((Machine.setLineEndings r.device .lf).run b.machine).2 } with ⟨_ | ⟨res', rest⟩, b₂'⟩
  · rw [hw] at h₂
    cases h₂
  rw [hw] at h₂
  simp only [Except.map] at h₂
  obtain ⟨rfl, rfl⟩ := h₂
  have hrest : r.frameRest fd data b = rest := by
    unfold frameRest
    rw [Board.run_onMachine, hw]
  rw [hrest]
  have hu₁ : (((Machine.setLineEndings r.device .lf).run b.machine).2).uartAt r.device =
      some { u with lineEndings := .lf } := by
    rw [Machine.run_setLineEndings hu]
    exact Machine.WireFrame.uartAt_modify_self hu _
  obtain ⟨k, hk, hq, hok⟩ := writeRest_queues _ data _ _ _ res rest
    (by rw [Machine.run_setLineEndings hu]; exact ht) hu₁ rfl hw
  obtain ⟨u₂, Y, hu₂, hY, -⟩ := hq.uart _ hu₁
  have hcut : data.take (data.length - rest.length) = data.take k := by
    rw [hk, List.length_drop]
    by_cases hkd : k ≤ data.length
    · congr 1
      omega
    · rw [List.take_of_length_le (by omega), List.take_of_length_le (by omega)]
  refine ⟨?_, hok, ⟨{ u₂ with lineEndings := .crLf }, Y, ?_, rfl, ?_⟩⟩
  · rw [Machine.run_setLineEndings hu₂]
    exact hq.table.trans (by rw [Machine.run_setLineEndings hu])
  · rw [Machine.run_setLineEndings hu₂]
    exact Machine.WireFrame.uartAt_modify_self hu₂ _
  · rw [hcut]
    exact hY

/-- How many octets of its frame a send of `p` from link `r` on board `b` gets into the transmit
FIFO: none without a descriptor or when the payload cannot be framed; otherwise what the write
loop got out before it stopped. -/
def sendCut (r : RadioLink) (p : List UInt8) (b : Board) : Nat :=
  match r.fd, Hdlc.encodeFrame Hdlc.maxFrameSize p with
  | some fd, .ok buf => buf.data.length - (r.frameRest fd buf.data b).length
  | _, _ => 0

/-- A send as the wire sees it: the payload, whether the call reported success, and how much of
the frame it queued. -/
def attempt (r : RadioLink) (p : List UInt8) (b : Board) (res : Except ThreadError Unit) : Hdlc.Attempt :=
  ⟨p, res.toBool, r.sendCut p b⟩

section Outcome
variable {r r' : RadioLink} {b b' : Board} {p : List UInt8} {res : Except ThreadError Unit} {fd : Fd}

/-- A send from a link that is not up answers `invalidState` and touches nothing. -/
theorem exec_sendFrame_unbound (hfd : r.fd = none) :
    exec (sendFrame p) r b = (.ok (.error .invalidState, r), b) := by
  unfold sendFrame
  rw [exec_bind, exec_get]
  simp only [hfd]
  rfl

/-- A send of a payload that cannot be framed answers the framing error; the board only gains a
log record. -/
theorem exec_sendFrame_unframed {e : Hdlc.FrameError} (hfd : r.fd = some fd)
    (he : Hdlc.encodeFrame Hdlc.maxFrameSize p = .error e) :
    ∃ rec, exec (sendFrame p) r b =
      (.ok (.error e.toThreadError, r), { b with machine := { b.machine with journal := b.machine.journal.push rec } }) := by
  unfold sendFrame
  simp only [exec_bind, exec_get, hfd, he, exec_pure, exec_log]
  exact ⟨_, rfl⟩

/-- A send of a payload that can be framed answers what writing its frame answered; it counts
the frame when that succeeded, the count passing none of its 32 bits, and the board only gains a
log record after the write. -/
theorem exec_sendFrame_framed {w : Hdlc.FrameBuffer} (hfd : r.fd = some fd)
    (he : Hdlc.encodeFrame Hdlc.maxFrameSize p = .ok w) (h : exec (sendFrame p) r b = (.ok (res, r'), b')) :
    ∃ b₁ rec, (r.writeFrame fd w.data).run.run b = (.ok res, b₁) ∧
      b' = { b₁ with machine := { b₁.machine with journal := b₁.machine.journal.push rec } } ∧
      (res = .ok () ∧ r'.counters.txFrames.toNat = r.counters.txFrames.toNat + 1 ∧
          r' = { r with counters := { r.counters with txFrames := r.counters.txFrames + 1 } } ∨
        res ≠ .ok () ∧ r' = r) := by
  unfold sendFrame at h
  obtain ⟨r₁, _, b₁, h₁, h⟩ := exec_bind_ok h
  simp only [exec_get, Prod.mk.injEq, Except.ok.injEq] at h₁
  obtain ⟨⟨rfl, rfl⟩, rfl⟩ := h₁
  rw [hfd] at h
  dsimp only at h
  rw [he] at h
  obtain ⟨result, r₂, b₂, h₂, h⟩ := exec_bind_ok h
  rw [exec_liftM] at h₂
  rcases hw : (r.writeFrame fd w.data).run.run b with ⟨_ | res₁, b₁⟩ <;> rw [hw] at h₂
  · cases h₂
  simp only [Prod.mk.injEq, Except.ok.injEq] at h₂
  obtain ⟨⟨rfl, rfl⟩, rfl⟩ := h₂
  -- the bookkeeping after the write: the counter on success, and a log record
  rcases res₁ with e | ⟨⟩
  · simp only [exec_bind, exec_pure, exec_log] at h
    obtain ⟨⟨rfl, rfl⟩, rfl⟩ := h
    exact ⟨b₁, _, rfl, rfl, .inr ⟨by simp, rfl⟩⟩
  · obtain ⟨n, r₃, b₃, h₃, h₄⟩ := exec_bind_ok h
    obtain ⟨rfl, hn, hr₃, hb₃⟩ := exec_increment_ok h₃
    subst r₃ b₃
    simp only [exec_bind, exec_pure, exec_log, exec_modify] at h₄
    obtain ⟨⟨rfl, rfl⟩, rfl⟩ := h₄
    exact ⟨b₁, _, rfl, rfl, .inl ⟨rfl, hn, rfl⟩⟩

end Outcome

/-- A send that returned queued the front of its frame on the radio UART, all of it when it
reported success, while the wire took octets from the front of the FIFO; the link keeps its
UART and descriptor, and the table stays. -/
theorem exec_sendFrame {r r' : RadioLink} {b b' : Board} {p : List UInt8} {res : Except ThreadError Unit}
    {fd : Fd} {u : Uart} (hfd : r.fd = some fd) (ht : b.machine.table.lookup fd = .ok r.device)
    (hu : b.machine.uartAt r.device = some u) (h : exec (sendFrame p) r b = (.ok (res, r'), b')) :
    r'.device = r.device ∧ r'.fd = r.fd ∧ b'.machine.table = b.machine.table ∧
      (r.attempt p b res).Valid Hdlc.maxFrameSize ∧
      ∃ u' Y, b'.machine.uartAt r.device = some u' ∧ Y ++ u'.tx = u.tx ++ (r.attempt p b res).octets := by
  have hcut : ∀ buf : Hdlc.FrameBuffer, Hdlc.encodeFrame Hdlc.maxFrameSize p = .ok buf →
      r.sendCut p b = buf.data.length - (r.frameRest fd buf.data b).length := by
    intro buf hbuf
    simp [sendCut, hfd, hbuf]
  cases he : Hdlc.encodeFrame Hdlc.maxFrameSize p with
  | error e =>
    -- a payload that cannot be framed: nothing is written, and the board only logs
    obtain ⟨rec, hrun⟩ := @exec_sendFrame_unframed r b p fd e hfd he
    rw [hrun] at h
    simp only [Prod.mk.injEq, Except.ok.injEq] at h
    obtain ⟨⟨rfl, rfl⟩, rfl⟩ := h
    have hcut0 : r.sendCut p b = 0 := by simp [sendCut, hfd, he]
    refine ⟨rfl, rfl, rfl, ⟨fun h0 => absurd hcut0 h0, fun hs => by cases hs⟩, u, [], ?_, ?_⟩
    · exact (Machine.uartAt_eq_of_devices rfl _).trans hu
    · simp [attempt, Hdlc.Attempt.octets, hcut0]
  | ok buf =>
    obtain ⟨b₁, rec, hw, rfl, hr'⟩ := exec_sendFrame_framed hfd he h
    obtain ⟨htab, hend, u', Y, hu', -, hY⟩ := writeFrame_queues ht hu hw
    obtain ⟨hdata, -⟩ := Hdlc.encodeFrame_ok he
    have hoct : (r.attempt p b res).octets = buf.data.take (buf.data.length - (r.frameRest fd buf.data b).length) := by
      rw [Hdlc.Attempt.octets, attempt, hcut buf he, hdata]
    have hvalid : (r.attempt p b res).Valid Hdlc.maxFrameSize := by
      refine ⟨fun _ => Hdlc.payload_fits_of_encodeFrame he (Nat.le_refl _), fun hs => ?_⟩
      rcases res with e | ⟨⟩
      · cases hs
      · have hrest := hend.rest_of_ok
        show (Hdlc.wire p).length ≤ r.sendCut p b
        rw [hcut buf he, hrest, hdata]
        simp
    have hlink : r'.device = r.device ∧ r'.fd = r.fd := by
      rcases hr' with ⟨-, -, rfl⟩ | ⟨-, rfl⟩ <;> exact ⟨rfl, rfl⟩
    exact ⟨hlink.1, hlink.2, htab, hvalid, u', Y, (Machine.uartAt_eq_of_devices rfl _).trans hu', by rw [hoct]; exact hY⟩

/-- What a send does, by how it starts. A link that is not up answers `invalidState` and touches
nothing. A payload whose frame does not fit the largest frame is answered `noBufs`, and the board
only gains a log record. Otherwise, whatever line endings the radio UART had, the send queues a
front of the frame on it octet for octet, no carriage return added before a newline, while the
wire takes octets from the front of the FIFO, and it leaves the UART expanding newlines again:
the whole frame, counted once more without the count passing its 32 bits, when the send
succeeds, and a proper front of it, with the link as it was, when the send fails, for lack of
room, the one other answer. -/
theorem sendFrame_postcondition (p : List UInt8) (r : RadioLink) (b : Board) :
    (r.fd = none → exec (sendFrame p) r b = (.ok (.error .invalidState, r), b)) ∧
    (∀ fd, r.fd = some fd → Hdlc.encodeFrame Hdlc.maxFrameSize p = .error .noBufs →
      ∃ rec, exec (sendFrame p) r b =
        (.ok (.error .noBufs, r), { b with machine := { b.machine with journal := b.machine.journal.push rec } })) ∧
    ∀ fd u w res r' b', r.fd = some fd → b.machine.table.lookup fd = .ok r.device →
      b.machine.uartAt r.device = some u → Hdlc.encodeFrame Hdlc.maxFrameSize p = .ok w →
      exec (sendFrame p) r b = (.ok (res, r'), b') →
      ∃ u' Y k, b'.machine.uartAt r.device = some u' ∧ u'.lineEndings = .crLf ∧
        Y ++ u'.tx = u.tx ++ w.data.take k ∧
        (res = .ok () ∧ k = w.data.length ∧ r'.counters.txFrames.toNat = r.counters.txFrames.toNat + 1 ∧
            r' = { r with counters := { r.counters with txFrames := r.counters.txFrames + 1 } } ∨
          res = .error .failed ∧ k < w.data.length ∧ r' = r) := by
  refine ⟨exec_sendFrame_unbound, fun fd hfd he => exec_sendFrame_unframed hfd he, ?_⟩
  intro fd u w res r' b' hfd ht hu he h
  obtain ⟨b₁, rec, hw, rfl, hr'⟩ := exec_sendFrame_framed hfd he h
  obtain ⟨-, hend, u', Y, hu', hcr, hY⟩ := writeFrame_queues ht hu hw
  -- a frame is never empty, so a rest that is left makes the front proper
  have hlen : 0 < w.data.length := by
    have := Hdlc.length_wire p
    rw [(Hdlc.encodeFrame_ok he).1]
    omega
  refine ⟨u', Y, w.data.length - (r.frameRest fd w.data b).length,
    (Machine.uartAt_eq_of_devices rfl _).trans hu', hcr, hY, ?_⟩
  rcases hr' with ⟨rfl, hn, rfl⟩ | ⟨hne, rfl⟩
  · rw [hend.rest_of_ok]
    exact .inl ⟨rfl, by simp, hn, rfl⟩
  · rcases res with e | ⟨⟩
    · obtain ⟨rfl, hrest⟩ := hend.of_error
      have hpos := List.length_pos_iff.2 hrest
      exact .inr ⟨rfl, by omega, rfl⟩
    · exact absurd rfl hne

/-! ## Sends checked by evaluation -/

deriving instance DecidableEq for Hdlc.FrameBuffer
deriving instance DecidableEq for Hdlc.Decoder
deriving instance DecidableEq for RadioLink
deriving instance DecidableEq for Except

/-- A send of a newline right after bring-up, with a FIFO of four: the send fails for lack of
room with a proper front of its frame queued, the newline as it is, and the UART expands
newlines again. -/
theorem newline_send_fails_with_front :
    ∃ r₁ b₁ b' w, exec init (new 2 UartParams.radioLink 256 4 (Span.ofMillis 2000)) (Board.new PlatformParams.standard) =
        (.ok (.ok (), r₁), b₁) ∧
      Hdlc.encodeFrame Hdlc.maxFrameSize [0x0A] = .ok w ∧
      exec (sendFrame [0x0A]) r₁ b₁ = (.ok (.error .failed, r₁), b') ∧
      ∃ u' Y k, b'.machine.uartAt 2 = some u' ∧ u'.lineEndings = .crLf ∧ Y ++ u'.tx = w.data.take k ∧
        k < w.data.length := by
  let r₀ := new 2 UartParams.radioLink 256 4 (Span.ofMillis 2000)
  let b₀ := Board.new PlatformParams.standard
  let r₁ : RadioLink := { r₀ with fd := some ⟨3, by decide⟩ }
  let b₁ := (exec init r₀ b₀).2
  let b₂ := (exec (sendFrame [0x0A]) r₁ b₁).2
  have hinit : exec init r₀ b₀ = (.ok (.ok (), r₁), b₁) := rfl
  obtain ⟨w, he⟩ : ∃ w, Hdlc.encodeFrame Hdlc.maxFrameSize [0x0A] = .ok w := ⟨_, rfl⟩
  have hsend : exec (sendFrame [0x0A]) r₁ b₁ = (.ok (.error .failed, r₁), b₂) := by
    have h : (exec (sendFrame [0x0A]) r₁ b₁).1 = .ok (.error .failed, r₁) := by decide +kernel
    rw [← h]
  have ht : b₁.machine.table.lookup ⟨3, by decide⟩ = .ok r₁.device := by decide +kernel
  obtain ⟨u, hu⟩ : ∃ u, b₁.machine.uartAt r₁.device = some u := ⟨_, rfl⟩
  have htx : u.tx = [] := by
    have h : (b₁.machine.uartAt r₁.device).map Uart.tx = some [] := by decide +kernel
    rw [hu] at h
    exact Option.some.inj h
  obtain ⟨u', Y, k, hu', hcr, hY, hend⟩ :=
    (sendFrame_postcondition [0x0A] r₁ b₁).2.2 ⟨3, by decide⟩ u w (.error .failed) r₁ b₂ rfl ht hu he hsend
  rcases hend with ⟨hok, -⟩ | ⟨-, hk, -⟩
  · cases hok
  · refine ⟨r₁, b₁, b₂, w, hinit, he, hsend, u', Y, k, hu', hcr, ?_, hk⟩
    rwa [htx, List.nil_append] at hY

end RadioLink

end ThreadPlatform
