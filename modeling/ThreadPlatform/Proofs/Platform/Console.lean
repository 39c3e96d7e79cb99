import ThreadPlatform.Proofs.Platform.Passes
/-!
# The console port's reads and sends

The console port reads at most `ConsolePort.readSize` octets a pass and writes through a loop
that waits for room. This module says what both do to the console's UART.

* `ConsolePort.read_takes_front`: a pass that finds the descriptor readable takes nothing if an
  interruption is pending, and otherwise the front `readSize` octets of the ring, if it holds
  any. A readable descriptor does not promise octets.
* `ConsolePort.feed_process`: every normal run of the console's read is a `Uart.Feed` step of
  the console's UART that handed out its slice, non-empty and at most `readSize` long.
* `ConsolePort.exec_send_ok`: a send counts itself once when it wrote all of its octets and
  changes nothing else of the port; on the board it only writes and waits, so it takes nothing
  from any receive ring (`Board.KeepsGain`), and of the board it changes the machine only
  (`ConsolePort.exec_send_board`). Both frame facts of the write loop come from one induction
  over it, for any property its steps have and sequencing keeps (`ConsolePort.Loop.writeOut`).
-/

namespace ThreadPlatform

open Board

namespace Uart

/-- An interruption pending on the line fails the read, is consumed, and takes nothing. -/
theorem read_interrupted {u : Uart} (h : u.interrupted = true) (len : Nat) :
    u.read len = (.error (.error .interrupted), { u with interrupted := false }) := by
  simp [read, check, h]

/-- On a sound line with its driver installed, a read takes the front of the ring, or would
block on an empty one. -/
theorem read_ready {u : Uart} (hi : u.interrupted = false) (hf : u.fault = false) (hin : u.installed = true)
    (len : Nat) :
    u.read len = if u.rx = [] then (.error .wouldBlock, u) else (.ok (u.rx.take len), { u with rx := u.rx.drop len }) := by
  by_cases hrx : u.rx = []
  · simp [read, check, hi, hf, hin, hrx]
  · simp [read, check, hi, hf, hin, hrx, List.isEmpty_iff]

/-- A read that failed did no more than its line check. -/
theorem read_error {u : Uart} {len : Nat} {e : IoFailure DeviceError} (h : (u.read len).1 = .error e) :
    (u.read len).2 = u.check.2 := by
  unfold read at h ⊢
  rcases hc : u.check with ⟨e' | ⟨⟩, u₁⟩
  · rfl
  · rw [hc] at h
    dsimp only at h ⊢
    by_cases hrx : u₁.rx.isEmpty = true
    · simp only [hrx, if_true]
    · simp only [hrx, Bool.false_eq_true, if_false] at h
      cases h

/-- A read that succeeded found the ring non-empty and took its front. -/
theorem read_ok_fst {u : Uart} {len : Nat} {bs : List UInt8} (h : (u.read len).1 = .ok bs) :
    u.rx ≠ [] ∧ bs = u.rx.take len := by
  unfold read at h
  rcases hc : u.check with ⟨e' | ⟨⟩, u₁⟩
  · rw [hc] at h
    cases h
  · -- a passed check changes nothing
    have hu₁ : u₁ = u := by
      have hok := @check_ok u
      rw [hc] at hok
      exact hok rfl
    subst hu₁
    rw [hc] at h
    dsimp only at h
    by_cases hrx : u₁.rx.isEmpty = true
    · simp only [hrx, if_true] at h
      cases h
    · simp only [hrx, Bool.false_eq_true, if_false, Except.ok.injEq] at h
      exact ⟨by simpa [List.isEmpty_iff] using hrx, h.symm⟩

end Uart

namespace ConsolePort

section Read
variable {ctx : PollContext} {c c' : ConsolePort} {b b' : Board} {o : Option (List UInt8)} {f : Fd}

/-- A pass that does not find the descriptor readable reads nothing. -/
theorem exec_process_unreadable (hfd : c.fd = some f) (hr : ctx.isReadable f = false)
    (h : exec (process ctx) c b = (.ok (o, c'), b')) : o = none ∧ c' = c ∧ b' = b := by
  unfold process at h
  obtain ⟨_, c₁, b₁, h₁, h⟩ := exec_bind_ok h
  simp only [exec_get, Prod.mk.injEq, Except.ok.injEq] at h₁
  obtain ⟨⟨rfl, rfl⟩, rfl⟩ := h₁
  simp only [hfd, hr, Bool.not_false, if_true, exec_pure, Prod.mk.injEq, Except.ok.injEq] at h
  obtain ⟨⟨rfl, rfl⟩, rfl⟩ := h
  exact ⟨rfl, rfl, rfl⟩

/-- A pass that finds the descriptor readable reads the console's UART once: the slice it hands
out is what the read took, and a read that would block or was interrupted hands out nothing. -/
theorem exec_process_readable {id : DeviceId} {u : Uart} (hfd : c.fd = some f)
    (hslot : b.machine.table.slot f = some id) (hu : b.machine.uartAt id = some u)
    (hr : ctx.isReadable f = true) (h : exec (process ctx) c b = (.ok (o, c'), b')) :
    c' = c ∧ b' = { b with machine := { b.machine with
        devices := b.machine.devices.modify id fun _ => .uart (u.read readSize).2 } } ∧
      ((∃ bs, (u.read readSize).1 = .ok bs ∧ o = some bs) ∨
        (o = none ∧ ((u.read readSize).1 = .error .wouldBlock ∨
          (u.read readSize).1 = .error (.error .interrupted)))) := by
  have hlookup : b.machine.table.lookup f = .ok id := by
    simp [DescriptorTable.lookup, hslot]
  unfold process at h
  obtain ⟨_, c₁, b₁, h₁, h⟩ := exec_bind_ok h
  simp only [exec_get, Prod.mk.injEq, Except.ok.injEq] at h₁
  obtain ⟨⟨rfl, rfl⟩, rfl⟩ := h₁
  simp only [hfd, hr, Bool.not_true, Bool.false_eq_true, if_false] at h
  obtain ⟨res, c₂, b₂, h₂, h⟩ := exec_bind_ok h
  simp only [exec_onMachine, Machine.run_readFd_uart hlookup hu, Prod.mk.injEq, Except.ok.injEq] at h₂
  obtain ⟨⟨rfl, rfl⟩, rfl⟩ := h₂
  rcases hread : (u.read readSize).1 with e | bs
  · rw [hread] at h
    rcases e with _ | e
    · simp only [Except.map, Except.mapError, IoFailure.map, exec_pure, Prod.mk.injEq, Except.ok.injEq] at h
      obtain ⟨⟨rfl, rfl⟩, rfl⟩ := h
      exact ⟨rfl, rfl, .inr ⟨rfl, .inl rfl⟩⟩
    · -- a line failure other than an interruption stops the platform
      simp only [Except.map, Except.mapError, IoFailure.map] at h
      split at h
      · rename_i hint
        simp only [exec_pure, Prod.mk.injEq, Except.ok.injEq] at h
        obtain ⟨⟨rfl, rfl⟩, rfl⟩ := h
        have he : e = .interrupted := by
          cases e
          · rfl
          all_goals cases hint
        exact ⟨rfl, rfl, .inr ⟨rfl, .inr (he ▸ rfl)⟩⟩
      · exact absurd h (exec_fatal_ne _ _)
  · rw [hread] at h
    simp only [Except.map, Except.mapError] at h
    -- the slice is the front of a non-empty ring, at most a read's worth, so the padding is empty
    obtain ⟨hne, rfl⟩ := Uart.read_ok_fst hread
    have hlen : (u.rx.take readSize).length = min u.rx.length readSize := by
      rw [List.length_take, Nat.min_comm]
    have hpos : 0 < min u.rx.length readSize := by
      have := List.length_pos_iff.2 hne
      simp only [readSize]
      omega
    rw [hlen, Nat.min_eq_left (Nat.min_le_right _ _), if_neg (Nat.pos_iff_ne_zero.1 hpos), ← hlen,
      Nat.sub_self, List.replicate_zero, List.append_nil, List.take_length] at h
    simp only [exec_pure, Prod.mk.injEq, Except.ok.injEq] at h
    obtain ⟨⟨rfl, rfl⟩, rfl⟩ := h
    exact ⟨rfl, rfl, .inl ⟨_, rfl, rfl⟩⟩

/-- A pass that finds the console's descriptor readable takes nothing if an interruption is
pending, and otherwise the front `readSize` octets of the ring, if it holds any. A readable
descriptor does not promise octets: an interrupted wait leaves every descriptor of interest
marked. -/
theorem read_takes_front {id : DeviceId} {u : Uart} (hfd : c.fd = some f)
    (hslot : b.machine.table.slot f = some id) (hu : b.machine.uartAt id = some u)
    (hr : ctx.isReadable f = true) (h : exec (process ctx) c b = (.ok (o, c'), b')) :
    ∃ u', b'.machine.uartAt id = some u' ∧
      (u.interrupted = true → o = none ∧ u'.rx = u.rx) ∧
      (u.interrupted = false →
        o = (if u.rx = [] then none else some (u.rx.take readSize)) ∧ u'.rx = u.rx.drop readSize) := by
  obtain ⟨-, rfl, ho⟩ := exec_process_readable hfd hslot hu hr h
  refine ⟨_, Machine.WireFrame.uartAt_modify_self hu _, fun hi => ?_, fun hi => ?_⟩
  · rw [Uart.read_interrupted hi] at ho ⊢
    rcases ho with ⟨bs, hbs, -⟩ | ⟨rfl, -⟩
    · cases hbs
    · exact ⟨rfl, rfl⟩
  · -- a fault or a missing driver would have stopped the platform
    cases hf : u.fault
    · cases hin : u.installed
      · simp [Uart.read, Uart.check, hi, hf, hin] at ho
      · rw [Uart.read_ready hi hf hin] at ho ⊢
        by_cases hrx : u.rx = []
        · simp only [if_pos hrx] at ho ⊢
          rcases ho with ⟨bs, hbs, -⟩ | ⟨rfl, -⟩
          · cases hbs
          · exact ⟨rfl, by rw [hrx, List.drop_nil]⟩
        · simp only [if_neg hrx] at ho ⊢
          rcases ho with ⟨bs, hbs, rfl⟩ | ⟨-, hbs | hbs⟩
          · cases hbs
            exact ⟨rfl, trivial⟩
          · cases hbs
          · cases hbs
    · simp [Uart.read, Uart.check, hi, hf] at ho

/-- Every normal run of the console's read on an open descriptor that names the console's UART
is a feed step of that UART which handed out the slice read, if any: a non-empty one of at most
`readSize` octets. -/
theorem feed_process {u : Uart} (hfd : c.fd = some f) (hslot : b.machine.table.slot f = some c.device)
    (hu : b.machine.uartAt c.device = some u) (h : exec (process ctx) c b = (.ok (o, c'), b')) :
    c' = c ∧ b'.machine.table = b.machine.table ∧
      ∃ u', b'.machine.uartAt c.device = some u' ∧ Uart.Feed u u' [] o.toList ∧
        ∀ bs ∈ o, bs ≠ [] ∧ bs.length ≤ readSize := by
  cases hr : ctx.isReadable f
  · obtain ⟨rfl, rfl, rfl⟩ := exec_process_unreadable hfd hr h
    exact ⟨rfl, rfl, u, hu, .gains (.wire (.refl u)), by simp⟩
  · obtain ⟨rfl, rfl, ho⟩ := exec_process_readable hfd hslot hu hr h
    refine ⟨rfl, rfl, _, Machine.WireFrame.uartAt_modify_self hu _, ?_⟩
    rcases ho with ⟨bs, hbs, rfl⟩ | ⟨rfl, hbs⟩
    · obtain ⟨hne, rfl⟩ := Uart.read_ok_fst hbs
      refine ⟨.read readSize (Prod.ext hbs rfl), fun bs hbs' => ?_⟩
      cases hbs'
      exact ⟨by simp [hne, readSize], List.length_take_le _ _⟩
    · refine ⟨?_, by simp⟩
      rcases hbs with hbs | hbs <;>
      · rw [Uart.read_error hbs]
        exact .gains (.check u)

end Read

end ConsolePort

namespace Board

/-- Board work that, run from any board, is a gain frame of the UART `id`. -/
def KeepsGain {α : Type} (id : DeviceId) (act : BoardM α) : Prop :=
  ∀ b, ∃ X, Machine.GainFrame id X b.machine (act.run.run b).2.machine

namespace KeepsGain
variable {id : DeviceId} {α β : Type}

theorem bind {x : BoardM α} {f : α → BoardM β} (hx : KeepsGain id x) (hf : ∀ a, KeepsGain id (f a)) :
    KeepsGain id (x >>= f) := by
  intro b
  obtain ⟨X, hX⟩ := hx b
  rw [run_bind]
  split
  · rename_i a b' hrun
    rw [hrun] at hX
    obtain ⟨Y, hY⟩ := hf a b'
    exact ⟨X ++ Y, hX.trans hY⟩
  · rename_i e b' hrun
    rw [hrun] at hX
    exact ⟨X, hX⟩

theorem pure (a : α) : KeepsGain id (Pure.pure a : BoardM α) :=
  fun b => ⟨[], .refl id b.machine⟩

theorem of_keepsWire {act : BoardM α} (h : KeepsWire id act) : KeepsGain id act := fun b =>
  let ⟨X, hX⟩ := h b
  ⟨X, .of_wireFrame hX⟩

theorem onMachine {act : MachineM α} (h : Machine.KeepsGain id act) : KeepsGain id (Board.onMachine act) :=
  fun b => h b.machine

end KeepsGain

/-- Board work that changes nothing of the board but its machine. -/
def OnlyMachine {α : Type} (act : BoardM α) : Prop :=
  ∀ b, ∃ m, (act.run.run b).2 = { b with machine := m }

namespace OnlyMachine
variable {α β : Type}

theorem bind {x : BoardM α} {f : α → BoardM β} (hx : OnlyMachine x) (hf : ∀ a, OnlyMachine (f a)) :
    OnlyMachine (x >>= f) := by
  intro b
  obtain ⟨m, hm⟩ := hx b
  rw [run_bind]
  split
  · rename_i a b' hrun
    rw [hrun] at hm
    have hb' : b' = { b with machine := m } := hm
    subst hb'
    exact hf a _
  · rename_i e b' hrun
    rw [hrun] at hm
    exact ⟨m, hm⟩

theorem pure (a : α) : OnlyMachine (Pure.pure a : BoardM α) := fun b => ⟨b.machine, rfl⟩

theorem onMachine (act : MachineM α) : OnlyMachine (Board.onMachine act) := fun _ => ⟨_, rfl⟩

theorem now : OnlyMachine Board.now := fun b => ⟨b.machine, rfl⟩

end OnlyMachine

end Board

namespace ConsolePort

section Send
variable {id : DeviceId}

/-- A property of board work that holds of the steps the console's write loop is made of (reads of
the clock, writes, waits and log records) and that sequencing keeps; the write loop then has it
too (`Loop.writeOut`). -/
structure Loop (Q : ∀ {α : Type}, BoardM α → Prop) : Prop where
  pure : ∀ {α : Type} (a : α), Q (Pure.pure a : BoardM α)
  bind : ∀ {α β : Type} {x : BoardM α} {f : α → BoardM β}, Q x → (∀ a, Q (f a)) → Q (x >>= f)
  now : Q Board.now
  writeFd : ∀ fd data, Q (Board.onMachine (Machine.writeFd fd data))
  select : ∀ ctx, Q (Board.onMachine (Machine.select ctx))
  log : ∀ level text, Q (Board.log level text)

namespace Loop
variable {Q : ∀ {α : Type}, BoardM α → Prop}

theorem waitWritable (hQ : Loop Q) (fd : Fd) (deadline : Nat) : Q (ConsolePort.waitWritable fd deadline) := by
  unfold ConsolePort.waitWritable
  refine hQ.bind hQ.now fun now => ?_
  split
  · exact hQ.pure _
  · exact hQ.bind (hQ.select _) fun r => by split <;> exact hQ.pure _

theorem writeOut (hQ : Loop Q) (fd : Fd) (deadline : Nat) :
    ∀ fuel rest, Q (ConsolePort.writeOut fd deadline fuel rest)
  | 0, rest => hQ.pure rest
  | _ + 1, [] => hQ.pure []
  | fuel + 1, x :: xs => by
    have ih := writeOut hQ fd deadline fuel
    rw [ConsolePort.writeOut]
    refine hQ.bind (hQ.writeFd fd _) fun r => ?_
    -- no room waits and retries, an interruption retries, another failure is logged
    split
    · exact hQ.bind (hQ.waitWritable fd deadline) fun w => by
        split
        · exact ih _
        · exact hQ.pure _
    · exact hQ.bind (hQ.waitWritable fd deadline) fun w => by
        split
        · exact ih _
        · exact hQ.pure _
    · exact ih _
    · split
      · exact ih _
      · exact hQ.bind (hQ.log _ _) fun _ => hQ.pure _

end Loop

/-- The console's write loop only writes and waits: it takes nothing from any receive ring. -/
theorem keepsGain_writeOut (fd : Fd) (deadline : Nat) :
    ∀ fuel rest, Board.KeepsGain id (writeOut fd deadline fuel rest) :=
  Loop.writeOut (Q := Board.KeepsGain id)
    ⟨.pure, .bind, .of_keepsWire .now, fun fd _ => .onMachine (Machine.keepsGain_writeFd fd _),
      fun _ => .onMachine (.of_keepsWire (Machine.keepsWire_select _)),
      fun _ _ => .onMachine (.of_keepsWire (Machine.keepsWire_log _ _))⟩ fd deadline

/-- A send changes nothing of the port but its count of completed sends, which a send that
wrote all of its octets raises by one without passing its 32 bits; on the board it only writes
to the console and waits. -/
theorem exec_send_ok {data : List UInt8} {c c' : ConsolePort} {b b' : Board} {r : Except ThreadError Unit}
    (h : exec (send data) c b = (.ok (r, c'), b')) :
    ((r = .ok () ∧ c'.sendsDone.toNat = c.sendsDone.toNat + 1 ∧ c' = { c with sendsDone := c.sendsDone + 1 }) ∨
        (r ≠ .ok () ∧ c' = c)) ∧
      ∀ id, ∃ X, Machine.GainFrame id X b.machine b'.machine := by
  unfold send at h
  obtain ⟨_, c₁, b₁, h₁, hfd⟩ := exec_bind_ok h
  simp only [exec_get, Prod.mk.injEq, Except.ok.injEq] at h₁
  obtain ⟨⟨rfl, rfl⟩, rfl⟩ := h₁
  split at hfd
  · simp only [exec_pure, Prod.mk.injEq, Except.ok.injEq] at hfd
    obtain ⟨⟨rfl, rfl⟩, rfl⟩ := hfd
    exact ⟨.inr ⟨nofun, rfl⟩, fun id => ⟨[], .refl id _⟩⟩
  · rename_i fd _
    obtain ⟨_, c₂, b₂, h₂, hwrite⟩ := exec_bind_ok hfd
    rw [exec_getBoard, Prod.mk.injEq, Except.ok.injEq, Prod.mk.injEq] at h₂
    obtain ⟨⟨rfl, rfl⟩, rfl⟩ := h₂
    obtain ⟨_, c₃, b₃, h₃, hwrite⟩ := exec_bind_ok hwrite
    obtain ⟨rfl, hc₃, hb₃⟩ := exec_deadlineAfter_ok h₃
    subst c₃ b₃
    obtain ⟨rest, c₃, b₃, h₃, hdone⟩ := exec_bind_ok hwrite
    obtain ⟨hrun, rfl⟩ := exec_liftM_ok h₃
    -- the write loop is the only board work of a send
    have hgain : ∀ id, ∃ X, Machine.GainFrame id X b.machine b₃.machine := fun id => by
      obtain ⟨X, hX⟩ := @keepsGain_writeOut id fd _ _ data b
      rw [hrun] at hX
      exact ⟨X, hX⟩
    split at hdone
    · obtain ⟨n, c₄, b₄, h₄, hcount⟩ := exec_bind_ok hdone
      obtain ⟨rfl, hn, hc₄, hb₄⟩ := exec_increment_ok h₄
      subst c₄ b₄
      obtain ⟨_, c₅, b₅, h₅, hret⟩ := exec_bind_ok hcount
      simp only [exec_modify, Prod.mk.injEq, Except.ok.injEq] at h₅
      obtain ⟨⟨-, rfl⟩, rfl⟩ := h₅
      simp only [exec_pure, Prod.mk.injEq, Except.ok.injEq] at hret
      obtain ⟨⟨rfl, rfl⟩, rfl⟩ := hret
      exact ⟨.inl ⟨rfl, hn, rfl⟩, hgain⟩
    · simp only [exec_pure, Prod.mk.injEq, Except.ok.injEq] at hdone
      obtain ⟨⟨rfl, rfl⟩, rfl⟩ := hdone
      exact ⟨.inr ⟨nofun, rfl⟩, hgain⟩

theorem onlyMachine_writeOut (fd : Fd) (deadline : Nat) :
    ∀ fuel rest, Board.OnlyMachine (writeOut fd deadline fuel rest) :=
  Loop.writeOut (Q := Board.OnlyMachine)
    ⟨.pure, .bind, .now, fun _ _ => .onMachine _, fun _ => .onMachine _, fun _ _ => .onMachine _⟩ fd deadline

/-- Of the board, a send changes the machine only. -/
theorem exec_send_board {data : List UInt8} {c c' : ConsolePort} {b b' : Board} {r : Except ThreadError Unit}
    (h : exec (send data) c b = (.ok (r, c'), b')) : ∃ m, b' = { b with machine := m } := by
  unfold send at h
  obtain ⟨_, c₁, b₁, h₁, hfd⟩ := exec_bind_ok h
  simp only [exec_get, Prod.mk.injEq, Except.ok.injEq] at h₁
  obtain ⟨⟨rfl, rfl⟩, rfl⟩ := h₁
  split at hfd
  · simp only [exec_pure, Prod.mk.injEq, Except.ok.injEq] at hfd
    exact ⟨b.machine, hfd.2.symm⟩
  · rename_i fd _
    obtain ⟨_, c₂, b₂, h₂, hwrite⟩ := exec_bind_ok hfd
    rw [exec_getBoard, Prod.mk.injEq, Except.ok.injEq, Prod.mk.injEq] at h₂
    obtain ⟨⟨rfl, rfl⟩, rfl⟩ := h₂
    obtain ⟨_, c₃, b₃, h₃, hwrite⟩ := exec_bind_ok hwrite
    obtain ⟨rfl, hc₃, hb₃⟩ := exec_deadlineAfter_ok h₃
    subst c₃ b₃
    obtain ⟨rest, c₃, b₃, h₃, hdone⟩ := exec_bind_ok hwrite
    obtain ⟨hrun, rfl⟩ := exec_liftM_ok h₃
    obtain ⟨m, hm⟩ := onlyMachine_writeOut fd _ _ data b
    rw [hrun] at hm
    subst hm
    -- after the write loop the send only counts itself
    split at hdone
    · obtain ⟨n, c₄, b₄, h₄, hcount⟩ := exec_bind_ok hdone
      obtain ⟨-, -, -, rfl⟩ := exec_increment_ok h₄
      obtain ⟨_, c₅, b₅, h₅, hret⟩ := exec_bind_ok hcount
      simp only [exec_modify, Prod.mk.injEq, Except.ok.injEq] at h₅
      obtain ⟨-, rfl⟩ := h₅
      simp only [exec_pure, Prod.mk.injEq, Except.ok.injEq] at hret
      exact ⟨m, hret.2.symm⟩
    · simp only [exec_pure, Prod.mk.injEq, Except.ok.injEq] at hdone
      exact ⟨m, hdone.2.symm⟩

end Send

end ConsolePort

namespace Uart

/-- A read between two stretches without reads is one feed step. -/
theorem Feed.between {u₁ u₂ u₃ u₄ : Uart} {X Y : List UInt8} {D : List (List UInt8)} (h₁ : Gains u₁ u₂ X)
    (h : Feed u₂ u₃ [] D) (h₂ : Gains u₃ u₄ Y) : Feed u₁ u₄ (X ++ Y) D := by
  have hfeed := (Feed.gains h₁).trans (h.trans (.gains h₂))
  rwa [List.nil_append, List.nil_append, List.append_nil] at hfeed

end Uart

end ThreadPlatform
