import ThreadPlatform.Proofs.Machine.Frame
import ThreadPlatform.Platform.Radio
/-!
# Running link work

Work on a radio link runs in `StateT RadioLink BoardM`: it reads and changes the
link, works the board's machine, and may end in a fatal condition. `RadioLink.exec`
runs it on a link and a board. Each theorem below is about a run that ended
normally; `exec_bind_ok` takes such a run of a sequence apart into runs of its
parts, so callers never unfold the monad.

The machine calls the link makes have their own run lemmas: installing a UART's
driver, opening a descriptor, and reading through a descriptor that names a
UART (`Machine.run_readFd_uart`), which is a read of that UART's ring
(`Uart.read_rx`). From them, `RadioLink.init_ok` says what a bring-up that
succeeded leaves behind.
-/

namespace ThreadPlatform

namespace Uart

theorem check_rx (u : Uart) : u.check.2.rx = u.rx := by
  unfold check
  repeat' split
  all_goals rfl

theorem check_ok {u : Uart} (h : u.check.1 = .ok ()) : u.check.2 = u := by
  unfold check at h ⊢
  repeat' split
  all_goals simp_all

/-- A read hands out the front of the receive ring and keeps the rest; a failed read keeps the
whole ring. -/
theorem read_rx (u : Uart) (len : Nat) :
    ((u.read len).1 = .ok (u.rx.take len) ∧ (u.read len).2.rx = u.rx.drop len) ∨
      ((∃ e, (u.read len).1 = .error e) ∧ (u.read len).2.rx = u.rx) := by
  unfold read
  rcases hc : u.check with ⟨e | ⟨⟩, u₁⟩
  · right
    have hrx := check_rx u
    rw [hc] at hrx
    exact ⟨⟨_, rfl⟩, hrx⟩
  · have hu₁ : u₁ = u := by
      have hok := @check_ok u
      rw [hc] at hok
      exact hok rfl
    subst hu₁
    by_cases he : u₁.rx.isEmpty = true
    · right
      simp [he]
    · left
      simp [he]

theorem install_eq_ok {u u' : Uart} {p : UartParams} {rxSize txSize : Nat}
    (h : u.install p rxSize txSize = .ok u') :
    u' = { u with
      installed := true, params := some p, rx := [], rxCapacity := rxSize, tx := [],
      txCapacity := txSize, lineEndings := p.lineEndings, fault := false, interrupted := false } := by
  unfold install at h
  split at h
  · cases h
  · cases h
    rfl

end Uart


namespace Machine

/-- Installing the driver of a UART replaces the UART by its installed form. -/
theorem run_install_uart {m : Machine} {id : DeviceId} {u : Uart} {p : UartParams} {rxSize txSize : Nat}
    (hu : m.uartAt id = some u) (h : ((install id p rxSize txSize).run m).1 = .ok ()) :
    ∃ u', u.install p rxSize txSize = .ok u' ∧
      ((install id p rxSize txSize).run m).2 = { m with devices := m.devices.modify id fun _ => .uart u' } := by
  have hd := uartAt_eq_some.1 hu
  cases hi : u.install p rxSize txSize with
  | error e => simp [install, uart?, device?, hd, hi] at h
  | ok u' =>
    refine ⟨u', rfl, ?_⟩
    simp [install, uart?, device?, setDevice, hd, hi]
    rfl

/-- Opening a descriptor for a device names it at a descriptor that was free. -/
theorem run_openFd {m : Machine} {id : DeviceId} {fd : Fd} (h : ((openFd id).run m).1 = .ok fd) :
    ((openFd id).run m).2.devices = m.devices ∧ ((openFd id).run m).2.table.lookup fd = .ok id := by
  unfold openFd at h ⊢
  cases hp : m.table.place id with
  | error e => simp [hp] at h
  | ok ft =>
    obtain ⟨g, t⟩ := ft
    simp only [StateT.run_modifyGet, hp] at h ⊢
    obtain rfl : g = fd := by cases h; rfl
    exact ⟨rfl, (DescriptorTable.place_fresh _ _ _ _ hp).2⟩

/-- A read through a descriptor that names a UART is a read of that UART. -/
theorem run_readFd_uart {m : Machine} {fd : Fd} {id : DeviceId} {u : Uart} (ht : m.table.lookup fd = .ok id)
    (hu : m.uartAt id = some u) (len : Nat) :
    (readFd fd len).run m =
      (((u.read len).1.map fun bs => (⟨bs.length, bs⟩ : ReadOut)).mapError (IoFailure.map .device),
        { m with devices := m.devices.modify id fun _ => .uart (u.read len).2 }) := by
  have hd := uartAt_eq_some.1 hu
  simp [readFd, deviceRead, device?, setDevice, ht, hd]
  rfl

end Machine

namespace UInt32

/-- One more than a value below the largest does not wrap. -/
theorem toNat_add_one_of_lt {n : UInt32} (h : n < 4294967295) : (n + 1).toNat = n.toNat + 1 := by
  have hn : n.toNat < 4294967295 := UInt32.lt_iff_toNat_lt.1 h
  rw [UInt32.toNat_add, UInt32.toNat_one, Nat.mod_eq_of_lt (by omega)]

/-- A value that is not below the largest is the largest. -/
theorem eq_of_not_lt_max {n : UInt32} (h : ¬n < 4294967295) : n = 4294967295 := by
  have hn : ¬n.toNat < 4294967295 := fun h' => h (UInt32.lt_iff_toNat_lt.2 h')
  have hlt := n.toNat_lt
  apply UInt32.toNat_inj.1
  simp only [UInt32.reduceToNat]
  omega

end UInt32

namespace Board

/-- An increment leaves the board alone: one more, or, at the counter's largest value, the add
overflow panic. -/
theorem run_increment (site : String) (n : UInt32) (b : Board) :
    (increment site n).run.run b =
      (if n < 4294967295 then .ok (n + 1) else .error ⟨addOverflow, some site⟩, b) := by
  unfold increment
  by_cases hlt : n < 4294967295
  · simp only [hlt, if_true]
    rfl
  · simp only [hlt, if_false]
    rfl

/-- An increment that ended normally stepped its counter by one without passing its 32 bits. -/
theorem run_increment_ok {site : String} {n m : UInt32} {b b' : Board}
    (h : (increment site n).run.run b = (.ok m, b')) : m = n + 1 ∧ m.toNat = n.toNat + 1 ∧ b' = b := by
  rw [run_increment] at h
  by_cases hlt : n < 4294967295
  · rw [if_pos hlt] at h
    obtain ⟨hm, rfl⟩ := Prod.mk.inj h
    cases hm
    exact ⟨rfl, UInt32.toNat_add_one_of_lt hlt, rfl⟩
  · rw [if_neg hlt] at h
    cases h

end Board

namespace RadioLink

/-- Link work run on link `r` and board `b`: its answer and the link after it, or the fatal
condition it ended in, and the board after it. -/
def exec {α : Type} (act : StateT RadioLink BoardM α) (r : RadioLink) (b : Board) :
    Except Fatal (α × RadioLink) × Board :=
  (act.run r).run.run b

section Exec
variable {α β : Type} {r r' r'' : RadioLink} {b b' b'' : Board}

theorem exec_bind (x : StateT RadioLink BoardM α) (f : α → StateT RadioLink BoardM β) (r : RadioLink)
    (b : Board) :
    exec (x >>= f) r b =
      match exec x r b with
      | (.ok (a, r'), b') => exec (f a) r' b'
      | (.error e, b') => (.error e, b') := by
  unfold exec
  simp only [StateT.run_bind, ExceptT.run_bind]
  rcases (x.run r).run.run b with ⟨_ | ⟨a, r'⟩, b'⟩ <;> rfl

/-- A sequence that ended normally ended normally in both its parts. -/
theorem exec_bind_ok {x : StateT RadioLink BoardM α} {f : α → StateT RadioLink BoardM β} {c : β}
    (h : exec (x >>= f) r b = (.ok (c, r''), b'')) :
    ∃ a r' b', exec x r b = (.ok (a, r'), b') ∧ exec (f a) r' b' = (.ok (c, r''), b'') := by
  rw [exec_bind] at h
  split at h
  · rename_i a r' b' hx
    exact ⟨a, r', b', hx, h⟩
  · cases h

@[simp] theorem exec_pure (a : α) : exec (pure a) r b = (.ok (a, r), b) := rfl

@[simp] theorem exec_get : exec get r b = (.ok (r, r), b) := rfl

@[simp] theorem exec_set (r' : RadioLink) : exec (set r') r b = (.ok ((), r'), b) := rfl

@[simp] theorem exec_modify (f : RadioLink → RadioLink) : exec (modify f) r b = (.ok ((), f r), b) := rfl

@[simp] theorem exec_modifyGet (f : RadioLink → α × RadioLink) :
    exec (modifyGet f) r b = (.ok ((f r).1, (f r).2), b) := rfl

@[simp] theorem exec_onMachine (act : MachineM α) :
    exec (liftM (Board.onMachine act)) r b = (.ok ((act.run b.machine).1, r), { b with machine := (act.run b.machine).2 }) :=
  rfl

/-- Board work run inside link work leaves the link alone. -/
theorem exec_liftM (x : BoardM α) :
    exec (liftM x) r b =
      match x.run.run b with
      | (.ok a, b') => (.ok (a, r), b')
      | (.error e, b') => (.error e, b') := by
  unfold exec
  simp only [liftM, monadLift, MonadLift.monadLift, StateT.run_lift, ExceptT.run_bind, StateT.run_bind]
  rcases x.run.run b with ⟨_ | a, b'⟩ <;> rfl

@[simp] theorem exec_fatal_fst (msg : String) : (exec (Board.fatal msg : BoardM α) r b).1 = .error ⟨msg, none⟩ :=
  rfl

@[simp] theorem exec_log (level : Level) (text : String) :
    exec (liftM (Board.log level text)) r b =
      (.ok ((), r), { b with machine := { b.machine with journal := b.machine.journal.push ⟨level, text⟩ } }) :=
  rfl

/-- A counter's increment inside link work leaves the link and the board alone: one more, or the
add overflow panic. -/
@[simp] theorem exec_increment (site : String) (n : UInt32) :
    exec (liftM (Board.increment site n)) r b =
      (if n < 4294967295 then .ok (n + 1, r) else .error ⟨addOverflow, some site⟩, b) := by
  rw [exec_liftM, Board.run_increment]
  by_cases hlt : n < 4294967295
  · simp only [hlt, if_true]
  · simp only [hlt, if_false]

/-- An increment inside link work that ended normally stepped its counter by one without
passing its 32 bits. -/
theorem exec_increment_ok {site : String} {n m : UInt32}
    (h : exec (liftM (Board.increment site n)) r b = (.ok (m, r'), b')) :
    m = n + 1 ∧ m.toNat = n.toNat + 1 ∧ r' = r ∧ b' = b := by
  rw [exec_liftM] at h
  rcases hrun : (Board.increment site n).run.run b with ⟨_ | m', b''⟩ <;> rw [hrun] at h
  · cases h
  · simp only [Prod.mk.injEq, Except.ok.injEq] at h
    obtain ⟨⟨rfl, rfl⟩, rfl⟩ := h
    obtain ⟨hm, hnat, rfl⟩ := Board.run_increment_ok hrun
    exact ⟨hm, hnat, rfl, rfl⟩

/-- A fatal condition never ends link work normally. -/
theorem exec_fatal_ne (msg : String) (a : α) : exec (Board.fatal msg) r b ≠ (.ok (a, r'), b') := by
  intro h
  have hfst := congrArg Prod.fst h
  rw [exec_fatal_fst] at hfst
  cases hfst

end Exec

/-- A bring-up that succeeded installed the driver of the link's UART and opened a descriptor
naming it; the link has an empty queue and a decoder hunting for a flag. -/
theorem init_ok {r r' : RadioLink} {b b' : Board} {u : Uart} (hu : b.machine.uartAt r.device = some u)
    (h : exec init r b = (.ok (.ok (), r'), b')) :
    ∃ fd u', r' = { r with fd := some fd, decoder := r.decoder.reset, frames := [] } ∧
      u.install r.params r.rxSize r.txSize = .ok u' ∧ b'.machine.table.lookup fd = .ok r.device ∧
      b'.machine.uartAt r.device = some u' := by
  unfold init at h
  obtain ⟨r₁, _, b₁, h₁, h⟩ := exec_bind_ok h
  simp only [exec_get, Prod.mk.injEq, Except.ok.injEq] at h₁
  obtain ⟨⟨rfl, rfl⟩, rfl⟩ := h₁
  dsimp only at h
  obtain ⟨res, r₂, b₂, h₂, h⟩ := exec_bind_ok h
  simp only [exec_onMachine, Prod.mk.injEq, Except.ok.injEq] at h₂
  obtain ⟨⟨rfl, rfl⟩, rfl⟩ := h₂
  split at h
  · simp at h
  · rename_i hinst
    obtain ⟨u', hu', hm₁⟩ := Machine.run_install_uart hu hinst
    obtain ⟨res, r₃, b₃, h₃, h⟩ := exec_bind_ok h
    simp only [exec_onMachine, Prod.mk.injEq, Except.ok.injEq] at h₃
    obtain ⟨⟨rfl, rfl⟩, rfl⟩ := h₃
    split at h
    · obtain ⟨_, _, _, _, h⟩ := exec_bind_ok h
      simp at h
    · rename_i fd hfd
      obtain ⟨hdev, hlook⟩ := Machine.run_openFd hfd
      obtain ⟨_, r₄, b₄, h₄, h⟩ := exec_bind_ok h
      simp only [exec_set, Prod.mk.injEq, Except.ok.injEq] at h₄
      obtain ⟨⟨-, rfl⟩, rfl⟩ := h₄
      obtain ⟨_, r₅, b₅, h₅, h⟩ := exec_bind_ok h
      simp only [exec_log, Prod.mk.injEq, Except.ok.injEq] at h₅
      obtain ⟨⟨-, rfl⟩, rfl⟩ := h₅
      simp only [exec_pure, Prod.mk.injEq, Except.ok.injEq] at h
      obtain ⟨⟨-, rfl⟩, rfl⟩ := h
      refine ⟨fd, u', rfl, hu', hlook, ?_⟩
      refine (Machine.uartAt_eq_of_devices hdev _).trans ?_
      rw [hm₁]
      exact Machine.WireFrame.uartAt_modify_self hu u'

end RadioLink

end ThreadPlatform
