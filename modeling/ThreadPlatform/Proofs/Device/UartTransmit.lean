import ThreadPlatform.Proofs.Radio.Transmit

/-!
# The transmit FIFO of a UART

A write takes the longest front of its data whose expansion fits the free slots of the FIFO
(`translate`: a `\n` goes out as `\r\n` under `LineEndings.crLf`), queues that expansion whole,
and would block only when it can take nothing of data that is not empty (`write_passing`,
`fill_fits`, `fill_maximal`). A writable device always takes a byte, whatever its line endings
(`fill_pos_of_writable`).

Every call on the device, from the mainloop or from the wire, is a `Call`. All of them keep both
queues within the sizes the driver was installed with (`Bounded.run`), so the free slots are
never computed from a queue longer than its size. And the FIFO loses nothing and makes nothing
up: what left it, drained by the wire or discarded when the driver went, followed by what is still
queued, is what it held and then what the writes queued, in order (`conserve_run`).
`transmit_fifo_law` collects these. An uninstall discards what was queued, so the wire does not
see every byte a write queued (`uninstall_drops_queued`).
-/

namespace ThreadPlatform

namespace Uart

/-! ## Expansion -/

/-- What `data` goes out as: every byte expanded, a `\n` as `\r\n` under `crLf`. -/
def translate (crLf : Bool) (data : List UInt8) : List UInt8 := data.flatMap (expand crLf)

@[simp] theorem translate_nil (crLf : Bool) : translate crLf [] = [] := rfl

@[simp] theorem translate_cons (crLf : Bool) (b : UInt8) (data : List UInt8) :
    translate crLf (b :: data) = expand crLf b ++ translate crLf data := rfl

/-- A byte takes one slot, or two for a `\n` under `crLf`. -/
theorem expand_length_le (crLf : Bool) (b : UInt8) :
    (expand crLf b).length ≤ if crLf then 2 else 1 := by
  unfold expand
  cases crLf <;> by_cases hb : b = 10 <;> simp [hb]

/-! ## How much a write takes -/

section Fill
variable (crLf : Bool)

/-- `fill` queues the expansion of the bytes it takes. -/
theorem fill_snd (room : Nat) (data : List UInt8) :
    (fill crLf room data).2 = translate crLf (data.take (fill crLf room data).1) := by
  induction data generalizing room with
  | nil => rfl
  | cons b rest ih =>
    simp only [fill]
    split
    · rfl
    · simp [ih]

/-- The expansion of what `fill` takes fits its room. -/
theorem fill_fits (room : Nat) (data : List UInt8) :
    (translate crLf (data.take (fill crLf room data).1)).length ≤ room := by
  rw [← fill_snd]
  exact fill_length_le crLf room data

/-- `fill` takes all that fits: the expansion of any longer front overflows the room. -/
theorem fill_maximal (room : Nat) (data : List UInt8) :
    ∀ j, (fill crLf room data).1 < j → j ≤ data.length → room < (translate crLf (data.take j)).length := by
  induction data generalizing room with
  | nil =>
    intro j hj hle
    simp only [List.length_nil] at hle
    omega
  | cons b rest ih =>
    intro j hj hle
    obtain ⟨j, rfl⟩ : ∃ i, j = i + 1 := ⟨j - 1, by omega⟩
    simp only [List.take_succ_cons, translate_cons, List.length_append]
    simp only [fill] at hj
    split at hj
    · -- the first byte alone overflows the room
      next hroom => omega
    · -- the first byte fits, and the rest is the same question with less room
      next hroom =>
      have hmore := ih (room - (expand crLf b).length) j (by simp at hj; omega) (by simp at hle; omega)
      omega

end Fill

/-- A writable device takes at least one byte of any data that is not empty. -/
theorem fill_pos_of_writable {u : Uart} (hw : u.readiness.writable = true) (b : UInt8) (rest : List UInt8) :
    0 < (fill (u.lineEndings == .crLf) u.txRoom (b :: rest)).1 := by
  have hwidth : u.width ≤ u.txRoom := by
    simp only [readiness, Bool.and_eq_true, decide_eq_true_eq] at hw
    exact hw.2
  -- the widest expanded byte is what readiness asks room for
  have hexp : (expand (u.lineEndings == .crLf) b).length ≤ u.width := by
    have := expand_length_le (u.lineEndings == .crLf) b
    cases hle : u.lineEndings <;> simp_all [width]
  simp only [fill]
  split
  · omega
  · simp

/-- A write on a line that passes its check queues the expansion of the longest front that fits,
and would block, changing nothing, exactly when that front is empty and the data is not. -/
theorem write_passing {u : Uart} (hi : u.interrupted = false) (hf : u.fault = false)
    (hins : u.installed = true) (data : List UInt8) :
    u.write data =
      if (fill (u.lineEndings == .crLf) u.txRoom data).1 = 0 ∧ data ≠ [] then (.error .wouldBlock, u)
      else (.ok (fill (u.lineEndings == .crLf) u.txRoom data).1,
        { u with tx := u.tx ++
          translate (u.lineEndings == .crLf) (data.take (fill (u.lineEndings == .crLf) u.txRoom data).1) }) := by
  have hc : u.check = (.ok (), u) := by simp [check, hi, hf, hins]
  unfold write
  rw [hc]
  dsimp only
  rw [← fill_snd]

/-- What a write leaves queued: when it reports `k` bytes taken, `k` is what `fill` took and the
FIFO gained their expansion; a failed write left the FIFO as it was. -/
theorem write_tx (u : Uart) (data : List UInt8) :
    (∀ k, (u.write data).1 = .ok k → k = (fill (u.lineEndings == .crLf) u.txRoom data).1 ∧
      (u.write data).2.tx = u.tx ++ translate (u.lineEndings == .crLf) (data.take k)) ∧
    ((∃ e, (u.write data).1 = .error e) → (u.write data).2.tx = u.tx) := by
  unfold write
  rcases hc : u.check with ⟨e | ⟨⟩, u₁⟩
  · have htx := (check_keeps u).2
    rw [hc] at htx
    dsimp only
    exact ⟨fun k hk => (by cases hk), fun _ => htx⟩
  · have hu₁ : u₁ = u := by
      have hok := @check_ok u
      rw [hc] at hok
      exact hok rfl
    subst hu₁
    dsimp only
    split
    · exact ⟨fun k hk => (by cases hk), fun _ => rfl⟩
    · refine ⟨fun k hk => ?_, fun ⟨e, he⟩ => (by cases he)⟩
      cases hk
      exact ⟨rfl, by rw [fill_snd]⟩

/-- A write keeps the receive ring and the sizes of both queues. -/
theorem write_keeps (u : Uart) (data : List UInt8) :
    (u.write data).2.rx = u.rx ∧ (u.write data).2.rxCapacity = u.rxCapacity ∧
      (u.write data).2.txCapacity = u.txCapacity := by
  unfold write
  rcases hc : u.check with ⟨e | ⟨⟩, u₁⟩
  all_goals
    have hk := check_keeps u
    have hrx := check_rx u
    rw [hc] at hk hrx
  · exact ⟨hrx, hk.1.rxCapacity, hk.1.txCapacity⟩
  · dsimp only
    split
    · exact ⟨hrx, hk.1.rxCapacity, hk.1.txCapacity⟩
    · exact ⟨hrx, hk.1.rxCapacity, hk.1.txCapacity⟩

/-- A read keeps the FIFO and the sizes of both queues. -/
theorem read_keeps (u : Uart) (len : Nat) :
    (u.read len).2.tx = u.tx ∧ (u.read len).2.rxCapacity = u.rxCapacity ∧
      (u.read len).2.txCapacity = u.txCapacity := by
  unfold read
  rcases hc : u.check with ⟨e | ⟨⟩, u₁⟩
  all_goals
    have hk := check_keeps u
    rw [hc] at hk
    dsimp only
  · exact ⟨hk.2, hk.1.rxCapacity, hk.1.txCapacity⟩
  · split
    · exact ⟨hk.2, hk.1.rxCapacity, hk.1.txCapacity⟩
    · exact ⟨hk.2, hk.1.rxCapacity, hk.1.txCapacity⟩

/-! ## Calls on the device -/

/-- A call on a UART, from the mainloop or from the wire side. A `wait_tx` is a `takeTx` once the
wait is over. -/
inductive Call where
  | install (p : UartParams) (rxSize txSize : Nat)
  | uninstall
  | write (data : List UInt8)
  | read (len : Nat)
  | receive (data : List UInt8)
  | takeTx
  | setFault (on : Bool)
  | interrupt
  | takeInterrupt
  | setLineEndings (le : LineEndings)
  | watch (on : Bool)
  deriving DecidableEq, Repr

/-- The device after a call; a refused install leaves it as it was. -/
def apply (u : Uart) : Call → Uart
  | .install p rxSize txSize =>
    match u.install p rxSize txSize with
    | .ok u' => u'
    | .error _ => u
  | .uninstall => u.uninstall
  | .write data => (u.write data).2
  | .read len => (u.read len).2
  | .receive data => (u.receive data).2
  | .takeTx => u.takeTx.2
  | .setFault on => u.setFault on
  | .interrupt => u.interrupt
  | .takeInterrupt => u.takeInterrupt.2
  | .setLineEndings le => { u with lineEndings := le }
  | .watch on => { u with watched := on }

/-- The device after the calls, in order. -/
def run (u : Uart) (calls : List Call) : Uart := calls.foldl apply u

@[simp] theorem run_nil (u : Uart) : u.run [] = u := rfl

@[simp] theorem run_cons (u : Uart) (c : Call) (calls : List Call) :
    u.run (c :: calls) = (u.apply c).run calls := rfl

/-- What a call queues for sending: the expansion of what a write reports taken. -/
def queued (u : Uart) : Call → List UInt8
  | .write data =>
    match (u.write data).1 with
    | .ok k => translate (u.lineEndings == .crLf) (data.take k)
    | .error _ => []
  | _ => []

/-- What the wire drains from the FIFO: everything queued. -/
def drained (u : Uart) : Call → List UInt8
  | .takeTx => u.tx
  | _ => []

/-- What a call throws away from the FIFO: removing the driver discards what was queued, and so
would installing it over a FIFO left behind. -/
def discarded (u : Uart) : Call → List UInt8
  | .uninstall => u.tx
  | .install p rxSize txSize =>
    match u.install p rxSize txSize with
    | .ok _ => u.tx
    | .error _ => []
  | _ => []

/-- What the calls give, in order, each from the device it finds. -/
def along (f : Uart → Call → List UInt8) : Uart → List Call → List UInt8
  | _, [] => []
  | u, c :: calls => f u c ++ along f (u.apply c) calls

/-! ## Both queues stay within their sizes -/

/-- Both queues within the sizes the driver was installed with. -/
structure Bounded (u : Uart) : Prop where
  tx : u.tx.length ≤ u.txCapacity
  rx : u.rx.length ≤ u.rxCapacity

theorem bounded_new (port : Nat) : (new port).Bounded := ⟨Nat.le_refl 0, Nat.le_refl 0⟩

/-- One call keeps both queues within their sizes. -/
theorem Bounded.apply {u : Uart} (h : u.Bounded) (c : Call) : (u.apply c).Bounded := by
  cases c with
  | install p rxSize txSize =>
    cases hi : u.install p rxSize txSize with
    | ok u' =>
      simp only [Uart.apply, hi, install_eq_ok hi]
      exact ⟨Nat.zero_le _, Nat.zero_le _⟩
    | error e =>
      simp only [Uart.apply, hi]
      exact h
  | uninstall => exact ⟨Nat.zero_le _, Nat.zero_le _⟩
  | write data =>
    obtain ⟨hrx, hrc, htc⟩ := write_keeps u data
    refine ⟨?_, by simp only [Uart.apply, hrx, hrc]; exact h.rx⟩
    simp only [Uart.apply, htc]
    cases hr : (u.write data).1 with
    | ok k =>
      -- a write adds the expansion of what fits, which is at most the free slots
      obtain ⟨rfl, htx⟩ := (write_tx u data).1 k hr
      have hfit := fill_fits (u.lineEndings == .crLf) u.txRoom data
      have := h.tx
      have hroom : u.txRoom = u.txCapacity - u.tx.length := rfl
      rw [htx, List.length_append]
      omega
    | error e =>
      rw [(write_tx u data).2 ⟨e, hr⟩]
      exact h.tx
  | read len =>
    obtain ⟨htx, hrc, htc⟩ := read_keeps u len
    refine ⟨by simp only [Uart.apply, htx, htc]; exact h.tx, ?_⟩
    simp only [Uart.apply, hrc]
    rcases read_rx u len with ⟨-, hrx⟩ | ⟨-, hrx⟩
    · rw [hrx, List.length_drop]
      have := h.rx
      omega
    · rw [hrx]
      exact h.rx
  | receive data =>
    show (u.receive data).2.Bounded
    unfold receive
    split
    · refine ⟨h.tx, ?_⟩
      simp only [List.length_append, List.length_take]
      have := h.rx
      unfold rxRoom
      omega
    · exact h
  | takeTx => exact ⟨Nat.zero_le _, h.rx⟩
  | setFault on => exact ⟨h.tx, h.rx⟩
  | interrupt => exact ⟨h.tx, h.rx⟩
  | takeInterrupt => exact ⟨h.tx, h.rx⟩
  | setLineEndings le => exact ⟨h.tx, h.rx⟩
  | watch on => exact ⟨h.tx, h.rx⟩

/-- Every run of calls keeps both queues within their sizes. -/
theorem Bounded.run {u : Uart} (h : u.Bounded) (calls : List Call) : (u.run calls).Bounded := by
  induction calls generalizing u with
  | nil => exact h
  | cons c rest ih => exact ih (h.apply c)

/-! ## Nothing is lost from the FIFO -/

/-- One call: what the FIFO held and what the call queued are what left it and what it holds
now. -/
theorem conserve_apply (u : Uart) (c : Call) :
    u.tx ++ u.queued c = (u.drained c ++ u.discarded c) ++ (u.apply c).tx := by
  cases c with
  | install p rxSize txSize =>
    cases hi : u.install p rxSize txSize with
    | ok u' => simp [queued, drained, discarded, Uart.apply, hi, install_eq_ok hi]
    | error e => simp [queued, drained, discarded, Uart.apply, hi]
  | uninstall => simp [queued, drained, discarded, Uart.apply, uninstall]
  | write data =>
    simp only [queued, drained, discarded, Uart.apply, List.nil_append]
    have htx := write_tx u data
    cases hr : (u.write data).1 with
    | ok k => exact ((htx.1 k hr).2).symm
    | error e => simp [htx.2 ⟨e, hr⟩]
  | read len => simp [queued, drained, discarded, Uart.apply, (read_keeps u len).1]
  | receive data =>
    show u.tx ++ [] = ([] ++ []) ++ (u.receive data).2.tx
    unfold receive
    split <;> simp
  | takeTx => simp [queued, drained, discarded, Uart.apply, takeTx]
  | setFault on => simp [queued, drained, discarded, Uart.apply, setFault]
  | interrupt => simp [queued, drained, discarded, Uart.apply, interrupt]
  | takeInterrupt => simp [queued, drained, discarded, Uart.apply, takeInterrupt]
  | setLineEndings le => simp [queued, drained, discarded, Uart.apply]
  | watch on => simp [queued, drained, discarded, Uart.apply]

/-- Every run: what the FIFO held, then what the writes queued, is what left it, drained or
discarded, in order, then what is still queued. -/
theorem conserve_run (u : Uart) (calls : List Call) :
    u.tx ++ along queued u calls = along (fun w c => w.drained c ++ w.discarded c) u calls ++ (u.run calls).tx := by
  induction calls generalizing u with
  | nil => simp [along]
  | cons c rest ih =>
    simp only [along, run_cons]
    rw [← List.append_assoc, conserve_apply, List.append_assoc, ih]
    simp only [List.append_assoc]

/-! ## The transmit path -/

/-- The transmit path of a UART. A write takes `k` bytes, the longest front of its data whose
expansion fits the free slots; on a line that passes its check it queues exactly that expansion,
or would block, changing nothing, when `k = 0` and the data is not empty; a writable device has
`1 ≤ k` for all data that is not empty, in both line-ending modes. Every run of calls from a
new device, or from any with both queues within their sizes, keeps them so. And what the FIFO
held and what the writes queued is what the wire drained and the uninstalls discarded, in order,
followed by what is still queued. -/
theorem transmit_fifo_law (u : Uart) (data : List UInt8) :
    let crLf := u.lineEndings == .crLf
    let k := (fill crLf u.txRoom data).1
    (k ≤ data.length ∧ (translate crLf (data.take k)).length ≤ u.txRoom ∧
      ∀ j, k < j → j ≤ data.length → u.txRoom < (translate crLf (data.take j)).length) ∧
    (u.interrupted = false → u.fault = false → u.installed = true →
      u.write data = if k = 0 ∧ data ≠ [] then (.error .wouldBlock, u)
        else (.ok k, { u with tx := u.tx ++ translate crLf (data.take k) })) ∧
    (u.readiness.writable = true → data ≠ [] → 1 ≤ k) ∧
    (∀ port, (new port).Bounded) ∧
    (∀ (v : Uart) (calls : List Call), v.Bounded → (v.run calls).Bounded) ∧
    (∀ (v : Uart) (calls : List Call),
      v.tx ++ along queued v calls =
        along (fun w c => w.drained c ++ w.discarded c) v calls ++ (v.run calls).tx) := by
  intro crLf k
  refine ⟨⟨fill_count_le crLf u.txRoom data, fill_fits crLf u.txRoom data,
    fill_maximal crLf u.txRoom data⟩, fun hi hf hins => write_passing hi hf hins data, ?_,
    bounded_new, fun v calls hv => hv.run calls, conserve_run⟩
  intro hw hne
  obtain ⟨b, rest, rfl⟩ := List.exists_cons_of_ne_nil hne
  exact fill_pos_of_writable hw b rest

/-- A console UART with seven of its eight FIFO slots taken: a `\n` needs two slots and would
block, while `x` takes the last one. -/
theorem transmit_fifo_law_full_fifo :
    let u : Uart := { new 0 with
      installed := true, rxCapacity := 64, txCapacity := 8, tx := [0x31, 0x32, 0x33, 0x34, 0x35, 0x36, 0x37] }
    (u.interrupted = false ∧ u.fault = false ∧ u.installed = true) ∧
      u.write [10] = (.error .wouldBlock, u) ∧
      u.write [0x78] = (.ok 1, { u with tx := u.tx ++ [0x78] }) := by
  intro u
  have h₁ := (transmit_fifo_law u [10]).2.1 rfl rfl rfl
  have h₂ := (transmit_fifo_law u [0x78]).2.1 rfl rfl rfl
  exact ⟨⟨rfl, rfl, rfl⟩, h₁.trans (by decide), h₂.trans (by decide)⟩

/-- Bytes queued before an uninstall never reach the wire: the driver is removed and installed
again between two writes, and the wire then drains only what the second one queued, with nothing
left in the FIFO. -/
theorem uninstall_drops_queued :
    let calls := [Call.install .console 8 8, .write [0x61], .uninstall, .install .console 8 8,
      .write [0x62], .takeTx]
    ((new 0).run calls).tx = [] ∧ along drained (new 0) calls = [0x62] ∧
      along queued (new 0) calls = [0x61, 0x62] := by
  intro calls
  exact ⟨by decide, by decide, by decide⟩

end Uart

end ThreadPlatform
