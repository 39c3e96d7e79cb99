import ThreadPlatform.Proofs.Machine.Wakeup

/-!
# What a `select` answers, and what it leaves behind

`select` first looks up the device of every descriptor of interest, in ascending order. The
first descriptor without one, which is the least, is the answer, and nothing else happens
(`Machine.select_badDescriptor`). Otherwise it registers with the devices, runs its rounds and
unregisters again, so no device stays registered (`Machine.unwatched_forM_stopWatch`).

Its rounds end in one of two ways (`Machine.holds_selectRounds`). A round that finds an
interruption consumes exactly one, that of the first device in descriptor order that had one
when the round began (`Machine.anyInterrupted_true`), and the answer is that the wait was
interrupted. Any other answer is the context cut down to what the last look found ready. The
last look is the state of the devices at the end, since unregistering leaves readiness and
interruptions alone.

`Machine.select_outcome` puts these together. The three interest sets are treated alike
through `PollContext.Condition` (`PollContext.waiting`, `Readiness.meets`).
-/

namespace ThreadPlatform

namespace PollContext

/-- The three things a poll context waits for on a descriptor. -/
inductive Condition where
  | readable
  | writable
  | error
  deriving DecidableEq, Repr

/-- The descriptors `ctx` waits on for `c`. -/
def waiting (ctx : PollContext) : Condition → FdSet
  | .readable => ctx.readFds
  | .writable => ctx.writeFds
  | .error => ctx.errorFds

theorem contains_interest (ctx : PollContext) (fd : Fd) :
    ctx.interest.contains fd = ((ctx.waiting .readable).contains fd || (ctx.waiting .writable).contains fd ||
      (ctx.waiting .error).contains fd) := by
  simp [interest, waiting, FdSet.contains_union]

/-- A descriptor waited on for anything is of interest. -/
theorem mem_interest_of_waiting {ctx : PollContext} {c : Condition} {fd : Fd}
    (h : (ctx.waiting c).contains fd = true) : fd ∈ ctx.interest.toList := by
  rw [FdSet.mem_toList, contains_interest]
  cases c <;> simp [h]

end PollContext

/-- Whether the readiness has the flag of `c`. -/
def Readiness.meets (r : Readiness) : PollContext.Condition → Bool
  | .readable => r.readable
  | .writable => r.writable
  | .error => r.error

namespace Machine

open PollContext

section Mark
variable (ctx ready : PollContext) (fd : Fd) (r : Readiness)

/-- Marking a descriptor adds it to each set of `ready` for whose condition `ctx` waits on it
and it is ready. -/
theorem waiting_markReady (c : Condition) :
    (markReady ctx ready fd r).waiting c =
      if r.meets c && (ctx.waiting c).contains fd then (ready.waiting c).insert fd else ready.waiting c := by
  -- each condition's set is touched by one step of the marking only
  cases hrd : r.readable && ctx.readFds.contains fd <;> cases hwr : r.writable && ctx.writeFds.contains fd <;>
    cases her : r.error && ctx.errorFds.contains fd <;> cases c <;>
    simp only [markReady, waiting, Readiness.meets, isReadable, isWritable, hasError, hrd, hwr, her, ↓reduceIte,
      Bool.false_eq_true]

theorem timeout_markReady : (markReady ctx ready fd r).timeout = ready.timeout := by
  unfold markReady
  split_ifs <;> rfl

theorem maxFd_markReady : (markReady ctx ready fd r).maxFd = ready.maxFd := by
  unfold markReady
  split_ifs <;> rfl

end Mark

section Sample
variable (ctx : PollContext) (rd : DeviceId → Readiness)

/-- After marking the listed descriptors, a set holds what it held and each listed descriptor
that `ctx` waits on for its condition and whose device is ready for it. -/
theorem contains_foldl_markReady (c : Condition) (fd : Fd) :
    ∀ (l : List (Fd × DeviceId)) (ready : PollContext),
      ((l.foldl (fun ready p => markReady ctx ready p.1 (rd p.2)) ready).waiting c).contains fd =
        ((ready.waiting c).contains fd ||
          l.any fun p => p.1 == fd && (rd p.2).meets c && (ctx.waiting c).contains fd)
  | [], ready => by simp
  | p :: l, ready => by
    rw [List.foldl_cons, contains_foldl_markReady c fd l, waiting_markReady, List.any_cons]
    -- the head counts exactly when it is `fd`, ready for `c` and waited on for it
    have hhead : (p.1 == fd && (rd p.2).meets c && (ctx.waiting c).contains fd) =
        (decide (p.1 = fd) && ((rd p.2).meets c && (ctx.waiting c).contains p.1)) := by
      by_cases hp : p.1 = fd
      · subst hp
        simp
      · simp [hp]
    rw [hhead]
    cases hcond : (rd p.2).meets c && (ctx.waiting c).contains p.1 <;>
      simp [FdSet.contains_insert, Bool.or_assoc]

theorem timeout_foldl_markReady :
    ∀ (l : List (Fd × DeviceId)) (ready : PollContext),
      (l.foldl (fun ready p => markReady ctx ready p.1 (rd p.2)) ready).timeout = ready.timeout ∧
        (l.foldl (fun ready p => markReady ctx ready p.1 (rd p.2)) ready).maxFd = ready.maxFd
  | [], _ => ⟨rfl, rfl⟩
  | p :: l, ready => by
    rw [List.foldl_cons]
    obtain ⟨ht, hm⟩ := timeout_foldl_markReady l (markReady ctx ready p.1 (rd p.2))
    exact ⟨ht.trans (timeout_markReady ..), hm.trans (maxFd_markReady ..)⟩

end Sample

/-! ## Looking up the descriptors of interest -/

section Lookup
variable {t : DescriptorTable}

theorem lookup_pair_of_slot {x : Fd} {id : DeviceId} (h : t.slot x = some id) :
    (t.lookup x).map (x, ·) = .ok (x, id) := by
  simp [DescriptorTable.lookup, h, Except.map]

theorem lookup_pair_of_no_slot {x : Fd} (h : t.slot x = none) :
    (t.lookup x).map (x, ·) = .error (.badDescriptor x) := by
  simp [DescriptorTable.lookup, h, Except.map]

/-- Looking up the descriptors of an ascending list stops at the first without a device, which
is the least. -/
theorem mapM_lookup_error : ∀ {l : List Fd}, l.Pairwise (· < ·) → (∃ fd ∈ l, t.slot fd = none) →
    ∃ fd ∈ l, t.slot fd = none ∧ (∀ g ∈ l, g < fd → t.slot g ≠ none) ∧
      l.mapM (fun fd => (t.lookup fd).map (fd, ·)) = .error (.badDescriptor fd)
  | [], _, ⟨_, h, _⟩ => by cases h
  | x :: l, hs, hbad => by
    rw [List.pairwise_cons] at hs
    cases hx : t.slot x with
    | none =>
      refine ⟨x, List.mem_cons_self, hx, fun g hg hlt => ?_, ?_⟩
      · -- nothing in the list lies below its head
        rcases List.mem_cons.1 hg with rfl | hg
        · exact absurd hlt (Nat.lt_irrefl _)
        · exact absurd (hs.1 g hg) (Nat.lt_asymm hlt)
      · rw [List.mapM_cons, lookup_pair_of_no_slot hx]
        rfl
    | some id =>
      have hbad' : ∃ fd ∈ l, t.slot fd = none := by
        obtain ⟨fd, hfd, hn⟩ := hbad
        rcases List.mem_cons.1 hfd with rfl | hfd
        · simp [hx] at hn
        · exact ⟨fd, hfd, hn⟩
      obtain ⟨fd, hfd, hn, hleast, hmap⟩ := mapM_lookup_error hs.2 hbad'
      refine ⟨fd, List.mem_cons_of_mem _ hfd, hn, fun g hg hlt => ?_, ?_⟩
      · rcases List.mem_cons.1 hg with rfl | hg
        · simp [hx]
        · exact hleast g hg hlt
      · rw [List.mapM_cons, lookup_pair_of_slot hx, hmap]
        rfl

/-- When every descriptor has a device, looking them up succeeds. -/
theorem mapM_lookup_ok_of_slots : ∀ {l : List Fd}, (∀ fd ∈ l, t.slot fd ≠ none) →
    ∃ watched, l.mapM (fun fd => (t.lookup fd).map (fd, ·)) = .ok watched
  | [], _ => ⟨[], rfl⟩
  | x :: l, h => by
    obtain ⟨watched, hmap⟩ := mapM_lookup_ok_of_slots fun fd hfd => h fd (List.mem_cons_of_mem _ hfd)
    cases hx : t.slot x with
    | none => exact absurd hx (h x List.mem_cons_self)
    | some id =>
      refine ⟨(x, id) :: watched, ?_⟩
      rw [List.mapM_cons, lookup_pair_of_slot hx, hmap]
      rfl

/-- A successful look-up pairs each descriptor, in order, with its device. -/
theorem mapM_lookup_ok : ∀ {l : List Fd} {watched : List (Fd × DeviceId)},
    l.mapM (fun fd => (t.lookup fd).map (fd, ·)) = .ok watched →
      watched.map Prod.fst = l ∧ ∀ p ∈ watched, t.slot p.1 = some p.2
  | [], watched, h => by
    simp only [List.mapM_nil, pure, Except.pure, Except.ok.injEq] at h
    subst h
    exact ⟨rfl, fun _ hp => by cases hp⟩
  | x :: l, watched, h => by
    cases hx : t.slot x with
    | none =>
      rw [List.mapM_cons, lookup_pair_of_no_slot hx] at h
      cases h
    | some id =>
      cases hl : l.mapM (fun fd => (t.lookup fd).map (fd, ·)) with
      | error e =>
        rw [List.mapM_cons, lookup_pair_of_slot hx, hl] at h
        cases h
      | ok rest =>
        rw [List.mapM_cons, lookup_pair_of_slot hx, hl] at h
        cases h
        obtain ⟨hfst, hslot⟩ := mapM_lookup_ok hl
        refine ⟨by simp [hfst], fun p hp => ?_⟩
        rcases List.mem_cons.1 hp with rfl | hp
        · exact hx
        · exact hslot p hp

end Lookup

/-! ## Registering and unregistering -/

theorem Device.setWatched_setWatched (a b : Bool) (d : Device) : (d.setWatched b).setWatched a = d.setWatched a := by
  cases d <;> rfl

theorem Device.readiness_setWatched (b : Bool) (d : Device) : (d.setWatched b).readiness = d.readiness := by
  cases d <;> rfl

/-- Whether the UART `id` has an interruption pending; a device that is no UART has none. -/
def interruptPending (m : Machine) (id : DeviceId) : Bool :=
  match m.uartAt id with
  | some u => u.interrupted
  | none => false

/-- Unregistering from a device changes its registration and nothing else. -/
theorem run_stopWatch (id : DeviceId) (m : Machine) :
    ((stopWatch id).run m).2 = { m with devices := m.devices.modify id (Device.setWatched false) } := by
  show Holds (stopWatch id) (fun _ m' => m' = _) m
  simp only [stopWatch, holds_bind, holds_device?]
  cases hd : m.devices[id]? with
  | none =>
    -- no device there: the array is left as it is
    have hsame : m.devices.modify id (Device.setWatched false) = m.devices := by
      apply Array.ext_getElem?
      intro j
      rw [Array.getElem?_modify]
      split
      · next hj =>
        subst hj
        simp [hd]
      · rfl
    simp only [holds_pure, hsame]
  | some d =>
    simp only [setDevice, holds_modify]
    congr 1
    apply Array.ext_getElem?
    intro j
    rw [Array.getElem?_modify, Array.getElem?_modify]
    split
    · next hj =>
      subst hj
      simp [hd]
    · rfl

/-- After unregistering from the listed devices, each of them is unregistered and every other
device is as it was. -/
theorem getElem?_forM_stopWatch : ∀ (l : List (Fd × DeviceId)) (m : Machine) (j : DeviceId),
    ((l.forM fun p => stopWatch p.2).run m).2.devices[j]? =
      if l.any (·.2 == j) then (m.devices[j]?).map (Device.setWatched false) else m.devices[j]?
  | [], m, j => by
    show m.devices[j]? = _
    simp
  | p :: l, m, j => by
    show ((l.forM fun p => stopWatch p.2).run ((stopWatch p.2).run m).2).2.devices[j]? = _
    rw [getElem?_forM_stopWatch l, run_stopWatch, List.any_cons]
    simp only [Array.getElem?_modify]
    by_cases hj : p.2 = j
    · subst hj
      cases hd : m.devices[p.2]? <;> simp [Device.setWatched_setWatched]
    · have hne : (p.2 == j) = false := by simpa using hj
      rw [hne, Bool.false_or, if_neg hj]

/-- Unregistering leaves what every device is ready for as it was. -/
theorem readiness_forM_stopWatch (l : List (Fd × DeviceId)) (m : Machine) (id : DeviceId) :
    ((readiness id).run ((l.forM fun p => stopWatch p.2).run m).2).1 = ((readiness id).run m).1 := by
  show ((((l.forM fun p => stopWatch p.2).run m).2.devices[id]?).map Device.readiness).getD _ =
    ((m.devices[id]?).map Device.readiness).getD _
  rw [getElem?_forM_stopWatch]
  split
  · cases m.devices[id]? <;> simp [Device.readiness_setWatched]
  · rfl

/-- Unregistering leaves every pending interruption as it was. -/
theorem interruptPending_forM_stopWatch (l : List (Fd × DeviceId)) (m : Machine) (id : DeviceId) :
    interruptPending ((l.forM fun p => stopWatch p.2).run m).2 id = interruptPending m id := by
  unfold interruptPending uartAt
  rw [getElem?_forM_stopWatch]
  by_cases hany : (l.any fun p => p.2 == id) = true
  · rw [if_pos hany]
    cases m.devices[id]? with
    | none => rfl
    | some d => cases d <;> rfl
  · rw [if_neg hany]

/-- After unregistering from the listed devices, none of them is registered. -/
theorem unwatched_forM_stopWatch (l : List (Fd × DeviceId)) (m : Machine) :
    ∀ p ∈ l, ∀ d, ((l.forM fun p => stopWatch p.2).run m).2.devices[p.2]? = some d → d.watched = false := by
  intro p hp d hd
  rw [getElem?_forM_stopWatch, if_pos (List.any_eq_true.2 ⟨p, hp, by simp⟩)] at hd
  obtain ⟨d₀, -, rfl⟩ := Option.map_eq_some_iff.1 hd
  exact Device.watched_setWatched false d₀

/-! ## Consuming an interruption -/

theorem holds_of_run_eq {α : Type} {act : MachineM α} {Q : α → Machine → Prop} {m m' : Machine} {a : α}
    (h : act.run m = (a, m')) : Holds act Q m ↔ Q a m' := by
  unfold Holds
  rw [h]

/-- A look for an interruption of `id` answers whether one was pending, and consumes it. -/
theorem run_takeInterrupt (s : Machine) (id : DeviceId) :
    ((takeInterrupt id).run s).1 = s.interruptPending id ∧
      ∀ j, interruptPending ((takeInterrupt id).run s).2 j = (s.interruptPending j && j != id) := by
  show Holds (takeInterrupt id) (fun hit s₁ => hit = s.interruptPending id ∧
    ∀ j, interruptPending s₁ j = (s.interruptPending j && j != id)) s
  cases hu : s.uartAt id with
  | none =>
    simp only [takeInterrupt, holds_bind, holds_uart?, hu, holds_pure]
    refine ⟨by simp [interruptPending, hu], fun j => ?_⟩
    by_cases hj : j = id
    · subst hj
      simp [interruptPending, hu]
    · simp [hj]
  | some u =>
    simp only [takeInterrupt, holds_bind, holds_uart?, hu, Uart.takeInterrupt, setDevice, holds_modify, holds_pure]
    refine ⟨by simp [interruptPending, hu], fun j => ?_⟩
    by_cases hj : j = id
    · subst hj
      simp [interruptPending, WireFrame.uartAt_modify_self hu]
    · simp [interruptPending, WireFrame.uartAt_modify_ne (Ne.symm hj), hj]

/-- Looking for interruptions and finding one consumed exactly one: that of the first listed
device that had one. -/
theorem anyInterrupted_true : ∀ (l : List (Fd × DeviceId)) (s : Machine),
    Holds (anyInterrupted l) (fun hit s₁ => hit = true → ∃ pre p post, l = pre ++ p :: post ∧
      (∀ q ∈ pre, s.interruptPending q.2 = false) ∧ s.interruptPending p.2 = true ∧
      ∀ j, s₁.interruptPending j = (s.interruptPending j && j != p.2)) s
  | [], s => by simp [anyInterrupted]
  | (fd, id) :: rest, s => by
    obtain ⟨hhit, hpend⟩ := run_takeInterrupt s id
    simp only [anyInterrupted, holds_bind]
    cases hs : s.interruptPending id with
    | true =>
      -- the head device had one: it is consumed, and the look stops
      rw [holds_of_run_eq (Prod.ext (hhit.trans hs) rfl)]
      simp only [if_true, holds_pure]
      exact fun _ => ⟨[], (fd, id), rest, rfl, fun q hq => (by cases hq), hs, hpend⟩
    | false =>
      -- nothing pending there: the machine is as it was, and the look goes on
      have hsame := (takeInterrupt_false id s) (hhit.trans hs)
      rw [holds_of_run_eq (Prod.ext (hhit.trans hs) hsame.1)]
      simp only [Bool.false_eq_true, if_false]
      have ih := anyInterrupted_true rest s
      unfold Holds at ih ⊢
      intro hit_true
      obtain ⟨pre, p, post, hrest, hpre, hp, hcons⟩ := ih hit_true
      refine ⟨(fd, id) :: pre, p, post, by rw [hrest]; rfl, fun q hq => ?_, hp, hcons⟩
      rcases List.mem_cons.1 hq with rfl | hq
      · exact hs
      · exact hpre q hq

/-! ## The rounds -/

/-- The states in which a round of a `select` begins: the first round begins where the rounds do,
and the next one after a round that found no interruption and nothing ready and whose wait was
woken by the signal. -/
inductive RoundBegins (watched : List (Fd × DeviceId)) (ctx : PollContext) (deadline : Nat) :
    Nat → Machine → Machine → Prop
  | first {fuel : Nat} {m : Machine} : RoundBegins watched ctx deadline fuel m m
  | next {fuel : Nat} {m m₁ m₂ s : Machine} :
      (anyInterrupted watched).run m = (false, m₁) →
      ((readySubset watched ctx).run m₁).1.readyCount = 0 →
      (waitSignal deadline).run m₁ = (true, m₂) →
      RoundBegins watched ctx deadline fuel m₂ s → RoundBegins watched ctx deadline (fuel + 1) m s

/-- The states in which a round of a `select` on `ctx`, begun in `m`, begins: its descriptors
named devices, it lowered the signal and registered with them, and its rounds reached `s`. -/
def SelectRound (ctx : PollContext) (m s : Machine) : Prop :=
  ∃ watched, ((watchList ctx).run m).1 = .ok watched ∧
    let m₁ := ((watched.forM fun p => startWatch p.2).run { m with signal := false }).2
    RoundBegins watched ctx (m₁.now + ctx.timeout.nanos) (m₁.eventsLeft + 2) m₁ s

theorem run_readySubset (watched : List (Fd × DeviceId)) (ctx : PollContext) (m : Machine) :
    (readySubset watched ctx).run m =
      (watched.foldl (fun ready p => markReady ctx ready p.1 ((readiness p.2).run m).1) ctx.cleared, m) := rfl

/-- How the rounds of a `select` end: interrupted, having consumed an interruption in a round
that began in a state they reached, or with the context cut down to what the last look found
ready, a look at the state they end in. -/
theorem holds_selectRounds (watched : List (Fd × DeviceId)) (ctx : PollContext) (deadline : Nat) :
    ∀ (fuel : Nat) (m : Machine),
      Holds (selectRounds watched ctx deadline fuel) (fun r m' =>
        (∀ e, r = .error e → e = .device .interrupted ∧
          ∃ s, RoundBegins watched ctx deadline fuel m s ∧ (anyInterrupted watched).run s = (true, m')) ∧
        (∀ ready, r = .ok ready → ready = ((readySubset watched ctx).run m').1)) m
  | 0, m => by
    simp only [selectRounds, holds_bind, run_readySubset]
    exact ⟨fun e h => (by cases h), fun ready h => (by cases h; rfl)⟩
  | fuel + 1, m => by
    simp only [selectRounds, holds_bind]
    rcases hai : (anyInterrupted watched).run m with ⟨_ | _, m₁⟩
    case true =>
      -- an interruption: the round that begins here ends the rounds
      rw [holds_of_run_eq hai]
      simp only [if_true, holds_pure]
      exact ⟨fun e h => (by cases h; exact ⟨rfl, m, .first, hai⟩), fun ready h => (by cases h)⟩
    rw [holds_of_run_eq hai]
    simp only [Bool.false_eq_true, if_false, holds_bind]
    rw [holds_of_run_eq (run_readySubset watched ctx m₁)]
    by_cases hpos : 0 < (watched.foldl (fun ready p => markReady ctx ready p.1 ((readiness p.2).run m₁).1)
        ctx.cleared).readyCount
    · -- something is ready: it is the answer
      simp only [hpos, if_true, holds_pure]
      exact ⟨fun e h => (by cases h), fun ready h => (by cases h; rfl)⟩
    simp only [hpos, if_false, holds_bind]
    rcases hwait : (waitSignal deadline).run m₁ with ⟨_ | _, m₂⟩
    case true =>
      -- woken: the next round begins where the wait ended
      rw [holds_of_run_eq hwait]
      simp only [if_true]
      have ih := holds_selectRounds watched ctx deadline fuel m₂
      unfold Holds at ih ⊢
      obtain ⟨herr, hok⟩ := ih
      refine ⟨fun e h => ?_, hok⟩
      obtain ⟨he, s, hs, hrun⟩ := herr e h
      exact ⟨he, s, .next hai (by rw [run_readySubset]; exact Nat.eq_zero_of_not_pos hpos) hwait hs, hrun⟩
    · -- timed out: the answer is a last look
      rw [holds_of_run_eq hwait]
      simp only [Bool.false_eq_true, if_false, holds_bind]
      rw [holds_of_run_eq (run_readySubset watched ctx m₂)]
      exact ⟨fun e h => (by cases h), fun ready h => (by cases h; rfl)⟩

/-! ## A whole `select` -/

section Select
variable {ctx : PollContext} {m : Machine}

/-- A descriptor of interest and its device are watched exactly when the table names it. -/
theorem mem_watched {watched : List (Fd × DeviceId)} (h : ((watchList ctx).run m).1 = .ok watched)
    {fd : Fd} {id : DeviceId} : (fd, id) ∈ watched ↔ fd ∈ ctx.interest.toList ∧ m.table.slot fd = some id := by
  obtain ⟨hfst, hslot⟩ := mapM_lookup_ok h
  refine ⟨fun hp => ⟨hfst ▸ List.mem_map_of_mem hp, hslot _ hp⟩, fun ⟨hfd, hid⟩ => ?_⟩
  exact mem_of_mapM_ok h fd hfd (fd, id) (lookup_pair_of_slot hid)

/-- The watched devices come in ascending descriptor order. -/
theorem watched_sorted {watched : List (Fd × DeviceId)} (h : ((watchList ctx).run m).1 = .ok watched) :
    watched.Pairwise fun p q => p.1 < q.1 := by
  have hsorted := FdSet.toList_sorted ctx.interest
  rw [← (mapM_lookup_ok h).1, List.pairwise_map] at hsorted
  exact hsorted

theorem run_select_error {e : TableError} (h : ((watchList ctx).run m).1 = .error e) :
    (select ctx).run m = (.error e, m) := by
  show Holds (select ctx) (fun r m' => (r, m') = (.error e, m)) m
  simp only [select, holds_bind]
  rw [holds_of_run_eq (Prod.ext h rfl)]
  rfl

/-- A `select` whose descriptors all name devices registers with them, runs its rounds and
unregisters. -/
theorem run_select_ok {watched : List (Fd × DeviceId)} (h : ((watchList ctx).run m).1 = .ok watched) :
    let m₁ := ((watched.forM fun p => startWatch p.2).run { m with signal := false }).2
    let rounds := (selectRounds watched ctx (m₁.now + ctx.timeout.nanos) (m₁.eventsLeft + 2)).run m₁
    (select ctx).run m = (rounds.1, ((watched.forM fun p => stopWatch p.2).run rounds.2).2) := by
  intro m₁ rounds
  show Holds (select ctx) (fun r m' => (r, m') = _) m
  simp only [select, holds_bind]
  rw [holds_of_run_eq (Prod.ext h rfl)]
  rfl

/-- A descriptor of interest that names no device: the least such is the answer, and the machine
is as it was, no device registered. -/
theorem select_badDescriptor (hbad : ∃ fd ∈ ctx.interest.toList, m.table.slot fd = none) :
    ∃ fd ∈ ctx.interest.toList, m.table.slot fd = none ∧
      (∀ g ∈ ctx.interest.toList, g < fd → m.table.slot g ≠ none) ∧
      (select ctx).run m = (.error (.badDescriptor fd), m) := by
  obtain ⟨fd, hfd, hn, hleast, hmap⟩ := mapM_lookup_error (FdSet.toList_sorted ctx.interest) hbad
  exact ⟨fd, hfd, hn, hleast, run_select_error hmap⟩

/-- After a `select` whose descriptors all name devices, none of those devices is registered. -/
theorem select_unwatched {watched : List (Fd × DeviceId)} (h : ((watchList ctx).run m).1 = .ok watched) :
    ∀ fd ∈ ctx.interest.toList, ∀ id, m.table.slot fd = some id →
      ∀ d, ((select ctx).run m).2.devices[id]? = some d → d.watched = false := by
  intro fd hfd id hid
  rw [run_select_ok h]
  exact unwatched_forM_stopWatch watched _ (fd, id) ((mem_watched h).2 ⟨hfd, hid⟩)

/-- An interrupted `select`: in a round it began, it consumed the interruption of the device of
the least descriptor of interest that had one, and no other. -/
theorem select_interrupted {watched : List (Fd × DeviceId)} (h : ((watchList ctx).run m).1 = .ok watched)
    {e : TableError} (he : ((select ctx).run m).1 = .error e) :
    e = .device .interrupted ∧ ∃ s fd id, SelectRound ctx m s ∧ fd ∈ ctx.interest.toList ∧
      m.table.slot fd = some id ∧ s.interruptPending id = true ∧
      (∀ g ∈ ctx.interest.toList, g < fd → ∀ j, m.table.slot g = some j → s.interruptPending j = false) ∧
      ∀ j, ((select ctx).run m).2.interruptPending j = (s.interruptPending j && j != id) := by
  rw [run_select_ok h] at he ⊢
  obtain ⟨herr, -⟩ := holds_selectRounds watched ctx _ _ _
  obtain ⟨rfl, s, hs, hrun⟩ := herr e he
  have hany := anyInterrupted_true watched s
  unfold Holds at hany
  rw [hrun] at hany
  obtain ⟨pre, p, post, hsplit, hpre, hp, hcons⟩ := hany rfl
  have hpw : (p.1, p.2) ∈ watched := by
    rw [hsplit]
    exact List.mem_append_right _ List.mem_cons_self
  obtain ⟨hfd, hid⟩ := (mem_watched h).1 hpw
  refine ⟨rfl, s, p.1, p.2, ⟨watched, h, hs⟩, hfd, hid, hp, fun g hg hlt j hj => ?_, fun j => ?_⟩
  · -- a descriptor below `p.1` comes before `p` in the ascending list of watched devices
    have hgw := (mem_watched h).2 ⟨hg, hj⟩
    have hsorted := watched_sorted h
    rw [hsplit, List.pairwise_append] at hsorted
    rw [hsplit] at hgw
    rcases List.mem_append.1 hgw with hgpre | hgrest
    · exact hpre _ hgpre
    · rcases List.mem_cons.1 hgrest with hgp | hgpost
      · rw [← hgp] at hlt
        exact absurd hlt (Nat.lt_irrefl _)
      · have hpg := (List.pairwise_cons.1 hsorted.2.1).1 _ hgpost
        exact absurd hpg (Nat.lt_asymm hlt)
  · rw [interruptPending_forM_stopWatch]
    exact hcons j

theorem waiting_cleared (ctx : PollContext) (c : Condition) : ctx.cleared.waiting c = FdSet.empty := by
  cases c <;> rfl

/-- A `select` that answers with a context: the timeout and the largest descriptor are the
request's, and each set holds the descriptors of the request's set whose device, as it is at the
end, is ready for that set's condition. -/
theorem select_ready {ready : PollContext} (hr : ((select ctx).run m).1 = .ok ready) :
    ready.timeout = ctx.timeout ∧ ready.maxFd = ctx.maxFd ∧
      ∀ (c : Condition) (fd : Fd), (ready.waiting c).contains fd = true ↔
        (ctx.waiting c).contains fd = true ∧
          ∃ id, m.table.slot fd = some id ∧ ((readiness id).run ((select ctx).run m).2).1.meets c = true := by
  cases h : ((watchList ctx).run m).1 with
  | error e =>
    rw [run_select_error h] at hr
    cases hr
  | ok watched =>
    rw [run_select_ok h] at hr ⊢
    obtain ⟨-, hok⟩ := holds_selectRounds watched ctx _ _ _
    have hready := hok ready hr
    simp only [run_readySubset] at hready
    refine ⟨?_, ?_, fun c fd => ?_⟩
    · rw [hready]
      exact (timeout_foldl_markReady ctx (fun id => ((readiness id).run _).1) watched ctx.cleared).1
    · rw [hready]
      exact (timeout_foldl_markReady ctx (fun id => ((readiness id).run _).1) watched ctx.cleared).2
    rw [hready, contains_foldl_markReady ctx (fun id => ((readiness id).run _).1), waiting_cleared,
      FdSet.contains_empty, Bool.false_or, List.any_eq_true]
    simp only [readiness_forM_stopWatch, Bool.and_eq_true, beq_iff_eq]
    constructor
    · rintro ⟨p, hp, ⟨rfl, hmeets⟩, hwait⟩
      exact ⟨hwait, p.2, ((mem_watched h).1 hp).2, hmeets⟩
    · rintro ⟨hwait, id, hid, hmeets⟩
      exact ⟨(fd, id), (mem_watched h).2 ⟨mem_interest_of_waiting hwait, hid⟩, ⟨rfl, hmeets⟩, hwait⟩

/-- What a `select` on `ctx` does to the machine `m`, with `r` its answer and `m'` the machine it
leaves. A descriptor of interest that names no device: the least such is the answer and the
machine is untouched. Otherwise every device waited on is unregistered at the end; an error is an
interruption, the one of the first device in descriptor order that had one when its round began,
and only that one is consumed; and a context answered keeps the request's timeout and largest
descriptor, and holds in each set the descriptors of the request's set whose device is ready for
it at the end, counted once per set. -/
theorem select_outcome (ctx : PollContext) (m : Machine) :
    let r := ((select ctx).run m).1
    let m' := ((select ctx).run m).2
    ((∃ fd ∈ ctx.interest.toList, m.table.slot fd = none) →
      ∃ fd ∈ ctx.interest.toList, m.table.slot fd = none ∧
        (∀ g ∈ ctx.interest.toList, g < fd → m.table.slot g ≠ none) ∧
        r = .error (.badDescriptor fd) ∧ m' = m) ∧
    ((∀ fd ∈ ctx.interest.toList, m.table.slot fd ≠ none) →
      (∀ fd ∈ ctx.interest.toList, ∀ id, m.table.slot fd = some id →
        ∀ d, m'.devices[id]? = some d → d.watched = false) ∧
      ∀ e, r = .error e → e = .device .interrupted ∧
        ∃ s fd id, SelectRound ctx m s ∧ fd ∈ ctx.interest.toList ∧ m.table.slot fd = some id ∧
          s.interruptPending id = true ∧
          (∀ g ∈ ctx.interest.toList, g < fd → ∀ j, m.table.slot g = some j → s.interruptPending j = false) ∧
          ∀ j, m'.interruptPending j = (s.interruptPending j && j != id)) ∧
    (∀ ready, r = .ok ready →
      ready.timeout = ctx.timeout ∧ ready.maxFd = ctx.maxFd ∧
      (∀ (c : Condition) (fd : Fd), (ready.waiting c).contains fd = true ↔
        (ctx.waiting c).contains fd = true ∧
          ∃ id, m.table.slot fd = some id ∧ ((readiness id).run m').1.meets c = true) ∧
      ready.readyCount = ready.readFds.size + ready.writeFds.size + ready.errorFds.size) := by
  intro r m'
  refine ⟨fun hbad => ?_, fun hall => ?_, fun ready hr => ?_⟩
  · obtain ⟨fd, hfd, hn, hleast, hrun⟩ := select_badDescriptor hbad
    exact ⟨fd, hfd, hn, hleast, congrArg Prod.fst hrun, congrArg Prod.snd hrun⟩
  · -- every descriptor names a device, so the lookups succeed and the rounds run
    obtain ⟨watched, hmap⟩ := mapM_lookup_ok_of_slots hall
    have hw : ((watchList ctx).run m).1 = .ok watched := hmap
    exact ⟨select_unwatched hw, fun e he => select_interrupted hw he⟩
  · obtain ⟨htimeout, hmax, hwaiting⟩ := select_ready hr
    exact ⟨htimeout, hmax, hwaiting, rfl⟩

/-- A `select` for reading, writing and errors on the descriptor of a UART that holds a received
byte and has room to send: every descriptor names a device, and the answer keeps the descriptor
in the read and write sets but not in the error set. -/
theorem select_readable_writable_uart :
    let u : Uart := { Uart.new 1 with installed := true, rxCapacity := 16, txCapacity := 16, rx := [1] }
    let fd : Fd := ⟨⟨3, by decide⟩⟩
    let m : Machine := { Machine.empty with devices := #[.uart u], table := DescriptorTable.empty.insert fd 0 }
    let ctx := (((PollContext.new (Span.ofMillis 10)).addRead fd).addWrite fd).addError fd
    let ready := { ctx with errorFds := FdSet.empty }
    (∀ g ∈ ctx.interest.toList, m.table.slot g ≠ none) ∧ ((select ctx).run m).1 = .ok ready ∧
      ready.timeout = ctx.timeout ∧ ready.maxFd = ctx.maxFd ∧
      (∀ (c : Condition) (g : Fd), (ready.waiting c).contains g = true ↔
        (ctx.waiting c).contains g = true ∧
          ∃ id, m.table.slot g = some id ∧ ((readiness id).run ((select ctx).run m).2).1.meets c = true) ∧
      ready.readyCount = ready.readFds.size + ready.writeFds.size + ready.errorFds.size := by
  intro u fd m ctx ready
  have hall : ∀ g ∈ ctx.interest.toList, m.table.slot g ≠ none := by
    dsimp only [ctx, m, fd]
    decide +kernel
  have hr : ((select ctx).run m).1 = .ok ready := by
    dsimp only [ready, ctx, m, u, fd]
    decide +kernel
  exact ⟨hall, hr, (select_outcome ctx m).2.2 ready hr⟩

end Select

end Machine

end ThreadPlatform
