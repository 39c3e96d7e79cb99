import ThreadPlatform.Proofs.Machine.SelectOutcome
/-!
# Handing out descriptors

Three calls change the descriptor table: `Machine.openFd` puts a device at a dynamic descriptor,
`Machine.openReserved` at the reserved descriptor 8, and `Machine.closeFd` frees a descriptor and
lets its device know. A dynamic descriptor is one from 3 to 63 other than 8
(`DescriptorTable.mem_dynamic`); there are sixty of them.

This module says what each call does at every table. `openFd` takes the least free dynamic
descriptor, and fails with the table as it was only when all of them are taken
(`DescriptorTable.place_cases`). `openReserved` takes 8 when it is free and refuses any other
descriptor (`Machine.run_openReserved_eq`). `closeFd` closes the device of a descriptor in use once
(`Machine.run_closeFd_eq`). Since none of them ever takes a descriptor below 3, the standard streams'
descriptors stay free over every sequence of calls (`Machine.TableCall.stdioFree_run`).
`Machine.descriptor_table_allocation` puts these together.
-/

namespace ThreadPlatform

theorem Fd.isReserved_eq (fd : Fd) : fd.isReserved = decide (fd.toNat = 8) := by
  unfold Fd.isReserved
  by_cases h : fd.toNat = 8
  · simp [h]
  · simp only [h, decide_false, Bool.and_eq_false_iff, decide_eq_false_iff_not]
    omega

namespace DescriptorTable

/-- A descriptor `place` may hand out: from 3 up, and not the reserved 8. -/
def Allocatable (fd : Fd) : Prop := 3 ≤ fd.toNat ∧ fd.toNat ≠ 8

/-- No device sits at a descriptor of the standard streams, 0 to 2. -/
def StdioFree (t : DescriptorTable) : Prop := ∀ fd : Fd, fd.toNat < 3 → t.slot fd = none

theorem dynamic_eq_filter :
    dynamic = FdSet.allFds.filter fun fd => 3 ≤ fd.toNat && !fd.isReserved := by
  decide

theorem mem_dynamic {fd : Fd} : fd ∈ dynamic ↔ Allocatable fd := by
  rw [dynamic_eq_filter, List.mem_filter]
  simp [FdSet.mem_allFds, Fd.isReserved_eq, Allocatable]

theorem dynamic_sorted : dynamic.Pairwise (· < ·) := by
  rw [dynamic_eq_filter]
  exact FdSet.allFds_sorted.filter _

/-- The first free descriptor of an ascending list is the least free one of the list. -/
theorem find?_free_least {t : DescriptorTable} :
    ∀ {l : List Fd} {fd : Fd}, l.Pairwise (· < ·) → l.find? (fun g => !t.isOpen g) = some fd →
      ∀ g ∈ l, g < fd → t.slot g ≠ none
  | [], _, _, hf => by cases hf
  | x :: l, fd, hs, hf => by
    rw [List.pairwise_cons] at hs
    intro g hg hlt
    cases hx : t.isOpen x with
    | false =>
      -- the head is free, so it is the answer, and nothing in the list lies below the head
      have hfd : x = fd := by simpa [hx] using hf
      subst hfd
      rcases List.mem_cons.1 hg with rfl | hg
      · exact absurd hlt (Nat.lt_irrefl _)
      · exact absurd (hs.1 g hg) (Nat.lt_asymm hlt)
    | true =>
      have hrest : l.find? (fun g => !t.isOpen g) = some fd := by simpa [hx] using hf
      rcases List.mem_cons.1 hg with rfl | hg
      · simpa [isOpen, Option.isSome_iff_ne_none] using hx
      · exact find?_free_least hs.2 hrest g hg hlt

/-- `place` takes the least free dynamic descriptor, or, when every dynamic descriptor is taken,
fails with `tableFull`. -/
theorem place_cases (t : DescriptorTable) (dev : DeviceId) :
    (∃ fd, Allocatable fd ∧ t.slot fd = none ∧
        (∀ g, Allocatable g → g.toNat < fd.toNat → t.slot g ≠ none) ∧
        t.place dev = .ok (fd, t.insert fd dev)) ∨
      ((∀ g, Allocatable g → t.slot g ≠ none) ∧ t.place dev = .error .tableFull) := by
  unfold place
  cases hf : dynamic.find? (fun fd => !t.isOpen fd) with
  | none =>
    refine .inr ⟨fun g hg => ?_, rfl⟩
    have hopen := List.find?_eq_none.1 hf g (mem_dynamic.2 hg)
    simpa [isOpen, Option.isSome_iff_ne_none] using hopen
  | some fd =>
    have hfree : t.slot fd = none := by simpa [isOpen] using List.find?_some hf
    refine .inl ⟨fd, mem_dynamic.1 (List.mem_of_find?_eq_some hf), hfree, fun g hg hlt => ?_, rfl⟩
    exact find?_free_least dynamic_sorted hf g (mem_dynamic.2 hg) hlt

/-- `placeReserved` takes descriptor 8 when it is free, and refuses any other descriptor. -/
theorem placeReserved_eq (t : DescriptorTable) (fd : Fd) (dev : DeviceId) :
    t.placeReserved fd dev =
      if fd.toNat ≠ 8 then .error (.badDescriptor fd)
      else if t.slot fd ≠ none then .error (.inUse fd)
      else .ok (t.insert fd dev) := by
  by_cases h8 : fd.toNat = 8
  · by_cases hfree : t.slot fd = none
    · simp [placeReserved, Fd.isReserved_eq, h8, isOpen, hfree]
    · simp [placeReserved, Fd.isReserved_eq, h8, isOpen, hfree, Option.isSome_iff_ne_none]
  · simp [placeReserved, Fd.isReserved_eq, h8]

theorem stdioFree_empty : StdioFree empty := fun _ _ => rfl

theorem StdioFree.insert {t : DescriptorTable} (h : StdioFree t) {fd : Fd} (hfd : 3 ≤ fd.toNat)
    (dev : DeviceId) : StdioFree (t.insert fd dev) := by
  intro g hg
  have hne : g ≠ fd := fun hgf => by subst hgf; omega
  simp [DescriptorTable.insert, hne, h g hg]

theorem StdioFree.erase {t : DescriptorTable} (h : StdioFree t) (fd : Fd) : StdioFree (t.erase fd) := by
  intro g hg
  by_cases hgf : g = fd
  · simp [DescriptorTable.erase, hgf]
  · simp [DescriptorTable.erase, hgf, h g hg]

end DescriptorTable

namespace Machine

open DescriptorTable

section Calls
variable (m : Machine)

theorem run_openFd_eq (dev : DeviceId) :
    (openFd dev).run m =
      match m.table.place dev with
      | .ok (fd, t) => (.ok fd, { m with table := t })
      | .error e => (.error e, m) := rfl

/-- `openReserved` takes descriptor 8 when it is free; it refuses any other descriptor, and 8 when
it is taken, leaving the machine as it was. -/
theorem run_openReserved_eq (fd : Fd) (dev : DeviceId) :
    (openReserved fd dev).run m =
      if fd.toNat ≠ 8 then (.error (.badDescriptor fd), m)
      else if m.table.slot fd ≠ none then (.error (.inUse fd), m)
      else (.ok fd, { m with table := m.table.insert fd dev }) := by
  simp only [openReserved, StateT.run_modifyGet, placeReserved_eq]
  split_ifs <;> rfl

/-- `closeFd` of a descriptor in use frees it and then runs the device's close once; any other
descriptor is refused with the machine as it was. -/
theorem run_closeFd_eq (fd : Fd) :
    (closeFd fd).run m =
      match m.table.slot fd with
      | some dev => (.ok (), ((deviceClose dev).run { m with table := m.table.erase fd }).2)
      | none => (.error (.badDescriptor fd), m) := by
  show Holds (closeFd fd) (fun r m' => (r, m') = _) m
  cases hs : m.table.slot fd <;>
    simp only [closeFd, remove, holds_bind, holds_get, hs, holds_modify, holds_pure] <;> rfl

theorem table_deviceClose (id : DeviceId) : ((deviceClose id).run m).2.table = m.table := by
  show Holds (deviceClose id) (fun _ m' => m'.table = m.table) m
  simp only [deviceClose, eventLine?, holds_bind, holds_device?]
  cases hd : m.devices[id]? with
  | none => rfl
  | some d => cases d <;> rfl

end Calls

/-- A call that changes the descriptor table. -/
inductive TableCall where
  | openFd (dev : DeviceId)
  | openReserved (fd : Fd) (dev : DeviceId)
  | closeFd (fd : Fd)
  deriving DecidableEq, Repr

namespace TableCall

/-- The machine after a call, whatever it answered. -/
def apply (m : Machine) : TableCall → Machine
  | .openFd dev => ((Machine.openFd dev).run m).2
  | .openReserved fd dev => ((Machine.openReserved fd dev).run m).2
  | .closeFd fd => ((Machine.closeFd fd).run m).2

/-- The machine after the calls, in order. -/
def run (m : Machine) (calls : List TableCall) : Machine := calls.foldl apply m

@[simp] theorem run_nil (m : Machine) : run m [] = m := rfl

@[simp] theorem run_cons (m : Machine) (c : TableCall) (calls : List TableCall) :
    run m (c :: calls) = run (apply m c) calls := rfl

/-- No call puts a device below descriptor 3. -/
theorem stdioFree_apply {m : Machine} (h : StdioFree m.table) (c : TableCall) :
    StdioFree (apply m c).table := by
  cases c with
  | openFd dev =>
    rcases place_cases m.table dev with ⟨fd, hfd, -, -, hplace⟩ | ⟨-, hplace⟩
    · simp only [apply, run_openFd_eq, hplace]
      exact h.insert hfd.1 dev
    · simpa only [apply, run_openFd_eq, hplace] using h
  | openReserved fd dev =>
    simp only [apply, run_openReserved_eq]
    split_ifs with h8
    · exact h
    · exact h
    · exact h.insert (by omega) dev
  | closeFd fd =>
    simp only [apply, run_closeFd_eq]
    split
    · rw [table_deviceClose]
      exact h.erase fd
    · exact h

theorem stdioFree_run {m : Machine} (h : StdioFree m.table) (calls : List TableCall) :
    StdioFree (run m calls).table := by
  induction calls generalizing m with
  | nil => exact h
  | cons c calls ih => exact ih (stdioFree_apply h c)

end TableCall

/-- Over any sequence of opens, reserved opens and closes from a table without the standard
streams, the table never gets a device below descriptor 3, and at every point: an open takes the
least free descriptor from 3 to 63 other than 8, or fails with the machine as it was exactly when
all of them are taken; a reserved open takes 8 when it is free and refuses any other descriptor,
and 8 when it is taken, with the machine as it was; a close of a descriptor in use frees it and
runs its device's close once, and a close of any other is refused with the machine as it was. -/
theorem descriptor_table_allocation {m₀ : Machine} (h₀ : StdioFree m₀.table) (calls : List TableCall) :
    let m := TableCall.run m₀ calls
    StdioFree m.table ∧
    (∀ dev, (∃ fd, Allocatable fd ∧ m.table.slot fd = none ∧
          (∀ g, Allocatable g → g.toNat < fd.toNat → m.table.slot g ≠ none) ∧
          (openFd dev).run m = (.ok fd, { m with table := m.table.insert fd dev })) ∨
        ((∀ g, Allocatable g → m.table.slot g ≠ none) ∧ (openFd dev).run m = (.error .tableFull, m))) ∧
    (∀ fd dev, (openReserved fd dev).run m =
      if fd.toNat ≠ 8 then (.error (.badDescriptor fd), m)
      else if m.table.slot fd ≠ none then (.error (.inUse fd), m)
      else (.ok fd, { m with table := m.table.insert fd dev })) ∧
    (∀ fd, (closeFd fd).run m =
      match m.table.slot fd with
      | some dev => (.ok (), ((deviceClose dev).run { m with table := m.table.erase fd }).2)
      | none => (.error (.badDescriptor fd), m)) := by
  intro m
  refine ⟨TableCall.stdioFree_run h₀ calls, fun dev => ?_, run_openReserved_eq m, run_closeFd_eq m⟩
  rcases place_cases m.table dev with ⟨fd, hfd, hfree, hleast, hplace⟩ | ⟨hfull, hplace⟩
  · exact .inl ⟨fd, hfd, hfree, hleast, by rw [run_openFd_eq, hplace]⟩
  · exact .inr ⟨hfull, by rw [run_openFd_eq, hplace]⟩

/-- Descriptor 3, freed after two opens and a reserved open, is the next one handed out. -/
theorem closed_descriptor_reused :
    let three : Fd := ⟨⟨3, by decide⟩⟩
    let m := TableCall.run Machine.empty [.openFd 0, .openFd 1, .openReserved Fd.reservedMin 2, .closeFd three]
    StdioFree Machine.empty.table ∧ ((openFd 3).run m).1 = .ok three := by
  intro three m
  have h3 : three.toNat = 3 := rfl
  have hdyn : Allocatable three := by unfold Allocatable; omega
  have hfree : m.table.slot three = none := by
    dsimp only [m, three]
    decide
  refine ⟨stdioFree_empty, ?_⟩
  rcases (@descriptor_table_allocation Machine.empty stdioFree_empty _).2.1 3 with
    ⟨fd, hfd, -, hleast, hrun⟩ | ⟨hfull, -⟩
  · -- three is free and dynamic, so the least free descriptor lies at or below it
    have hle : fd.toNat ≤ 3 := by
      by_contra hgt
      exact hleast three hdyn (by omega) hfree
    have hfd3 : fd = three := Fd.toNat_inj.1 (by have := hfd.1; omega)
    rw [hrun, hfd3]
  · exact absurd hfree (hfull three hdyn)

end Machine

end ThreadPlatform
