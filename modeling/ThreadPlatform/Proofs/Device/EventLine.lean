import ThreadPlatform.Device.EventLine
import Mathlib.Data.List.Induction
/-!
# What a read of the wake device counts

Every call on the wake event device, in order, is a `Call`: opening it, an activation (or a write
through its descriptor, which is the same), a read, closing it, and a `select` registering with it
or forgetting it. A call the device refuses (opening it while open, activating or reading it while
closed) leaves it as it was.

Activations coalesce, and only a read, an open or a close forgets them. The main result,
`read_run_new`, says so of every history of a device built closed: a read answers 1 exactly when
an activation hit the open device and no read or close came after it (`Hit`), 0 when the device is
open and none did, and refuses when the device is closed. An open after the activation needs no
mention: the device is still open then, so the open is refused.
-/

namespace ThreadPlatform

namespace EventLine

/-- A call on the wake event device. -/
inductive Call where
  | openDevice
  | activate
  | read
  | close
  | watch (on : Bool)
  deriving DecidableEq, Repr

/-- The device after a call; a refused call leaves it as it was. -/
def apply (e : EventLine) : Call → EventLine
  | .openDevice =>
    match e.openDevice with
    | .ok e' => e'
    | .error _ => e
  | .activate =>
    match e.signal with
    | .ok e' => e'
    | .error _ => e
  | .read => e.read.2
  | .close => e.closeDevice
  | .watch on => { e with watched := on }

/-- The device after the calls, in order. -/
def run (e : EventLine) (calls : List Call) : EventLine := calls.foldl apply e

/-- An activation in `calls` hit the device while it was open, and neither a read nor a close
came after it. -/
def Hit (e : EventLine) (calls : List Call) : Prop :=
  ∃ pre post, calls = pre ++ .activate :: post ∧ (e.run pre).isOpen = true ∧
    Call.read ∉ post ∧ Call.close ∉ post

section Calls
variable {e : EventLine} {c : Call} {calls : List Call}

@[simp] theorem run_nil (e : EventLine) : e.run [] = e := rfl

@[simp] theorem run_cons (e : EventLine) (c : Call) (calls : List Call) :
    e.run (c :: calls) = (e.apply c).run calls := rfl

@[simp] theorem run_append_singleton (e : EventLine) (calls : List Call) (c : Call) :
    e.run (calls ++ [c]) = (e.run calls).apply c := by
  simp [run, List.foldl_append]

theorem run_append (e : EventLine) (l₁ l₂ : List Call) : e.run (l₁ ++ l₂) = (e.run l₁).run l₂ := by
  simp [run, List.foldl_append]

/-- What each call does to the pending activation. -/
theorem pending_apply (e : EventLine) (c : Call) :
    (e.apply c).pending =
      match c with
      | .openDevice => if e.isOpen then e.pending else false
      | .activate => if e.isOpen then true else e.pending
      | .read => if e.isOpen then false else e.pending
      | .close => false
      | .watch _ => e.pending := by
  cases c <;> cases ho : e.isOpen <;>
    simp [apply, openDevice, signal, read, closeDevice, ho]

/-- Only a close closes the device. -/
theorem isOpen_apply (he : e.isOpen = true) (hc : c ≠ .close) : (e.apply c).isOpen = true := by
  cases c with
  | openDevice => simp [apply, openDevice, he]
  | activate => simp [apply, signal, he]
  | read => simp [apply, read, he]
  | close => exact absurd rfl hc
  | watch on => exact he

theorem isOpen_run (he : e.isOpen = true) (hc : Call.close ∉ calls) : (e.run calls).isOpen = true := by
  induction calls generalizing e with
  | nil => exact he
  | cons c rest ih =>
    have hne : c ≠ .close := fun h => hc (h ▸ List.mem_cons_self)
    exact ih (isOpen_apply he hne) fun h => hc (List.mem_cons_of_mem c h)

/-- A device that an activation hit is open: no close came after it. -/
theorem Hit.isOpen (h : Hit e calls) : (e.run calls).isOpen = true := by
  obtain ⟨pre, post, rfl, hopen, -, hclose⟩ := h
  rw [run_append, run_cons]
  have hact : ((e.run pre).apply .activate).isOpen = true := isOpen_apply hopen (by decide)
  exact isOpen_run hact hclose

/-- A hit in a longer history is the last call, an activation of the open device, or a hit of the
shorter one that the last call neither reads nor closes. -/
theorem hit_append_singleton :
    Hit e (calls ++ [c]) ↔
      (c = .activate ∧ (e.run calls).isOpen = true) ∨ (Hit e calls ∧ c ≠ .read ∧ c ≠ .close) := by
  constructor
  · rintro ⟨pre, post, hsplit, hopen, hread, hclose⟩
    rcases List.eq_nil_or_concat post with rfl | ⟨post', c', rfl⟩
    · -- the activation is the last call
      obtain ⟨rfl, hc⟩ := List.append_inj' hsplit rfl
      simp only [List.cons.injEq, and_true] at hc
      exact .inl ⟨hc, hopen⟩
    · -- the activation is earlier, and the last call comes after it
      rw [List.concat_eq_append, ← List.cons_append, ← List.append_assoc] at hsplit
      obtain ⟨hcalls, hc⟩ := List.append_inj' hsplit rfl
      simp only [List.cons.injEq, and_true] at hc
      subst hc
      simp only [List.concat_eq_append, List.mem_append, List.mem_singleton, not_or] at hread hclose
      exact .inr ⟨⟨pre, post', hcalls, hopen, hread.1, hclose.1⟩, fun h => hread.2 h.symm,
        fun h => hclose.2 h.symm⟩
  · rintro (⟨rfl, hopen⟩ | ⟨⟨pre, post, rfl, hopen, hread, hclose⟩, hr, hcl⟩)
    · exact ⟨calls, [], rfl, hopen, List.not_mem_nil, List.not_mem_nil⟩
    · refine ⟨pre, post ++ [c], by simp, hopen, ?_, ?_⟩
      · simp only [List.mem_append, List.mem_singleton, not_or]
        exact ⟨hread, fun h => hr h.symm⟩
      · simp only [List.mem_append, List.mem_singleton, not_or]
        exact ⟨hclose, fun h => hcl h.symm⟩

end Calls

/-- A device with nothing pending has an activation pending after the calls exactly when one of
them hit it. The induction runs over the calls from the last; each case is one call. -/
theorem pending_run_iff {e : EventLine} (he : e.pending = false) (calls : List Call) :
    (e.run calls).pending = true ↔ Hit e calls := by
  induction calls using List.reverseRecOn with
  | nil =>
    simp only [run_nil, he, Bool.false_eq_true, false_iff]
    rintro ⟨pre, post, hsplit, -⟩
    simp at hsplit
  | append_singleton calls c ih =>
    rw [hit_append_singleton, run_append_singleton, pending_apply]
    have hopen : Hit e calls → (e.run calls).isOpen = true := Hit.isOpen
    cases c with
    | openDevice =>
      cases ho : (e.run calls).isOpen
      · -- opening a closed device clears it, and nothing hit a closed device
        simp only [Bool.false_eq_true, if_false, reduceCtorEq, ne_eq, not_false_eq_true, and_self,
          and_true, false_or]
        exact ⟨nofun, fun h => absurd (hopen h) (by simp [ho])⟩
      · simpa using ih
    | activate =>
      cases ho : (e.run calls).isOpen
      · simpa using ih
      · simp
    | read =>
      cases ho : (e.run calls).isOpen
      · simp only [Bool.false_eq_true, if_false, reduceCtorEq, false_and, ne_eq, not_true_eq_false,
          and_false, or_self, iff_false]
        exact fun h => absurd (hopen (ih.1 h)) (by simp [ho])
      · simp
    | close => simp
    | watch on => simpa using ih

/-- A read of the wake device, built closed, answers 1 exactly when an activation hit it and no
read or close came after, 0 when it is open and none did, and refuses while it is closed. -/
theorem read_run_new (calls : List Call) :
    ((new.run calls).read.1 = .ok 1 ↔ Hit new calls) ∧
    ((new.run calls).read.1 = .ok 0 ↔ (new.run calls).isOpen = true ∧ ¬ Hit new calls) ∧
    ((new.run calls).isOpen = false → (new.run calls).read.1 = .error (.error .closed)) := by
  have hp := pending_run_iff (e := new) rfl calls
  refine ⟨?_, ?_, ?_⟩
  · cases ho : (new.run calls).isOpen
    · simp only [read, ho, Bool.false_eq_true, if_false, reduceCtorEq, false_iff]
      exact fun h => absurd h.isOpen (by simp [ho])
    · cases hq : (new.run calls).pending <;> simp_all [read]
  · cases ho : (new.run calls).isOpen
    · simp [read, ho]
    · cases hq : (new.run calls).pending <;> simp_all [read]
  · intro ho
    simp [read, ho]

end EventLine

end ThreadPlatform
