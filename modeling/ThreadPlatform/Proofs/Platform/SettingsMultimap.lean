import ThreadPlatform.Platform.Settings
/-!
# The settings store is a multimap

Every call on the settings store, through any handle of it, is a `Call`: bringing it up or down,
reading a value, replacing, appending or deleting values, and wiping it. `SettingsStore.step`
gives what a call answers and the store after it; a call that fails leaves the store as it was,
as every caller keeps the store it had.

`Multimap` is the store as its users see it: whether it may be used, and for each key present
the list of its values. `Multimap.step` is the behaviour the store promises: `set` makes the value
the key's only one, `add` appends it, `delete` removes the key or one of its values (and the key
with its last value), `wipe` empties the map even while the store is down, and every other access
fails while it is down.

Main statements:

* `Multimap.noEmpty_run`: no key of the multimap ever holds an empty list, whatever the calls;
  `delete` removing the key with its last value is what keeps it so.
* `SettingsStore.run_refines`: from any store that stands for a multimap, every history of
  calls answers as the multimap does and leaves a store that stands for the multimap's.
* `SettingsStore.store_refines_multimap`: so from the empty store a board starts with.
-/

namespace ThreadPlatform

namespace SettingsStore

/-- A call on the settings store. -/
inductive Call where
  | init
  | deinit
  | get (key index len : Nat)
  | set (key : Nat) (v : List UInt8)
  | add (key : Nat) (v : List UInt8)
  | delete (key : Nat) (index : Option Nat)
  | wipe
  deriving DecidableEq, Repr

/-- What a call answers: done, a value's full length with the bytes copied of it, or an error. -/
inductive Answer where
  | done
  | value (full : Nat) (bytes : List UInt8)
  | error (e : ThreadError)
  deriving DecidableEq, Repr

/-- The answer of a call that changes the store, and the store after it. -/
def settle (s : SettingsStore) : Except ThreadError SettingsStore → Answer × SettingsStore
  | .ok s' => (.done, s')
  | .error e => (.error e, s)

/-- A call on the store: its answer and the store after it. -/
def step (s : SettingsStore) : Call → Answer × SettingsStore
  | .init => (.done, { s with initialized := true })
  | .deinit => (.done, { s with initialized := false })
  | .get key index len =>
    match s.get key index len with
    | .ok (full, bytes) => (.value full bytes, s)
    | .error e => (.error e, s)
  | .set key v => settle s (s.set key v)
  | .add key v => settle s (s.add key v)
  | .delete key index => settle s (s.delete key index)
  | .wipe => (.done, s.wipe)

/-- The answers to calls made one after another, and the store after them. -/
def run (s : SettingsStore) : List Call → List Answer × SettingsStore
  | [] => ([], s)
  | c :: cs =>
    let r := (s.step c).2.run cs
    ((s.step c).1 :: r.1, r.2)

end SettingsStore

open SettingsStore (Call Answer)

/-- The settings as their users see them: whether the store may be used, and the values of each
key present. -/
structure Multimap where
  up : Bool
  entries : Nat → Option (List (List UInt8))

namespace Multimap

/-- No key, and a store that is down. -/
def empty : Multimap := ⟨false, fun _ => none⟩

/-- The map with key `key` given `e`. -/
def update (M : Multimap) (key : Nat) (e : Option (List (List UInt8))) : Multimap :=
  { M with entries := fun k => if k = key then e else M.entries k }

/-- What a call promises, and the map after it. -/
def step (M : Multimap) : Call → Answer × Multimap
  | .init => (.done, { M with up := true })
  | .deinit => (.done, { M with up := false })
  | .wipe => (.done, { M with entries := fun _ => none })
  | .get key index len =>
    if M.up then
      match (M.entries key).bind (·[index]?) with
      | some v => (.value v.length (v.take len), M)
      | none => (.error .notFound, M)
    else (.error .failed, M)
  | .set key v => if M.up then (.done, M.update key (some [v])) else (.error .failed, M)
  | .add key v =>
    if M.up then (.done, M.update key (some ((M.entries key).getD [] ++ [v])))
    else (.error .failed, M)
  | .delete key none =>
    if M.up then
      match M.entries key with
      | some _ => (.done, M.update key none)
      | none => (.error .notFound, M)
    else (.error .failed, M)
  | .delete key (some i) =>
    if M.up then
      match M.entries key with
      | some vs =>
        if i < vs.length then
          (.done, M.update key (if vs.eraseIdx i = [] then none else some (vs.eraseIdx i)))
        else (.error .notFound, M)
      | none => (.error .notFound, M)
    else (.error .failed, M)

/-- The answers to calls made one after another, and the map after them. -/
def run (M : Multimap) : List Call → List Answer × Multimap
  | [] => ([], M)
  | c :: cs =>
    let r := (M.step c).2.run cs
    ((M.step c).1 :: r.1, r.2)

/-- No key holds an empty list of values. -/
def NoEmpty (M : Multimap) : Prop := ∀ k, M.entries k ≠ some []

@[simp] theorem update_entries (M : Multimap) (key k : Nat) (e : Option (List (List UInt8))) :
    (M.update key e).entries k = if k = key then e else M.entries k := rfl

@[simp] theorem update_up (M : Multimap) (key : Nat) (e : Option (List (List UInt8))) :
    (M.update key e).up = M.up := rfl

theorem noEmpty_empty : empty.NoEmpty := fun _ h => by cases h

theorem NoEmpty.update {M : Multimap} (hM : M.NoEmpty) (key : Nat) {e : Option (List (List UInt8))}
    (he : e ≠ some []) : (M.update key e).NoEmpty := by
  intro k
  simp only [update_entries]
  split
  · exact he
  · exact hM k

/-- Every call keeps every key's list non-empty: `set` and `add` leave a value in it, and
`delete` drops the key with its last value. -/
theorem noEmpty_step {M : Multimap} (hM : M.NoEmpty) (c : Call) : (M.step c).2.NoEmpty := by
  cases c with
  | init => exact hM
  | deinit => exact hM
  | wipe => exact fun _ h => by cases h
  | get key index len =>
    simp only [step]
    split
    · split <;> exact hM
    · exact hM
  | set key v =>
    simp only [step]
    split
    · exact hM.update key (by simp)
    · exact hM
  | add key v =>
    simp only [step]
    split
    · exact hM.update key (by simp)
    · exact hM
  | delete key index =>
    cases index with
    | none =>
      simp only [step]
      split
      · split
        · exact hM.update key (by simp)
        · exact hM
      · exact hM
    | some i =>
      simp only [step]
      split
      · split
        · split
          · exact hM.update key (by split <;> simp_all)
          · exact hM
        · exact hM
      · exact hM

theorem run_nil (M : Multimap) : M.run [] = ([], M) := rfl

theorem run_cons (M : Multimap) (c : Call) (cs : List Call) :
    M.run (c :: cs) = ((M.step c).1 :: ((M.step c).2.run cs).1, ((M.step c).2.run cs).2) := rfl

/-- Whatever the calls, no key ever holds an empty list. -/
theorem noEmpty_run {M : Multimap} (hM : M.NoEmpty) (calls : List Call) : (M.run calls).2.NoEmpty := by
  induction calls generalizing M with
  | nil => exact hM
  | cons c cs ih => exact ih (noEmpty_step hM c)

end Multimap

namespace SettingsStore

/-- The store stands for the multimap `M`: the same flag, and each key's values are those `M`
holds for it, none for a key it lacks. -/
structure Abstracts (s : SettingsStore) (M : Multimap) : Prop where
  up : s.initialized = M.up
  values : ∀ k, s.values k = (M.entries k).getD []

theorem abstracts_empty : Abstracts empty Multimap.empty := ⟨rfl, fun _ => rfl⟩

section Step
variable {s : SettingsStore} {M : Multimap}

@[simp] theorem put_values (s : SettingsStore) (key k : Nat) (vs : List (List UInt8)) :
    (s.put key vs).values k = if k = key then vs else s.values k := rfl

@[simp] theorem put_initialized (s : SettingsStore) (key : Nat) (vs : List (List UInt8)) :
    (s.put key vs).initialized = s.initialized := rfl

theorem ready_bind_up {α : Type} (h : s.initialized = true) (f : Unit → Except ThreadError α) :
    s.ready >>= f = f () := by
  simp [ready, h, bind, Except.bind]

theorem ready_bind_down {α : Type} (h : s.initialized = false) (f : Unit → Except ThreadError α) :
    s.ready >>= f = .error .failed := by
  simp [ready, h, bind, Except.bind]

/-! ### Each operation of a store that is up -/

theorem get_up (h : s.initialized = true) (key index len : Nat) :
    s.get key index len =
      match (s.values key)[index]? with
      | some v => .ok (v.length, v.take len)
      | none => .error .notFound := by
  simp only [get, ready_bind_up h]
  cases (s.values key)[index]? <;> rfl

theorem set_up (h : s.initialized = true) (key : Nat) (v : List UInt8) :
    s.set key v = .ok (s.put key [v]) := by
  simp only [set, ready_bind_up h]; rfl

theorem add_up (h : s.initialized = true) (key : Nat) (v : List UInt8) :
    s.add key v = .ok (s.put key (s.values key ++ [v])) := by
  simp only [add, ready_bind_up h]; rfl

theorem delete_up_absent (h : s.initialized = true) {key : Nat} (hk : s.values key = [])
    (index : Option Nat) : s.delete key index = .error .notFound := by
  simp only [delete, ready_bind_up h, hk]; rfl

theorem delete_up_all (h : s.initialized = true) {key : Nat} (hk : s.values key ≠ []) :
    s.delete key none = .ok (s.put key []) := by
  simp only [delete, ready_bind_up h, List.isEmpty_eq_false_iff.2 hk, Bool.false_eq_true,
    if_false]
  rfl

theorem delete_up_one (h : s.initialized = true) {key : Nat} (hk : s.values key ≠ []) (i : Nat) :
    s.delete key (some i) =
      if i < (s.values key).length then .ok (s.put key ((s.values key).eraseIdx i))
      else .error .notFound := by
  simp only [delete, ready_bind_up h, List.isEmpty_eq_false_iff.2 hk, Bool.false_eq_true,
    if_false]
  split <;> rfl

/-! ### Calls and the multimap -/

/-- Putting a list on a key is updating the multimap, a key without values being absent. -/
theorem Abstracts.put (h : Abstracts s M) (key : Nat) (e : Option (List (List UInt8))) :
    Abstracts (s.put key (e.getD [])) (M.update key e) := by
  refine ⟨h.up, fun k => ?_⟩
  simp only [put_values, Multimap.update_entries]
  split
  · rfl
  · exact h.values k

/-- A key is absent from the multimap exactly when the store holds no value for it. -/
theorem Abstracts.values_eq_nil (h : Abstracts s M) (hM : M.NoEmpty) (key : Nat) :
    s.values key = [] ↔ M.entries key = none := by
  rw [h.values key]
  cases he : M.entries key with
  | none => simp
  | some vs =>
    have hne : vs ≠ [] := fun hvs => hM key (hvs ▸ he)
    simpa using hne

/-- Whether a call reads or changes the values, which a store that is down refuses. -/
def Call.needsUp : Call → Bool
  | .init | .deinit | .wipe => false
  | _ => true

/-- Bringing the store up or down and wiping it answer alike whether it is up or not. -/
theorem step_flag (h : Abstracts s M) (c : Call) (hc : c.needsUp = false) :
    (s.step c).1 = (M.step c).1 ∧ Abstracts (s.step c).2 (M.step c).2 := by
  cases c with
  | init => exact ⟨rfl, ⟨rfl, h.values⟩⟩
  | deinit => exact ⟨rfl, ⟨rfl, h.values⟩⟩
  | wipe => exact ⟨rfl, ⟨h.up, fun _ => rfl⟩⟩
  | _ => cases hc

/-- A store that is down refuses every other call, with `failed`, and keeps what it holds. -/
theorem step_down (h : Abstracts s M) (hdown : s.initialized = false) (c : Call)
    (hc : c.needsUp = true) :
    (s.step c).1 = .error .failed ∧ (s.step c).2 = s ∧ (M.step c).1 = .error .failed ∧
      (M.step c).2 = M := by
  have hMdown : M.up = false := h.up ▸ hdown
  cases c with
  | get key index len => simp [step, get, ready_bind_down hdown, Multimap.step, hMdown]
  | set key v => simp [step, set, settle, ready_bind_down hdown, Multimap.step, hMdown]
  | add key v => simp [step, add, settle, ready_bind_down hdown, Multimap.step, hMdown]
  | delete key index =>
    cases index <;> simp [step, delete, settle, ready_bind_down hdown, Multimap.step, hMdown]
  | _ => cases hc

/-- One call on a store that is up answers as the multimap does, and the store after it stands
for the multimap after it. -/
theorem step_up (h : Abstracts s M) (hM : M.NoEmpty) (hup : s.initialized = true) (c : Call) :
    (s.step c).1 = (M.step c).1 ∧ Abstracts (s.step c).2 (M.step c).2 := by
  have hMup : M.up = true := h.up ▸ hup
  cases c with
  | get key index len =>
    simp only [step, get_up hup, Multimap.step, hMup, if_true, h.values key]
    cases M.entries key with
    | none => exact ⟨rfl, h⟩
    | some vs =>
      simp only [Option.getD_some, Option.bind_some]
      cases vs[index]? <;> exact ⟨rfl, h⟩
  | set key v =>
    simp only [step, set_up hup, settle, Multimap.step, hMup, if_true, true_and]
    exact h.put key (some [v])
  | add key v =>
    simp only [step, add_up hup, settle, Multimap.step, hMup, if_true, h.values key, true_and]
    exact h.put key (some _)
  | delete key index =>
    have hnil := h.values_eq_nil hM key
    cases he : M.entries key with
    | none =>
      -- an absent key: both refuse, whichever values were asked for
      have hs := delete_up_absent hup (hnil.2 he) index
      cases index <;> simp only [step, hs, settle, Multimap.step, hMup, if_true, he, true_and] <;>
        exact h
    | some vs =>
      have hne : s.values key ≠ [] := fun h' => by simp [hnil.1 h'] at he
      have hvs : s.values key = vs := by simp [h.values key, he]
      cases index with
      | none =>
        simp only [step, delete_up_all hup hne, settle, Multimap.step, hMup, if_true, he, true_and]
        exact h.put key none
      | some i =>
        simp only [step, delete_up_one hup hne, hvs, Multimap.step, hMup, if_true, he]
        split
        · -- the value goes, and the key with it when it was the last one
          simp only [settle, true_and]
          by_cases hlast : vs.eraseIdx i = []
          · rw [if_pos hlast, hlast]
            exact h.put key none
          · rw [if_neg hlast]
            exact h.put key (some _)
        · exact ⟨rfl, h⟩
  | _ => exact step_flag h _ rfl

/-- Every call answers as the multimap does, and the store after it stands for the multimap
after it. -/
theorem step_refines (h : Abstracts s M) (hM : M.NoEmpty) (c : Call) :
    (s.step c).1 = (M.step c).1 ∧ Abstracts (s.step c).2 (M.step c).2 := by
  cases hup : s.initialized
  · cases hc : c.needsUp
    · exact step_flag h c hc
    · obtain ⟨hs, hs', hm, hm'⟩ := step_down h hup c hc
      rw [hs, hs', hm, hm']
      exact ⟨rfl, h⟩
  · exact step_up h hM hup c

end Step

theorem run_nil (s : SettingsStore) : s.run [] = ([], s) := rfl

theorem run_cons (s : SettingsStore) (c : Call) (cs : List Call) :
    s.run (c :: cs) = ((s.step c).1 :: ((s.step c).2.run cs).1, ((s.step c).2.run cs).2) := rfl

/-- Every history of calls on a store that stands for a multimap answers as the multimap does,
and ends in a store that stands for the multimap it ends in. -/
theorem run_refines {s : SettingsStore} {M : Multimap} (h : Abstracts s M) (hM : M.NoEmpty)
    (calls : List Call) : (s.run calls).1 = (M.run calls).1 ∧ Abstracts (s.run calls).2 (M.run calls).2 := by
  induction calls generalizing s M with
  | nil => exact ⟨rfl, h⟩
  | cons c cs ih =>
    obtain ⟨hans, hstep⟩ := step_refines h hM c
    obtain ⟨hrest, hend⟩ := ih hstep (Multimap.noEmpty_step hM c)
    rw [run_cons, Multimap.run_cons, hans, hrest]
    exact ⟨rfl, hend⟩

/-- From the empty store a board starts with, the settings behave as a multimap under every
history of calls: each call answers as `Multimap.step` promises, the store's values are the
multimap's, and no key ever holds an empty list. -/
theorem store_refines_multimap (calls : List Call) :
    (empty.run calls).1 = (Multimap.empty.run calls).1 ∧
      Abstracts (empty.run calls).2 (Multimap.empty.run calls).2 ∧
      (Multimap.empty.run calls).2.NoEmpty :=
  ⟨(run_refines abstracts_empty Multimap.noEmpty_empty calls).1,
    (run_refines abstracts_empty Multimap.noEmpty_empty calls).2,
    Multimap.noEmpty_run Multimap.noEmpty_empty calls⟩

end SettingsStore

end ThreadPlatform
