import ThreadPlatform.Status

/-!
# The settings store

Each key holds an ordered list of values; a key without values is absent. The
store outlives the platform, but refuses every access except `wipe` while the
platform is down (`initialized` false).
-/

namespace ThreadPlatform

/-- Values by key, and whether the store may be used. -/
structure SettingsStore where
  initialized : Bool
  values : Nat → List (List UInt8)

namespace SettingsStore

/-- An empty store, not yet usable. -/
def empty : SettingsStore := ⟨false, fun _ => []⟩

/-- The store with the values of `key` replaced. -/
def put (s : SettingsStore) (key : Nat) (vs : List (List UInt8)) : SettingsStore :=
  { s with values := fun k => if k = key then vs else s.values k }

/-- Fails unless the store is usable. -/
def ready (s : SettingsStore) : Except ThreadError Unit :=
  if s.initialized then .ok () else .error .failed

/-- Value `index` of `key`: its full length and its first `len` bytes. -/
def get (s : SettingsStore) (key index len : Nat) : Except ThreadError (Nat × List UInt8) := do
  s.ready
  match (s.values key)[index]? with
  | some v => return (v.length, v.take len)
  | none => throw .notFound

/-- Makes `v` the only value of `key`. -/
def set (s : SettingsStore) (key : Nat) (v : List UInt8) : Except ThreadError SettingsStore := do
  s.ready
  return s.put key [v]

/-- Appends `v` to the values of `key`. -/
def add (s : SettingsStore) (key : Nat) (v : List UInt8) : Except ThreadError SettingsStore := do
  s.ready
  return s.put key (s.values key ++ [v])

/-- Deletes value `index` of `key`, or all its values for `none`. -/
def delete (s : SettingsStore) (key : Nat) (index : Option Nat) : Except ThreadError SettingsStore := do
  s.ready
  let vs := s.values key
  if vs.isEmpty then throw .notFound
  match index with
  | none => return s.put key []
  | some i => if i < vs.length then return s.put key (vs.eraseIdx i) else throw .notFound

/-- Forgets every value. -/
def wipe (s : SettingsStore) : SettingsStore := { s with values := fun _ => [] }

theorem get_set (s s' : SettingsStore) (key : Nat) (v : List UInt8) (len : Nat)
    (h : s.set key v = .ok s') : s'.get key 0 len = .ok (v.length, v.take len) := by
  unfold set ready at h
  split at h
  · simp only [pure, Except.pure, bind, Except.bind, Except.ok.injEq] at h
    subst h
    simp_all [get, ready, put] <;> rfl
  · cases h

end SettingsStore

end ThreadPlatform
