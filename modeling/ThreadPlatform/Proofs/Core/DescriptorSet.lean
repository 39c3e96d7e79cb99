import Mathlib
import ThreadPlatform.Core.Descriptor
/-!
# Descriptor sets and their iteration

A descriptor set is a 64-bit mask, and its members are the descriptors whose bit is set
(`FdSet.contains_eq`). Inserting, removing, joining and meeting change the members as the
finite-set operations of the same names do (`FdSet.members`).

An iteration yields the members lowest first. Its step reads the trailing zero count `k` of the
mask `b` that is left: no bit below `k` is set and bit `k` is, so `b = 2 ^ (k + 1) * q + 2 ^ k`,
and `b &&& (b - 1)` is `b` with just bit `k` cleared (`FdSetIter.getLsbD_and_sub_one`). So a
step yields the lowest member and keeps the others (`FdSetIter.next_eq_some`), and the number of
set bits drops by one (`BitVec.cpopNatRec_clear`), which is why the iteration ends. Along the
whole iteration, by induction on its steps: it yields the members (`FdSetIter.mem_toList`),
strictly ascending (`FdSetIter.toList_sorted`), as many as the mask has set bits
(`FdSetIter.length_toList`). An iteration over a set therefore lists its members in the order of
`FdSet.toList` (`FdSet.iter_toList`), which is the order in which `select` looks them up.
-/

namespace ThreadPlatform

theorem Fd.toNat_inj {g fd : Fd} : g.toNat = fd.toNat ↔ g = fd := by
  cases g
  cases fd
  simp [Fd.toNat, Fin.val_inj]

namespace FdSet

theorem getLsbD_bit (g : Fd) (i : Nat) : (bit g).toBitVec.getLsbD i = decide (g.toNat = i) := by
  have hg : g.toNat < 64 := g.raw.isLt
  simp only [bit, UInt64.toBitVec_shiftLeft]
  simp [Nat.mod_eq_of_lt hg]
  by_cases h : g.toNat = i
  · subst h
    simp [hg]
  · simp [h]
    omega

/-- Membership is the descriptor's bit of the mask. -/
theorem contains_eq (s : FdSet) (fd : Fd) : s.contains fd = s.bits.toBitVec.getLsbD fd.toNat := by
  have hand : (s.bits &&& bit fd).toBitVec.getLsbD fd.toNat = s.bits.toBitVec.getLsbD fd.toNat := by
    simp [getLsbD_bit]
  unfold contains
  cases h : s.bits.toBitVec.getLsbD fd.toNat
  · -- the descriptor's bit is clear, so the mask shares no bit with `bit fd`
    have hzero : s.bits &&& bit fd = 0 := by
      apply UInt64.toBitVec_inj.1
      apply BitVec.eq_of_getLsbD_eq
      intro i _
      simp only [UInt64.toBitVec_and, BitVec.getLsbD_and, getLsbD_bit, UInt64.toBitVec_zero,
        BitVec.getLsbD_zero]
      by_cases hi : fd.toNat = i
      · subst hi
        simp [h]
      · simp [hi]
    simp [hzero]
  · have hne : s.bits &&& bit fd ≠ 0 := by
      intro h0
      rw [h0] at hand
      simp [h] at hand
    simp [hne]

@[simp] theorem contains_empty (fd : Fd) : empty.contains fd = false := by
  simp [contains_eq, empty]

theorem contains_insert (s : FdSet) (g fd : Fd) :
    (s.insert g).contains fd = (s.contains fd || decide (g = fd)) := by
  simp [contains_eq, insert, getLsbD_bit, Fd.toNat_inj]

theorem contains_erase (s : FdSet) (g fd : Fd) :
    (s.erase g).contains fd = (s.contains fd && !decide (g = fd)) := by
  have hfd : fd.toNat < 64 := fd.raw.isLt
  simp only [contains_eq, erase, UInt64.toBitVec_and, UInt64.toBitVec_not, BitVec.getLsbD_and,
    BitVec.getLsbD_not, getLsbD_bit, Fd.toNat_inj, hfd, decide_true, Bool.true_and]

theorem contains_union (s t : FdSet) (fd : Fd) : (s.union t).contains fd = (s.contains fd || t.contains fd) := by
  simp [contains_eq, union]

theorem contains_inter (s t : FdSet) (fd : Fd) : (s.inter t).contains fd = (s.contains fd && t.contains fd) := by
  simp [contains_eq, inter]

theorem bit_ne_zero (fd : Fd) : bit fd ≠ 0 := by
  have h : ∀ i : Fin 64, bit ⟨i⟩ ≠ 0 := by decide
  exact h fd.raw

theorem contains_insert_self (s : FdSet) (fd : Fd) : (s.insert fd).contains fd = true := by
  have hand : (s.bits ||| bit fd) &&& bit fd = bit fd := by
    apply UInt64.toBitVec_inj.1
    ext i hi
    simp only [UInt64.toBitVec_and, UInt64.toBitVec_or, BitVec.getElem_and, BitVec.getElem_or]
    cases (bit fd).toBitVec[i] <;> simp
  simp only [contains, insert, hand, bne_iff_ne, ne_eq]
  exact bit_ne_zero fd

theorem contains_insert_of_contains {s : FdSet} {fd : Fd} (g : Fd) (h : s.contains fd = true) :
    (s.insert g).contains fd = true := by
  simp only [contains, insert, bne_iff_ne, ne_eq] at h ⊢
  intro hzero
  apply h
  apply UInt64.toBitVec_inj.1
  apply BitVec.eq_of_getElem_eq
  intro i hi
  have hbit := congrArg (fun z : UInt64 => z.toBitVec[i]) hzero
  simp only [UInt64.toBitVec_and, UInt64.toBitVec_or, BitVec.getElem_and, BitVec.getElem_or,
    UInt64.toBitVec_zero, BitVec.getElem_zero] at hbit ⊢
  cases hs : s.bits.toBitVec[i] <;> simp_all

theorem mem_allFds (fd : Fd) : fd ∈ allFds :=
  List.mem_map.2 ⟨fd.raw, List.mem_finRange _, rfl⟩

theorem allFds_sorted : allFds.Pairwise (· < ·) := by
  unfold allFds
  rw [List.pairwise_map]
  exact (List.pairwise_lt_finRange 64).imp fun h => h

/-- The members come in ascending order. -/
theorem toList_sorted (s : FdSet) : s.toList.Pairwise (· < ·) :=
  allFds_sorted.filter _

theorem mem_toList {s : FdSet} {fd : Fd} : fd ∈ s.toList ↔ s.contains fd = true := by
  simp [toList, mem_allFds]

theorem size_pos_of_contains {s : FdSet} {fd : Fd} (h : s.contains fd = true) : 0 < s.size :=
  List.length_pos_of_mem (List.mem_filter.2 ⟨mem_allFds fd, h⟩)

end FdSet

/-- Clearing one set bit below `n` takes one from the number of set bits below `n`. -/
theorem BitVec.cpopNatRec_clear {w k : Nat} {x y : BitVec w} (hk : x.getLsbD k = true)
    (hy : ∀ i, y.getLsbD i = (x.getLsbD i && decide (i ≠ k))) :
    ∀ n, k < n → y.cpopNatRec n 0 + 1 = x.cpopNatRec n 0 := by
  have hsucc : ∀ (z : BitVec w) n, z.cpopNatRec (n + 1) 0 = z.cpopNatRec n 0 + (z.getLsbD n).toNat :=
    fun z n => by rw [BitVec.cpopNatRec_succ, Nat.zero_add, BitVec.cpopNatRec_eq]
  -- below `k` the two masks agree, so their counts up to `k` agree
  have hbelow : ∀ n, n ≤ k → y.cpopNatRec n 0 = x.cpopNatRec n 0 := by
    intro n hn
    induction n with
    | zero => rfl
    | succ n ih =>
      rw [hsucc, hsucc, ih (by omega), hy n]
      simp [show n ≠ k by omega]
  intro n hn
  induction n with
  | zero => omega
  | succ n ih =>
    rw [hsucc, hsucc, hy n]
    rcases Nat.lt_or_ge k n with hlt | hge
    · rw [← ih hlt]
      simp [show n ≠ k by omega]
      omega
    · obtain rfl : n = k := by omega
      simp [hbelow n le_rfl, hk]

namespace FdSetIter

theorem getLsbD_toBitVec (b : UInt64) (i : Nat) : b.toBitVec.getLsbD i = b.toNat.testBit i := by
  rw [← BitVec.testBit_toNat, UInt64.toNat_toBitVec]

theorem getLsbD_ctz {b : UInt64} (h : b ≠ 0) : b.toBitVec.getLsbD b.toBitVec.ctz.toNat = true :=
  BitVec.getLsbD_true_ctz_of_ne_zero fun h0 => h (UInt64.toBitVec_inj.1 h0)

/-- A number whose lowest set bit is `k` is its bits above `k`, then `2 ^ k`. -/
theorem eq_lowest_bit {m k : Nat} (hbelow : ∀ i < k, m.testBit i = false) (hk : m.testBit k = true) :
    m = 2 ^ (k + 1) * (m / 2 ^ (k + 1)) + 2 ^ k := by
  have hmod : m % 2 ^ (k + 1) = 2 ^ k := by
    apply Nat.eq_of_testBit_eq
    intro i
    rw [Nat.testBit_mod_two_pow, Nat.testBit_two_pow]
    rcases Nat.lt_trichotomy i k with hi | rfl | hi
    · rw [hbelow i hi, decide_eq_false (by omega : ¬k = i), Bool.and_false]
    · simp [hk]
    · rw [decide_eq_false (by omega : ¬i < k + 1), decide_eq_false (by omega : ¬k = i), Bool.false_and]
  have hsplit := Nat.div_add_mod m (2 ^ (k + 1))
  rw [hmod] at hsplit
  exact hsplit.symm

/-- `b &&& (b - 1)` is `b` with its lowest set bit, the trailing zero count, cleared. -/
theorem getLsbD_and_sub_one {b : UInt64} (h : b ≠ 0) (i : Nat) :
    (b &&& (b - 1)).toBitVec.getLsbD i = (b.toBitVec.getLsbD i && decide (i ≠ b.toBitVec.ctz.toNat)) := by
  obtain ⟨k, hk⟩ : ∃ k, b.toBitVec.ctz.toNat = k := ⟨_, rfl⟩
  have hbelow : ∀ j < k, b.toNat.testBit j = false := fun j hj => by
    rw [← getLsbD_toBitVec]
    exact BitVec.getLsbD_false_of_lt_ctz (hk ▸ hj)
  have hat : b.toNat.testBit k = true := by
    rw [← getLsbD_toBitVec, ← hk]
    exact getLsbD_ctz h
  obtain ⟨q, hb⟩ : ∃ q, b.toNat = 2 ^ (k + 1) * q + 2 ^ k := ⟨_, eq_lowest_bit hbelow hat⟩
  have hlt : 2 ^ k < 2 ^ (k + 1) := Nat.pow_lt_pow_right (by decide) (by omega)
  have hpow : 1 ≤ 2 ^ k := Nat.one_le_two_pow
  have hone : (1 : UInt64) ≤ b := UInt64.le_iff_toNat_le.2 (by simp; omega)
  -- below the lowest bit `b - 1` has every bit set, above it the bits of `b`
  have hsub : (b - 1).toNat = 2 ^ (k + 1) * q + (2 ^ k - 1) := by
    rw [UInt64.toNat_sub_of_le _ _ hone, UInt64.toNat_one, hb]
    omega
  simp only [UInt64.toBitVec_and, BitVec.getLsbD_and, getLsbD_toBitVec, hk]
  rw [hsub, hb, Nat.testBit_two_pow_mul_add _ hlt, Nat.testBit_two_pow_mul_add _ (by omega)]
  by_cases hi : i < k + 1
  · rw [if_pos hi, if_pos hi, Nat.testBit_two_pow, Nat.testBit_two_pow_sub_one]
    by_cases hik : i = k
    · simp [hik]
    · simp [hik, Ne.symm hik]
  · rw [if_neg hi, if_neg hi, Bool.and_self, decide_eq_true (by omega : i ≠ k), Bool.and_true]

theorem next_eq_none_iff {it : FdSetIter} : it.next = none ↔ it.bits = 0 := by
  unfold next
  split <;> simp_all

/-- A step with members left yields the lowest of them and keeps the others. -/
theorem next_eq_some {it rest : FdSetIter} {fd : Fd} (h : it.next = some (fd, rest)) :
    it.bits.toBitVec.getLsbD fd.toNat = true ∧
      (∀ i < fd.toNat, it.bits.toBitVec.getLsbD i = false) ∧
      ∀ i, rest.bits.toBitVec.getLsbD i = (it.bits.toBitVec.getLsbD i && decide (i ≠ fd.toNat)) := by
  unfold next at h
  split at h
  · cases h
  · next hb =>
    simp only [Option.some.injEq, Prod.mk.injEq] at h
    obtain ⟨rfl, rfl⟩ := h
    exact ⟨getLsbD_ctz hb, fun i hi => BitVec.getLsbD_false_of_lt_ctz hi, getLsbD_and_sub_one hb⟩

/-- An iteration yields exactly the descriptors whose bit is set in its mask. -/
theorem mem_toList (it : FdSetIter) (fd : Fd) : fd ∈ it.toList ↔ it.bits.toBitVec.getLsbD fd.toNat = true := by
  fun_induction toList it with
  | case1 it h =>
    simp [next_eq_none_iff.1 h]
  | case2 it g rest h _ ih =>
    obtain ⟨hg, -, hrest⟩ := next_eq_some h
    rw [List.mem_cons, ih, hrest]
    by_cases hfd : fd = g
    · subst hfd
      simp [hg]
    · simp [hfd, Fd.toNat_inj]

/-- An iteration yields its descriptors in strictly ascending order. -/
theorem toList_sorted (it : FdSetIter) : it.toList.Pairwise (· < ·) := by
  fun_induction toList it with
  | case1 => exact List.Pairwise.nil
  | case2 it g rest h _ ih =>
    obtain ⟨-, hlow, hrest⟩ := next_eq_some h
    refine List.Pairwise.cons (fun fd hfd => ?_) ih
    -- a later descriptor has its bit set, so it is not below the lowest one, and it is not that one
    rw [mem_toList, hrest, Bool.and_eq_true, decide_eq_true_eq] at hfd
    show g.toNat < fd.toNat
    rcases Nat.lt_or_ge fd.toNat g.toNat with hlt | hge
    · simp [hlow _ hlt] at hfd
    · exact Nat.lt_of_le_of_ne hge (Ne.symm hfd.2)

/-- An iteration takes as many steps as its mask has set bits. -/
theorem length_toList (it : FdSetIter) : it.toList.length = it.bits.toBitVec.cpop.toNat := by
  fun_induction toList it with
  | case1 it h =>
    simp [next_eq_none_iff.1 h]
  | case2 it g rest h _ ih =>
    obtain ⟨hg, -, hrest⟩ := next_eq_some h
    rw [List.length_cons, ih, BitVec.toNat_cpop, BitVec.toNat_cpop]
    exact BitVec.cpopNatRec_clear hg hrest 64 g.raw.isLt

end FdSetIter

instance : Std.Irrefl (α := Fd) (· < ·) := ⟨fun fd h => Nat.lt_irrefl fd.toNat h⟩

instance : Std.Antisymm (α := Fd) (· < ·) := ⟨fun _ _ h h' => absurd (Nat.lt_trans h h') (Nat.lt_irrefl _)⟩

namespace FdSet

theorem mem_iter_toList {s : FdSet} {fd : Fd} : fd ∈ s.iter.toList ↔ s.contains fd = true := by
  rw [FdSetIter.mem_toList, contains_eq]
  rfl

/-- Iterating a set lists its members in the order `toList` has them. -/
theorem iter_toList (s : FdSet) : s.iter.toList = s.toList := by
  exact (FdSetIter.toList_sorted s.iter).eq_of_mem_iff (toList_sorted s) fun fd => by
    rw [mem_iter_toList, mem_toList]

/-- The members of a set, as the finite set of what an iteration yields. -/
def members (s : FdSet) : Finset Fd := s.iter.toList.toFinset

@[simp] theorem mem_members {s : FdSet} {fd : Fd} : fd ∈ s.members ↔ s.contains fd = true := by
  simp [members, mem_iter_toList]

theorem members_insert (s : FdSet) (g : Fd) : (s.insert g).members = Insert.insert g s.members := by
  ext fd
  rw [mem_members, Finset.mem_insert, mem_members, contains_insert, Bool.or_eq_true, decide_eq_true_eq,
    @eq_comm _ g fd, or_comm]

theorem members_erase (s : FdSet) (g : Fd) : (s.erase g).members = s.members.erase g := by
  ext fd
  rw [mem_members, Finset.mem_erase, mem_members, contains_erase, Bool.and_eq_true, Bool.not_eq_true',
    decide_eq_false_iff_not, ne_comm, and_comm]

theorem members_union (s t : FdSet) : (s.union t).members = s.members ∪ t.members := by
  ext fd
  simp [contains_union]

theorem members_inter (s t : FdSet) : (s.inter t).members = s.members ∩ t.members := by
  ext fd
  simp [contains_inter]

/-- Iterating a descriptor set yields exactly the descriptors whose bit is set, each once, in
strictly ascending order, and ends after as many steps as the mask has set bits, its size.
Membership, inserting, removing, joining and meeting are the finite-set operations on these
members. -/
theorem descriptor_set_iteration (s t : FdSet) (g : Fd) :
    (∀ fd, fd ∈ s.iter.toList ↔ s.bits.toBitVec.getLsbD fd.toNat = true) ∧
      s.iter.toList.Pairwise (· < ·) ∧ s.iter.toList.Nodup ∧
      s.iter.toList.length = s.size ∧ s.size = s.bits.toBitVec.cpop.toNat ∧
      (∀ fd, s.contains fd = true ↔ fd ∈ s.members) ∧
      (s.insert g).members = Insert.insert g s.members ∧
      (s.erase g).members = s.members.erase g ∧
      (s.union t).members = s.members ∪ t.members ∧
      (s.inter t).members = s.members ∩ t.members := by
  have hsorted := FdSetIter.toList_sorted s.iter
  have hlen : s.iter.toList.length = s.size := by rw [iter_toList, size]
  refine ⟨fun fd => FdSetIter.mem_toList s.iter fd, hsorted, hsorted.nodup, hlen, ?_,
    fun fd => mem_members.symm, members_insert s g, members_erase s g, members_union s t,
    members_inter s t⟩
  rw [← hlen]
  exact FdSetIter.length_toList s.iter

end FdSet

end ThreadPlatform
