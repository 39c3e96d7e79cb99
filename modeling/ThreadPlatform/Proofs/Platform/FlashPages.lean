import Mathlib
import ThreadPlatform.Platform.Flash
/-!
# The swap pages are two pages of NOR flash

Every call on the swap pages is a `Flash.Call`: erasing a page, programming bytes into it, or
reading it. `Flash.step` gives a call's answer and the partitions after it; a call that is
refused keeps them as they were, as every caller does.

Once the pages are placed in a partition that holds both of them (`Flash.Placed`: the partition
has at least two pages, a 32-bit size, and pages of whole sectors), a call is refused exactly when
it reaches past the end of a page, with `invalidArgs`, and the partition never fails: erasing and
programming go through the two levels of checks, those of the pages and those of the partition,
and only the first can refuse.

What the pages hold is read one byte at a time (`Call.onByte`): an erase of the page sets the
byte to `0xFF`, a write that covers it ands its byte in, and nothing else touches it. So the byte
at a position is `0xFF` anded with every byte written there since the page was last erased
(`foldl_onByte`), which is what a read then returns.

Main statements:

* `Flash.run_cells`: along every history of calls, each byte of each page is what `Call.onByte`
  makes of it, call by call.
* `Flash.swap_pages_refine_nor_flash`: for pages placed by `init` in an erased partition, after
  every history of calls a call is refused exactly when it leaves the page, with `invalidArgs`
  and nothing changed; a read yields the byte the history of its page gives; a call on one page
  leaves the other alone; and before `init` every call is refused with `invalidState`.
-/

namespace ThreadPlatform

namespace RamPartition

/-- The partition with `data` programmed from `offset`: each cell keeps only the bits set in
both. -/
def programmed (p : RamPartition) (offset : Nat) (data : List UInt8) : RamPartition :=
  { p with cell := fun a =>
      if offset ≤ a ∧ a < offset + data.length then p.cell a &&& data.getD (a - offset) 0xFF
      else p.cell a }

/-- The partition with the `len` cells from `offset` set back to `0xFF`. -/
def erased (p : RamPartition) (offset len : Nat) : RamPartition :=
  { p with cell := fun a => if offset ≤ a ∧ a < offset + len then 0xFF else p.cell a }

@[simp] theorem size_programmed (p : RamPartition) (offset : Nat) (data : List UInt8) :
    (p.programmed offset data).size = p.size := rfl

@[simp] theorem size_erased (p : RamPartition) (offset len : Nat) : (p.erased offset len).size = p.size :=
  rfl

section Access
variable {p : RamPartition} {offset len : Nat}

theorem checkRange_of_le (h : offset + len ≤ p.size) : p.checkRange offset len = .ok () := by
  simp [checkRange, h]

theorem read_of_le (h : offset + len ≤ p.size) :
    p.read offset len = .ok ((List.range len).map fun k => p.cell (offset + k)) := by
  simp only [read, checkRange_of_le h]
  rfl

theorem write_of_le {data : List UInt8} (h : offset + data.length ≤ p.size) :
    p.write offset data = .ok (p.programmed offset data) := by
  simp only [write, checkRange_of_le h]
  rfl

theorem erase_of_le (ho : offset % sectorSize = 0) (hl : len % sectorSize = 0)
    (h : offset + len ≤ p.size) : p.erase offset len = .ok (p.erased offset len) := by
  simp only [erase, ho, hl, ne_eq, not_true_eq_false, or_self, if_false, checkRange_of_le h]
  rfl

end Access

end RamPartition

namespace Flash

/-- The page a swap index addresses: the first for index 0, the second for any other. -/
def pageOf (index : Nat) : Nat := if index = 0 then 0 else 1

theorem pageOf_lt_two (index : Nat) : pageOf index < 2 := by
  unfold pageOf
  split <;> omega

/-- A page starts at most one page in. -/
theorem pageOf_mul_le (index size : Nat) : pageOf index * size ≤ size := by
  unfold pageOf
  split <;> simp

/-- The swap pages sit in partition `i` of `parts`, which is `q`: it holds both pages, its size
is a 32-bit count, as every partition's is, and a page is a whole number of sectors. -/
structure Placed (f : Flash) (parts : Array RamPartition) (i : Nat) (q : RamPartition) : Prop where
  slot : f.partition = some i
  part : parts[i]? = some q
  holds : 2 * f.layout.pageSize ≤ q.size
  fits : q.size < 4294967296
  aligned : f.layout.pageSize % sectorSize = 0

/-! ## Where an access lands -/

section Slot
variable {f : Flash} {parts : Array RamPartition} {i : Nat} {q : RamPartition}

/-- The two levels of checks of the pages: past the end of a page an access is refused, and an
address past `2 ^ 32 - 1` stops the program; otherwise the access lands at its offset in the
page its index addresses. -/
theorem locate_slot (hs : f.partition = some i) (hq : parts[i]? = some q) (index offset len : Nat) :
    f.locate parts index offset len =
      if f.layout.pageSize < offset + len then .error (.status .invalidArgs)
      else if 4294967296 ≤ pageOf index * f.layout.pageSize + offset then .error .addressOverflow
      else .ok (i, q, pageOf index * f.layout.pageSize + offset) := by
  have hpage : (if index = 0 then 0 else f.layout.pageSize) = pageOf index * f.layout.pageSize := by
    unfold pageOf
    split <;> simp
  simp only [locate, hs, hq, hpage]

/-- An access within a page whose bytes lie in a partition of 32-bit size lands there. -/
theorem locate_in (hs : f.partition = some i) (hq : parts[i]? = some q) (hsize : q.size < 4294967296)
    {index offset len : Nat} (hlen : offset + len ≤ f.layout.pageSize)
    (hin : pageOf index * f.layout.pageSize + offset + len ≤ q.size) :
    f.locate parts index offset len = .ok (i, q, pageOf index * f.layout.pageSize + offset) := by
  rw [locate_slot hs hq, if_neg (Nat.not_lt.2 hlen), if_neg (by omega)]

theorem read_in (hs : f.partition = some i) (hq : parts[i]? = some q) (hsize : q.size < 4294967296)
    {index offset len : Nat} (hlen : offset + len ≤ f.layout.pageSize)
    (hin : pageOf index * f.layout.pageSize + offset + len ≤ q.size) :
    f.read parts index offset len =
      .ok ((List.range len).map fun k => q.cell (pageOf index * f.layout.pageSize + offset + k)) := by
  simp only [read, locate_in hs hq hsize hlen hin, bind, Except.bind, RamPartition.read_of_le hin]
  rfl

theorem write_in (hs : f.partition = some i) (hq : parts[i]? = some q) (hsize : q.size < 4294967296)
    {index offset : Nat} {data : List UInt8} (hlen : offset + data.length ≤ f.layout.pageSize)
    (hin : pageOf index * f.layout.pageSize + offset + data.length ≤ q.size) :
    f.write parts index offset data =
      .ok (parts.set! i (q.programmed (pageOf index * f.layout.pageSize + offset) data)) := by
  simp only [write, locate_in hs hq hsize hlen hin, bind, Except.bind, RamPartition.write_of_le hin]
  rfl

/-- A page start is a whole number of sectors when the page is. -/
theorem pageStart_aligned (index : Nat) {size : Nat} (h : size % sectorSize = 0) :
    pageOf index * size % sectorSize = 0 := by
  unfold pageOf
  split <;> simp [h]

theorem erase_in (hs : f.partition = some i) (hq : parts[i]? = some q) (hsize : q.size < 4294967296)
    (haligned : f.layout.pageSize % sectorSize = 0) {index : Nat}
    (hin : pageOf index * f.layout.pageSize + f.layout.pageSize ≤ q.size) :
    f.erase parts index =
      .ok (parts.set! i (q.erased (pageOf index * f.layout.pageSize) f.layout.pageSize)) := by
  have hloc := @locate_in _ _ _ _ hs hq hsize index 0 0 (by omega) (by omega)
  simp only [erase, hloc, Nat.add_zero, bind, Except.bind, Except.mapError,
    RamPartition.erase_of_le (pageStart_aligned index haligned) haligned hin]
  rfl

/-- Pages not placed refuse every access with `invalidState`. -/
theorem locate_unplaced (h : f.partition = none) (index offset len : Nat) :
    f.locate parts index offset len = .error (.status .invalidState) := by
  simp [locate, h]

end Slot

section Placed
variable {f : Flash} {parts : Array RamPartition} {i : Nat} {q : RamPartition}

theorem Placed.lt_size (hp : Placed f parts i q) : i < parts.size := by
  have h := hp.part
  rw [Array.getElem?_eq_some_iff] at h
  exact h.1

/-- Putting a partition of the same size in the slot keeps the pages placed. -/
theorem Placed.set (hp : Placed f parts i q) {q' : RamPartition} (hs : q'.size = q.size) :
    Placed f (parts.set! i q') i q' where
  slot := hp.slot
  part := by simp [Array.set!, hp.lt_size]
  holds := hs ▸ hp.holds
  fits := hs ▸ hp.fits
  aligned := hp.aligned

/-- Both pages lie in the partition: whatever stays within a page stays within it. -/
theorem Placed.within (hp : Placed f parts i q) (index : Nat) {offset len : Nat}
    (hlen : offset + len ≤ f.layout.pageSize) :
    pageOf index * f.layout.pageSize + offset + len ≤ q.size := by
  have := pageOf_mul_le index f.layout.pageSize
  have := hp.holds
  omega

theorem read_placed (hp : Placed f parts i q) (index offset len : Nat) :
    f.read parts index offset len =
      if f.layout.pageSize < offset + len then .error (.status .invalidArgs)
      else .ok ((List.range len).map fun k => q.cell (pageOf index * f.layout.pageSize + offset + k)) := by
  split
  · simp only [read, locate_slot hp.slot hp.part, if_pos ‹_›]
    rfl
  · exact read_in hp.slot hp.part hp.fits (Nat.not_lt.1 ‹_›) (hp.within index (Nat.not_lt.1 ‹_›))

theorem write_placed (hp : Placed f parts i q) (index offset : Nat) (data : List UInt8) :
    f.write parts index offset data =
      if f.layout.pageSize < offset + data.length then .error (.status .invalidArgs)
      else .ok (parts.set! i (q.programmed (pageOf index * f.layout.pageSize + offset) data)) := by
  split
  · simp only [write, locate_slot hp.slot hp.part, if_pos ‹_›]
    rfl
  · exact write_in hp.slot hp.part hp.fits (Nat.not_lt.1 ‹_›) (hp.within index (Nat.not_lt.1 ‹_›))

theorem erase_placed (hp : Placed f parts i q) (index : Nat) :
    f.erase parts index =
      .ok (parts.set! i (q.erased (pageOf index * f.layout.pageSize) f.layout.pageSize)) :=
  erase_in hp.slot hp.part hp.fits hp.aligned (hp.within index (Nat.le_of_eq (Nat.zero_add _)))

end Placed

/-! ## Calls -/

/-- A call on the swap pages. -/
inductive Call where
  | erase (index : Nat)
  | write (index offset : Nat) (data : List UInt8)
  | read (index offset len : Nat)
  deriving DecidableEq, Repr

namespace Call

/-- The page the call works on. -/
def page : Call → Nat
  | .erase index | .write index _ _ | .read index _ _ => pageOf index

/-- Whether the call stays within a page of `size` bytes. -/
def fits (size : Nat) : Call → Bool
  | .erase _ => true
  | .write _ offset data => decide (offset + data.length ≤ size)
  | .read _ offset len => decide (offset + len ≤ size)

/-- Whether the call erases page `p`. -/
def erases (p : Nat) : Call → Bool
  | .erase index => pageOf index == p
  | _ => false

/-- The byte the call programs at position `pos` of page `p`: it must be a write to that page
that stays within a page of `size` bytes and covers the position. -/
def written (size p pos : Nat) : Call → Option UInt8
  | .write index offset data =>
    if pageOf index = p ∧ offset + data.length ≤ size ∧ offset ≤ pos then data[pos - offset]? else none
  | _ => none

/-- What the call does to byte `b` at position `pos` of page `p`: an erase of the page sets it,
a write that covers it ands its byte in. -/
def onByte (size p pos : Nat) (b : UInt8) (c : Call) : UInt8 :=
  if c.erases p then 0xFF else (c.written size p pos).elim b (b &&& ·)

/-- A call on one page leaves every byte of the other as it was. -/
theorem onByte_of_page_ne {c : Call} {p : Nat} (h : c.page ≠ p) (size pos : Nat) (b : UInt8) :
    c.onByte size p pos b = b := by
  cases c with
  | erase index =>
    simp only [page] at h
    simp [onByte, erases, written, h]
  | write index offset data => simp_all [onByte, erases, written, page]
  | read index offset len => rfl

end Call

/-- A call's answer, and the partitions after it; a refused call keeps them. -/
def step (f : Flash) (parts : Array RamPartition) : Call → Except FlashFault (List UInt8) × Array RamPartition
  | .erase index =>
    match f.erase parts index with
    | .ok parts' => (.ok [], parts')
    | .error e => (.error e, parts)
  | .write index offset data =>
    match f.write parts index offset data with
    | .ok parts' => (.ok [], parts')
    | .error e => (.error e, parts)
  | .read index offset len => (f.read parts index offset len, parts)

/-- The answers to calls made one after another, and the partitions after them. -/
def run (f : Flash) (parts : Array RamPartition) : List Call → List (Except FlashFault (List UInt8)) × Array RamPartition
  | [] => ([], parts)
  | c :: cs =>
    let r := f.run (f.step parts c).2 cs
    ((f.step parts c).1 :: r.1, r.2)

theorem run_cons (f : Flash) (parts : Array RamPartition) (c : Call) (cs : List Call) :
    (f.run parts (c :: cs)).2 = (f.run (f.step parts c).2 cs).2 := rfl

/-! ## History of a byte -/

/-- The calls after the last erase of page `p`; all of them when none erased it. -/
def sinceErase (p : Nat) (calls : List Call) : List Call :=
  (calls.reverse.takeWhile fun c => !c.erases p).reverse

/-- The bytes the writes among `calls` program at position `pos` of page `p`, in order. -/
def writtenAt (size p pos : Nat) (calls : List Call) : List UInt8 :=
  calls.filterMap (Call.written size p pos)

theorem sinceErase_append_singleton (p : Nat) (calls : List Call) (c : Call) :
    sinceErase p (calls ++ [c]) = if c.erases p then [] else sinceErase p calls ++ [c] := by
  unfold sinceErase
  rw [List.reverse_append, List.reverse_singleton, List.singleton_append, List.takeWhile_cons]
  cases c.erases p <;> simp

/-- A byte of a page after a history of calls is `0xFF` anded with every byte written there
since the page was last erased, or, when it never was, its first value anded with every byte
written there. -/
theorem foldl_onByte (size p pos : Nat) (b : UInt8) (calls : List Call) :
    calls.foldl (Call.onByte size p pos) b =
      (writtenAt size p pos (sinceErase p calls)).foldl (· &&& ·)
        (if calls.any (·.erases p) then 0xFF else b) := by
  induction calls using List.reverseRecOn with
  | nil => simp [sinceErase, writtenAt]
  | append_singleton calls c ih =>
    rw [List.foldl_append, List.foldl_cons, List.foldl_nil, ih, sinceErase_append_singleton]
    by_cases he : c.erases p
    · simp [Call.onByte, he, writtenAt]
    · -- a call that does not erase the page ands in what it writes there, if anything
      have hany : (calls ++ [c]).any (·.erases p) = calls.any (·.erases p) := by simp [he]
      rw [hany, if_neg he]
      simp only [Call.onByte, he, Bool.false_eq_true, if_false, writtenAt, List.filterMap_append,
        List.foldl_append]
      cases hw : c.written size p pos <;> simp [hw]

/-! ## One call, then a history of them -/

section Steps
variable {f : Flash} {parts : Array RamPartition} {i : Nat} {q : RamPartition}

/-- Position `pos` of page `p` lies in the stretch of page `p'` from `lo` on of `len` bytes exactly
when the pages agree and the position is in the stretch. -/
theorem cell_mem_iff {size p p' pos : Nat} (hp : p < 2) (hp' : p' < 2) (hpos : pos < size)
    {lo len : Nat} (hlen : lo + len ≤ size) :
    (p' * size + lo ≤ p * size + pos ∧ p * size + pos < p' * size + lo + len) ↔
      (p' = p ∧ lo ≤ pos ∧ pos < lo + len) := by
  obtain rfl | rfl : p = 0 ∨ p = 1 := by omega
  all_goals obtain rfl | rfl : p' = 0 ∨ p' = 1 := by omega
  all_goals simp only [Nat.zero_mul, Nat.one_mul, Nat.zero_add, true_and]
  all_goals omega

/-- What an erase does to the byte at position `pos` of page `p`. -/
theorem erased_cell {size p pos : Nat} (hp : p < 2) (hpos : pos < size) (index : Nat) (q : RamPartition) :
    (q.erased (pageOf index * size) size).cell (p * size + pos) =
      (Call.erase index).onByte size p pos (q.cell (p * size + pos)) := by
  have hin := @cell_mem_iff size p (pageOf index) pos hp (pageOf_lt_two index) hpos 0 size (by omega)
  simp only [Nat.add_zero, Nat.zero_le, Nat.zero_add, hpos, and_true] at hin
  simp only [RamPartition.erased, hin, Call.onByte, Call.erases, beq_iff_eq]
  split <;> rfl

/-- What a write that fits does to the byte at position `pos` of page `p`. -/
theorem programmed_cell {size p pos : Nat} (hp : p < 2) (hpos : pos < size) (index offset : Nat)
    (data : List UInt8) (hfit : offset + data.length ≤ size) (q : RamPartition) :
    (q.programmed (pageOf index * size + offset) data).cell (p * size + pos) =
      (Call.write index offset data).onByte size p pos (q.cell (p * size + pos)) := by
  have hin := cell_mem_iff hp (pageOf_lt_two index) hpos hfit
  simp only [RamPartition.programmed, hin, Call.onByte, Call.erases, Bool.false_eq_true, if_false,
    Call.written, hfit, true_and]
  by_cases hpage : pageOf index = p
  · by_cases hlo : offset ≤ pos
    · by_cases hhi : pos < offset + data.length
      · -- the write covers the byte: it is anded with the byte written there
        have hidx : pos - offset < data.length := by omega
        have hcell : p * size + pos - (p * size + offset) = pos - offset := by omega
        simp [hpage, hlo, hhi, hcell, List.getElem?_eq_getElem hidx]
      · have : data[pos - offset]? = none := List.getElem?_eq_none (by omega)
        simp [hpage, hlo, hhi, this]
    · simp [hpage, hlo]
  · simp [hpage]

/-- One call on placed pages: the pages stay placed, and each byte of each page becomes what
`Call.onByte` makes of it. -/
theorem step_cells (hp : Placed f parts i q) (c : Call) :
    ∃ q', Placed f (f.step parts c).2 i q' ∧
      ∀ p pos, p < 2 → pos < f.layout.pageSize →
        q'.cell (p * f.layout.pageSize + pos) = c.onByte f.layout.pageSize p pos (q.cell (p * f.layout.pageSize + pos)) := by
  cases c with
  | erase index =>
    refine ⟨_, ?_, fun p pos hp2 hpos => erased_cell hp2 hpos index q⟩
    simp only [step, erase_placed hp]
    exact hp.set (RamPartition.size_erased _ _ _)
  | write index offset data =>
    by_cases hfit : offset + data.length ≤ f.layout.pageSize
    · refine ⟨_, ?_, fun p pos hp2 hpos => programmed_cell hp2 hpos index offset data hfit q⟩
      simp only [step, write_placed hp, if_neg (Nat.not_lt.2 hfit)]
      exact hp.set (RamPartition.size_programmed _ _ _)
    · -- a write past the end of the page is refused and changes nothing
      refine ⟨q, ?_, fun p pos _ _ => ?_⟩
      · simp only [step, write_placed hp, if_pos (Nat.lt_of_not_le hfit)]
        exact hp
      · simp [Call.onByte, Call.erases, Call.written, hfit]
  | read index offset len => exact ⟨q, hp, fun p pos _ _ => rfl⟩

/-- Along every history of calls the pages stay placed, and each byte of each page is what
`Call.onByte` makes of it, call by call. -/
theorem run_cells (hp : Placed f parts i q) (calls : List Call) :
    ∃ q', Placed f (f.run parts calls).2 i q' ∧
      ∀ p pos, p < 2 → pos < f.layout.pageSize →
        q'.cell (p * f.layout.pageSize + pos) =
          calls.foldl (Call.onByte f.layout.pageSize p pos) (q.cell (p * f.layout.pageSize + pos)) := by
  induction calls generalizing parts q with
  | nil => exact ⟨q, hp, fun _ _ _ _ => rfl⟩
  | cons c cs ih =>
    obtain ⟨q₁, hp₁, hcell₁⟩ := step_cells hp c
    obtain ⟨q', hp', hcell'⟩ := ih hp₁
    refine ⟨q', by rw [run_cons]; exact hp', fun p pos hp2 hpos => ?_⟩
    rw [hcell' p pos hp2 hpos, hcell₁ p pos hp2 hpos, List.foldl_cons]

/-- A call that stays within a page is answered. -/
theorem step_answered (hp : Placed f parts i q) {c : Call} (h : c.fits f.layout.pageSize = true) :
    ∃ a, (f.step parts c).1 = .ok a := by
  cases c with
  | erase index => exact ⟨[], by simp [step, erase_placed hp]⟩
  | write index offset data =>
    simp only [Call.fits, decide_eq_true_eq] at h
    exact ⟨[], by simp only [step, write_placed hp, if_neg (Nat.not_lt.2 h)]⟩
  | read index offset len =>
    simp only [Call.fits, decide_eq_true_eq] at h
    simp only [step, read_placed hp, if_neg (Nat.not_lt.2 h)]
    exact ⟨_, rfl⟩

/-- A call that leaves its page is refused with `invalidArgs` and changes nothing. -/
theorem step_refused (hp : Placed f parts i q) {c : Call} (h : c.fits f.layout.pageSize = false) :
    f.step parts c = (.error (.status .invalidArgs), parts) := by
  cases c with
  | erase index => cases h
  | write index offset data =>
    simp only [Call.fits, decide_eq_false_iff_not, Nat.not_le] at h
    simp only [step, write_placed hp, if_pos h]
  | read index offset len =>
    simp only [Call.fits, decide_eq_false_iff_not, Nat.not_le] at h
    simp only [step, read_placed hp, if_pos h]

/-- A read of placed pages within a page returns, at each position, what the byte there is known
to be. -/
theorem read_of_cells (hp : Placed f parts i q) {index offset len : Nat}
    (hlen : offset + len ≤ f.layout.pageSize) {g : Nat → UInt8}
    (hg : ∀ pos, pos < f.layout.pageSize → q.cell (pageOf index * f.layout.pageSize + pos) = g pos) :
    f.read parts index offset len = .ok ((List.range len).map fun k => g (offset + k)) := by
  rw [read_placed hp, if_neg (Nat.not_lt.2 hlen)]
  congr 1
  refine List.map_congr_left fun k hk => ?_
  have hpos : offset + k < f.layout.pageSize := by
    have := List.mem_range.1 hk
    omega
  rw [Nat.add_assoc, hg _ hpos]

end Steps

/-- Pages placed by `init` sit in the partition with their label. -/
theorem init_placed {L : FlashLayout} {parts : Array RamPartition} {f : Flash}
    (h : (Flash.new L).init parts = .ok f) :
    ∃ i q, f = ⟨L, some i⟩ ∧ parts[i]? = some q ∧ q.label = L.partition := by
  unfold init at h
  dsimp only [Flash.new] at h
  split at h
  · cases h
  · rename_i i hi
    split at h
    · cases h
    · rename_i q hq
      by_cases hs : q.size < L.swapSize
      · simp [hs] at h
      · simp only [hs, if_false, Except.ok.injEq] at h
        subst h
        obtain ⟨hlt, hlabel, -⟩ := Array.findIdx?_eq_some_iff_getElem.1 hi
        rw [Array.getElem?_eq_getElem hlt] at hq
        cases hq
        exact ⟨i, parts[i], rfl, Array.getElem?_eq_getElem hlt, by simpa using hlabel⟩

/-- Pages brought up by `init` in an erased partition labelled for them, holding two pages of
whole sectors, behave as two pages of NOR flash along every history of calls `calls`: a call is
then refused exactly when it reaches past the end of a page, with `invalidArgs` and nothing
changed, and never fails in the partition; a read yields at each position `0xFF` anded with every
byte written at that position of that page since the page was last erased; a call on one page
leaves every byte of the other as it was; and before `init` every call is refused with
`invalidState`, changing nothing. -/
theorem swap_pages_refine_nor_flash (L : FlashLayout) (parts : Array RamPartition) (f : Flash)
    (hinit : (Flash.new L).init parts = .ok f)
    (hpart : ∀ q ∈ parts, q.label = L.partition →
      2 * L.pageSize ≤ q.size ∧ q.size < 4294967296 ∧ ∀ a, q.cell a = 0xFF)
    (haligned : L.pageSize % sectorSize = 0) (calls : List Call) :
    (∀ c, (c.fits L.pageSize = true → ∃ a, (f.step (f.run parts calls).2 c).1 = .ok a) ∧
      (c.fits L.pageSize = false →
        f.step (f.run parts calls).2 c = (.error (.status .invalidArgs), (f.run parts calls).2))) ∧
    (∀ index offset len, offset + len ≤ L.pageSize →
      f.read (f.run parts calls).2 index offset len =
        .ok ((List.range len).map fun k =>
          (writtenAt L.pageSize (pageOf index) (offset + k) (sinceErase (pageOf index) calls)).foldl
            (· &&& ·) 0xFF)) ∧
    (∀ c index offset len, c.page ≠ pageOf index →
      f.read (f.step (f.run parts calls).2 c).2 index offset len =
        f.read (f.run parts calls).2 index offset len) ∧
    (∀ c, (Flash.new L).step parts c = (.error (.status .invalidState), parts)) := by
  obtain ⟨i, q, rfl, hq, hlabel⟩ := init_placed hinit
  obtain ⟨hholds, hfits, herased⟩ := hpart q (Array.mem_of_getElem? hq) hlabel
  have hp : Placed ⟨L, some i⟩ parts i q := ⟨rfl, hq, hholds, hfits, haligned⟩
  obtain ⟨q', hp', hcells⟩ := run_cells hp calls
  refine ⟨fun c => ⟨step_answered hp', step_refused hp'⟩, fun index offset len hlen => ?_,
    fun c index offset len hpage => ?_, ?_⟩
  · -- a read: each byte is its history since the page's last erase, from an erased start
    exact read_of_cells hp' hlen fun pos hpos => by
      rw [hcells _ _ (pageOf_lt_two index) hpos, foldl_onByte, herased, ite_self]
  · -- a call on the other page: the bytes read are those before it
    obtain ⟨q'', hp'', hcells'⟩ := step_cells hp' c
    by_cases hlen : offset + len ≤ L.pageSize
    · rw [read_of_cells hp'' hlen (g := fun pos => q'.cell (pageOf index * L.pageSize + pos))
          fun pos hpos => by rw [hcells' _ _ (pageOf_lt_two index) hpos, Call.onByte_of_page_ne hpage],
        read_of_cells hp' hlen (g := fun pos => q'.cell (pageOf index * L.pageSize + pos)) fun _ _ => rfl]
    · rw [read_placed hp'', read_placed hp', if_pos (Nat.lt_of_not_le hlen),
        if_pos (Nat.lt_of_not_le hlen)]
  · -- before `init` the pages are placed nowhere
    intro c
    cases c <;> simp [step, Flash.new, read, write, erase, locate_unplaced, bind, Except.bind]

/-- On the standard layout, programming `0x0F` and then `0xF1` into the first byte of the first
page, and erasing the second page, leaves that byte reading `0x01`. -/
theorem standard_pages_program_and_erase :
    (Flash.new .standard).init #[RamPartition.new "ot_storage" 8192] = .ok ⟨.standard, some 0⟩ ∧
      (∀ q ∈ #[RamPartition.new "ot_storage" 8192], q.label = FlashLayout.standard.partition →
        2 * FlashLayout.standard.pageSize ≤ q.size ∧ q.size < 4294967296 ∧ ∀ a, q.cell a = 0xFF) ∧
      FlashLayout.standard.pageSize % sectorSize = 0 ∧
      (⟨.standard, some 0⟩ : Flash).read
          ((⟨.standard, some 0⟩ : Flash).run #[RamPartition.new "ot_storage" 8192]
            [.write 0 0 [0x0F], .write 0 0 [0xF1], .erase 1]).2 0 0 1 = .ok [0x01] := by
  have hinit : (Flash.new .standard).init #[RamPartition.new "ot_storage" 8192] =
      .ok ⟨.standard, some 0⟩ := by
    simp [init, Flash.new, FlashLayout.standard, RamPartition.new, FlashLayout.swapSize]
  have hpart : ∀ q ∈ #[RamPartition.new "ot_storage" 8192], q.label = FlashLayout.standard.partition →
      2 * FlashLayout.standard.pageSize ≤ q.size ∧ q.size < 4294967296 ∧ ∀ a, q.cell a = 0xFF := by
    simp [RamPartition.new, FlashLayout.standard]
  have haligned : FlashLayout.standard.pageSize % sectorSize = 0 := rfl
  refine ⟨hinit, hpart, haligned, ?_⟩
  rw [(swap_pages_refine_nor_flash _ _ _ hinit hpart haligned _).2.1 0 0 1 (by decide)]
  decide

end Flash

end ThreadPlatform
