import ThreadPlatform.Proofs.Platform.FlashPages
import ThreadPlatform.Platform.Board
/-!
# Which valid flash layouts work

`PlatformParams.validate` asks of the flash layout only that it has a page, a non-empty page
and a label (`validate_ok_iff`). The swap pages take more than that: the second page exists only
when there are two, an erase covers whole sectors, and the size of the region is a 32-bit count.
So a valid layout is usable as far as its page count and page size let it be:

* `validated_flash_geometry_usable`: for a valid configuration whose swap region fits in 32 bits,
  the board's partition holds exactly the region, the pages come up on it, and every access
  within a page succeeds on the first page, and on the second when there are two pages; every
  erase succeeds when pages are whole sectors. With a single page, every access of some bytes to
  the second page and every erase of it fail, and with pages that are not whole sectors, every
  erase fails.
* `single_page_layout_fails_second_page`: a valid configuration of one page, on which erasing the
  second page fails.
-/

namespace ThreadPlatform

namespace PlatformParams

/-- What `validate` asks: two UART ports, a receive ring, room for an expanded line end in the
transmit FIFO, and a swap region of at least one non-empty page with a label. -/
theorem validate_ok_iff (p : PlatformParams) :
    p.validate = .ok () ↔
      p.console.port ≠ p.radio.port ∧ p.rxBufferSize ≠ 0 ∧ 2 ≤ p.txFifoSize ∧
        p.flash.pageNum ≠ 0 ∧ p.flash.pageSize ≠ 0 ∧ p.flash.partition ≠ "" := by
  unfold validate
  split_ifs <;> simp_all
  omega

end PlatformParams

namespace FlashLayout

/-- A region that fits its 32-bit counter has the size its pages make. -/
theorem swapSize_of_fits {L : FlashLayout} (h : L.swapOverflows = false) :
    L.swapSize = L.pageNum * L.pageSize := by
  simp only [swapOverflows, decide_eq_false_iff_not, Nat.not_le] at h
  exact Nat.mod_eq_of_lt h

end FlashLayout

@[simp] theorem Board.partitions_new (p : PlatformParams) :
    (Board.new p).partitions = #[RamPartition.new p.flash.partition p.flash.swapSize] := rfl

namespace RamPartition

section Beyond
variable {p : RamPartition} {offset len : Nat}

theorem read_beyond (h : p.size < offset + len) : ∃ e, p.read offset len = .error e :=
  ⟨.outOfRange offset (len % 4294967296), by simp [read, checkRange, Nat.not_le.2 h, bind, Except.bind]⟩

theorem write_beyond {data : List UInt8} (h : p.size < offset + data.length) :
    ∃ e, p.write offset data = .error e :=
  ⟨.outOfRange offset (data.length % 4294967296),
    by simp [write, checkRange, Nat.not_le.2 h, bind, Except.bind]⟩

/-- An erase that is not of whole sectors, or reaches past the partition, fails. -/
theorem erase_fails (h : offset % sectorSize ≠ 0 ∨ len % sectorSize ≠ 0 ∨ p.size < offset + len) :
    ∃ e, p.erase offset len = .error e := by
  by_cases ha : offset % sectorSize ≠ 0 ∨ len % sectorSize ≠ 0
  · exact ⟨.misaligned offset len, by simp only [erase, if_pos ha]; rfl⟩
  · have hr : p.size < offset + len := by omega
    refine ⟨.outOfRange offset (len % 4294967296), ?_⟩
    simp only [erase, if_neg ha, checkRange, if_neg (Nat.not_le.2 hr)]
    rfl

end Beyond

end RamPartition

namespace Flash

section Fails
variable {f : Flash} {parts : Array RamPartition} {i : Nat} {q : RamPartition}

/-- An access whose bytes would reach past the partition fails, at one level of checks or the
other. -/
theorem read_beyond (hs : f.partition = some i) (hq : parts[i]? = some q) {index offset len : Nat}
    (h : q.size < pageOf index * f.layout.pageSize + offset + len) :
    ∃ e, f.read parts index offset len = .error e := by
  simp only [read, locate_slot hs hq]
  split
  · exact ⟨_, rfl⟩
  · split
    · exact ⟨_, rfl⟩
    · obtain ⟨e, he⟩ := RamPartition.read_beyond h
      exact ⟨.partition "read" e, by simp only [bind, Except.bind, Except.mapError, he]⟩

theorem write_beyond (hs : f.partition = some i) (hq : parts[i]? = some q) {index offset : Nat}
    {data : List UInt8} (h : q.size < pageOf index * f.layout.pageSize + offset + data.length) :
    ∃ e, f.write parts index offset data = .error e := by
  simp only [write, locate_slot hs hq]
  split
  · exact ⟨_, rfl⟩
  · split
    · exact ⟨_, rfl⟩
    · obtain ⟨e, he⟩ := RamPartition.write_beyond h
      exact ⟨.partition "write" e, by simp only [bind, Except.bind, Except.mapError, he]⟩

/-- An erase of a page that is not whole sectors, or that reaches past the partition, fails. -/
theorem erase_fails (hs : f.partition = some i) (hq : parts[i]? = some q) {index : Nat}
    (h : f.layout.pageSize % sectorSize ≠ 0 ∨ q.size < pageOf index * f.layout.pageSize + f.layout.pageSize) :
    ∃ e, f.erase parts index = .error e := by
  simp only [erase, locate_slot hs hq, Nat.add_zero, Nat.not_lt_zero, if_false]
  split
  · exact ⟨_, rfl⟩
  · obtain ⟨e, he⟩ := RamPartition.erase_fails (.inr h)
    exact ⟨.partition "erase" e, by simp only [bind, Except.bind, Except.mapError, he]⟩

end Fails

/-- The pages come up on the partition a board makes for a region that fits in 32 bits. -/
theorem init_board (p : PlatformParams) :
    (Flash.new p.flash).init (Board.new p).partitions = .ok ⟨p.flash, some 0⟩ := by
  simp [init, Flash.new, RamPartition.new]

end Flash

open Flash in
/-- A valid configuration whose swap region fits in 32 bits has a board partition of exactly the
region, on which the pages come up. Within a page, reads and writes succeed, with the address
computed without overflow, on the first page and, when there are two pages, on the second; an
erase then succeeds too when pages are whole sectors of 4096 bytes. With a single page, every
read or write of some bytes to the second page fails, and so does every erase of it; with pages
that are not whole sectors, every erase fails. -/
theorem validated_flash_geometry_usable (p : PlatformParams) (hv : p.validate = .ok ())
    (hfit : p.flash.swapOverflows = false) :
    (Board.new p).partitions = #[RamPartition.new p.flash.partition (p.flash.pageNum * p.flash.pageSize)] ∧
    (Flash.new p.flash).init (Board.new p).partitions = .ok ⟨p.flash, some 0⟩ ∧
    (∀ index offset len, offset + len ≤ p.flash.pageSize → (index = 0 ∨ 2 ≤ p.flash.pageNum) →
      (∃ d, (⟨p.flash, some 0⟩ : Flash).read (Board.new p).partitions index offset len = .ok d) ∧
      (∀ data : List UInt8, data.length = len →
        ∃ parts, (⟨p.flash, some 0⟩ : Flash).write (Board.new p).partitions index offset data = .ok parts) ∧
      (p.flash.pageSize % sectorSize = 0 →
        ∃ parts, (⟨p.flash, some 0⟩ : Flash).erase (Board.new p).partitions index = .ok parts)) ∧
    (p.flash.pageNum = 1 → ∀ index, index ≠ 0 →
      (∃ e, (⟨p.flash, some 0⟩ : Flash).erase (Board.new p).partitions index = .error e) ∧
      ∀ offset len, 0 < len →
        (∃ e, (⟨p.flash, some 0⟩ : Flash).read (Board.new p).partitions index offset len = .error e) ∧
        ∀ data : List UInt8, data.length = len →
          ∃ e, (⟨p.flash, some 0⟩ : Flash).write (Board.new p).partitions index offset data = .error e) ∧
    (p.flash.pageSize % sectorSize ≠ 0 → ∀ index,
      ∃ e, (⟨p.flash, some 0⟩ : Flash).erase (Board.new p).partitions index = .error e) := by
  obtain ⟨-, -, -, hnum, hsize, -⟩ := (PlatformParams.validate_ok_iff p).1 hv
  have hswap := FlashLayout.swapSize_of_fits hfit
  have hbound : p.flash.pageNum * p.flash.pageSize < 4294967296 := by
    simpa [FlashLayout.swapOverflows] using hfit
  -- the board's one partition, in slot 0, holds exactly the region
  have hq : (Board.new p).partitions[0]? =
      some (RamPartition.new p.flash.partition (p.flash.pageNum * p.flash.pageSize)) := by
    simp [hswap]
  have hslot : (⟨p.flash, some 0⟩ : Flash).partition = some 0 := rfl
  have hqsize : (RamPartition.new p.flash.partition (p.flash.pageNum * p.flash.pageSize)).size =
      p.flash.pageNum * p.flash.pageSize := rfl
  refine ⟨by simp [hswap], init_board p, fun index offset len hlen hpages => ?_,
    fun hone index hindex => ?_, fun hmis index => erase_fails hslot hq (.inl hmis)⟩
  · -- the page the index addresses lies within the partition
    have hpage : pageOf index * p.flash.pageSize + p.flash.pageSize ≤ p.flash.pageNum * p.flash.pageSize := by
      rcases hpages with rfl | htwo
      · simpa [pageOf] using Nat.le_mul_of_pos_left _ (Nat.pos_of_ne_zero hnum)
      · have := pageOf_mul_le index p.flash.pageSize
        have := Nat.mul_le_mul_right p.flash.pageSize htwo
        omega
    have hin : ∀ l, offset + l ≤ p.flash.pageSize →
        pageOf index * p.flash.pageSize + offset + l ≤ p.flash.pageNum * p.flash.pageSize := by
      intro l hl
      omega
    refine ⟨⟨_, read_in hslot hq hbound hlen (hin len hlen)⟩, fun data hdata => ?_,
      fun haligned => ⟨_, erase_in hslot hq hbound haligned hpage⟩⟩
    subst hdata
    exact ⟨_, write_in hslot hq hbound hlen (hin _ hlen)⟩
  · -- one page: the second lies wholly past the partition
    have hpage : pageOf index * p.flash.pageSize = p.flash.pageNum * p.flash.pageSize := by
      simp [pageOf, hindex, hone]
    have hps : 0 < p.flash.pageSize := Nat.pos_of_ne_zero hsize
    refine ⟨erase_fails hslot hq (.inr ?_), fun offset len hlen => ⟨read_beyond hslot hq ?_,
      fun data hdata => write_beyond hslot hq ?_⟩⟩
    all_goals simp only [hqsize, hpage]
    all_goals omega

open Flash in
/-- The standard configuration passes `validate`, fits, and every access within a page of it
succeeds. -/
theorem standard_flash_geometry_usable :
    PlatformParams.standard.validate = .ok () ∧ PlatformParams.standard.flash.swapOverflows = false ∧
      ∃ d, (⟨PlatformParams.standard.flash, some 0⟩ : Flash).read (Board.new .standard).partitions
        1 4090 6 = .ok d :=
  ⟨PlatformParams.validate_standard, rfl,
    ((validated_flash_geometry_usable .standard PlatformParams.validate_standard rfl).2.2.1
      1 4090 6 (by decide) (.inr (by decide))).1⟩

/-- A configuration of one page of 4096 bytes passes `validate` and its pages come up, yet
erasing the second page fails. -/
theorem single_page_layout_fails_second_page :
    let p : PlatformParams := { PlatformParams.standard with flash := ⟨"ot_storage", 1, 4096⟩ }
    p.validate = .ok () ∧ (Flash.new p.flash).init (Board.new p).partitions = .ok ⟨p.flash, some 0⟩ ∧
      ∃ e, (⟨p.flash, some 0⟩ : Flash).erase (Board.new p).partitions 1 = .error e := by
  intro p
  have hq : (Board.new p).partitions[0]? = some (RamPartition.new "ot_storage" 4096) := by
    simp [p, FlashLayout.swapSize]
  exact ⟨rfl, Flash.init_board p, Flash.erase_fails rfl hq (.inr (by decide))⟩

end ThreadPlatform
