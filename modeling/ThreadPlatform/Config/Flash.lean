/-!
# Flash layout

The settings area is a swap region of `pageNum` pages of `pageSize` bytes at
the start of the partition labelled `partition`. Its size is computed on the
32-bit counter the region is addressed with; a product that does not fit that
counter is a fatal overflow wherever the size is computed.
-/

namespace ThreadPlatform

/-- Where the settings swap region lives and how large it is. -/
structure FlashLayout where
  partition : String
  pageNum : Nat
  pageSize : Nat
  deriving DecidableEq, Repr, Inhabited

namespace FlashLayout

/-- Two pages of 4096 bytes in the partition `ot_storage`. -/
def standard : FlashLayout := ⟨"ot_storage", 2, 4096⟩

/-- Bytes in the swap region, modulo `2 ^ 32`. -/
def swapSize (l : FlashLayout) : Nat := l.pageNum * l.pageSize % 4294967296

/-- Whether the size of the swap region overflows its 32-bit counter. -/
def swapOverflows (l : FlashLayout) : Bool := 4294967296 ≤ l.pageNum * l.pageSize

end FlashLayout

/-- The fatal message of a product that overflows its fixed-width counter. -/
def multiplyOverflow : String := "attempt to multiply with overflow"

/-- The fatal message of a sum that overflows its fixed-width counter. -/
def addOverflow : String := "attempt to add with overflow"

end ThreadPlatform
