import ThreadPlatform.Hdlc.Basic

/-!
# The frame check sequence (FCS-16)

The 16-bit check of HDLC (the CRC of ITU-T X.25, reflected polynomial `0x8408`).
A register starts at `init`; each octet is folded in by `update`. The sender
appends the complement of the register, low octet first; folding those two octets
in as well leaves the register at `good` whatever the frame was.

`update` takes the table entry for the low octet of register and input. That
entry is eight single-bit steps (`shift`) of the octet, so the table never has to
be stored and is the same as the bitwise definition by construction.
-/

namespace ThreadPlatform.Hdlc.Fcs

/-- Value of the register before the first octet. -/
def init : UInt16 := 0xFFFF

/-- Value of the register after a whole frame with a correct check sequence. -/
def good : UInt16 := 0xF0B8

/-- The reflected generator polynomial. -/
def poly : UInt16 := 0x8408

/-- One bit of the division: move down one place, and fold in the polynomial when a one falls out. -/
def shift (c : UInt16) : UInt16 :=
  if c &&& 1 = 1 then (c >>> 1) ^^^ poly else c >>> 1

/-- `n` single-bit steps. -/
def shifts : Nat → UInt16 → UInt16
  | 0, c => c
  | n + 1, c => shifts n (shift c)

/-- The table entry for an octet: eight single-bit steps of it. -/
def entry (i : UInt8) : UInt16 :=
  shifts 8 i.toUInt16

/-- Fold one octet into the register. -/
def update (fcs : UInt16) (b : UInt8) : UInt16 :=
  (fcs >>> 8) ^^^ entry (fcs.toUInt8 ^^^ b)

/-- The register after folding in all of `data`, starting from `init`. -/
def compute (data : List UInt8) : UInt16 :=
  data.foldl update init

/-- The check sequence a sender appends: the complemented register. -/
def trailer (data : List UInt8) : UInt16 :=
  compute data ^^^ 0xFFFF

/-- The two octets of a 16-bit word, low octet first. -/
def lowHigh (w : UInt16) : List UInt8 :=
  [w.toUInt8, (w >>> 8).toUInt8]

theorem compute_append (a b : List UInt8) :
    compute (a ++ b) = b.foldl update (compute a) := by
  simp [compute, List.foldl_append]

end ThreadPlatform.Hdlc.Fcs
