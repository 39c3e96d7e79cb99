import Mathlib.Data.List.TakeWhile
import ThreadPlatform.Proofs.Hdlc.RoundTrip
/-!
# What a decoder reports, as a function of the octets

`decodeSpec N w` says what a fresh decoder with a buffer of `N` octets reports for the
octets `w`, without the decoder's states: the octets before the first flag are ignored,
the rest is cut at every flag, escaped or not, and each piece that a flag closes is
judged on its own (`segmentOutcome`); the last piece, which no flag closed yet, reports
nothing.

`decode_eq_decodeSpec` says that the decoder computes exactly this, whichever way the
octets are cut into calls, from a fresh decoder or from one just reset. The proof follows
the octets of one piece: after a piece `p` the decoder holds the unescaped octets of `p`
that fit, their check register, whether any did not fit, and whether an escape is still
waiting for its partner (`Collects`); a flag then reports `segmentOutcome N p` and starts
the next piece.
-/

namespace ThreadPlatform.Hdlc

/-! ## The specification -/

/-- Unescaping a piece from left to right: an escape octet stands for the octet after it
with bit 5 flipped, any other octet for itself. A piece ending in an escape octet that has
no partner has no unescaped form. -/
def unescape : List UInt8 → Option (List UInt8)
  | [] => some []
  | [b] => if b = escape then none else some [b]
  | b :: c :: rest =>
    if b = escape then (unescape rest).map ((c ^^^ escapeMask) :: ·)
    else (unescape (c :: rest)).map (b :: ·)

/-- What a frame of unescaped octets `u` comes to in a buffer of `N` octets: `noBufs` when
it does not fit, its payload when it carries at least the two check octets and the register
over all of it ends at `Fcs.good`, `parse` when it is any other non-empty frame, and nothing
when it is empty. -/
def frameOutcome (N : Nat) (u : List UInt8) : Option Outcome :=
  if N < u.length then some (.error .noBufs)
  else if fcsSize ≤ u.length ∧ Fcs.compute u = Fcs.good then some (.ok (u.take (u.length - fcsSize)))
  else if u ≠ [] then some (.error .parse)
  else none

/-- What the flag closing the piece `s` reports: `parse` when `s` ends in an escape octet
without partner, and otherwise what its unescaped octets come to. -/
def segmentOutcome (N : Nat) (s : List UInt8) : Option Outcome :=
  match unescape s with
  | none => some (.error .parse)
  | some u => frameOutcome N u

/-- What a decoder with a buffer of `N` octets reports for the octets `w`: nothing before
the first flag; after it, one judgement per piece between two flags. -/
def decodeSpec (N : Nat) (w : List UInt8) : List Outcome :=
  match w.dropWhile (· != flag) with
  | [] => []
  | _ :: rest => ((rest.splitOn flag).dropLast).filterMap (segmentOutcome N)

/-! ## Unescaping a growing piece -/

theorem unescape_append {p u : List UInt8} (h : unescape p = some u) (q : List UInt8) :
    unescape (p ++ q) = (unescape q).map (u ++ ·) := by
  fun_induction unescape p generalizing u with
  | case1 =>
    cases h
    simp
  | case2 => cases h
  | case3 b hb =>
    obtain rfl : u = [b] := by simpa [hb] using h.symm
    cases q with
    | nil => simp [unescape, hb]
    | cons c rest => simp [unescape, hb]
  | case4 c rest ih =>
    obtain ⟨v, hv, rfl⟩ := Option.map_eq_some_iff.1 h
    simp [unescape, ih hv, Option.map_map, Function.comp_def]
  | case5 b c rest hb ih =>
    obtain ⟨v, hv, rfl⟩ := Option.map_eq_some_iff.1 h
    have hrest : unescape (c :: (rest ++ q)) = (unescape q).map (v ++ ·) := ih hv
    simp only [List.cons_append, unescape, hb, if_false, hrest, Option.map_map]
    rfl

/-! ## The decoder inside a piece -/

namespace Decoder

/-- Inside a frame, with the unescaped octets `u` read so far and `esc` telling whether an
escape octet waits for its partner: the buffer holds what fit of `u`, the register covers
those octets, and the overflow flag tells whether some did not fit. -/
def collecting (N : Nat) (u : List UInt8) (esc : Bool) : Decoder :=
  ⟨⟨N, u.take N, List.length_take_le N u⟩, if esc then .escaped else .inFrame,
    Fcs.compute (u.take N), decide (N < u.length)⟩

theorem idle_eq_collecting (N : Nat) : idle N = collecting N [] false := by
  cases N <;> rfl

@[simp] theorem capacity_collecting (N : Nat) (u : List UInt8) (esc : Bool) :
    (collecting N u esc).buffer.capacity = N := rfl

/-- Collecting one more octet extends the frame by it, whether or not it fits. -/
theorem accept_collecting (N : Nat) (u : List UInt8) (b : UInt8) :
    (collecting N u false).accept b = collecting N (u ++ [b]) false := by
  rcases Nat.lt_or_ge N u.length with hover | hle
  · -- the frame overflowed already: the octet is dropped
    have htake : (u ++ [b]).take N = u.take N := List.take_append_of_le_length (Nat.le_of_lt hover)
    simp [accept, collecting, hover, htake, Nat.lt_succ_of_lt hover]
  · rcases Nat.lt_or_ge u.length N with hroom | hfull
    · have hpush : (collecting N u false).buffer.push b =
          .ok ⟨N, u ++ [b], by simp; omega⟩ := by
        simp [FrameBuffer.push, collecting, List.take_of_length_le hle, hroom]
      simp only [accept, collecting, decide_eq_true_eq, List.length_append, List.length_singleton]
      rw [if_neg (by omega)]
      simp only [collecting] at hpush
      rw [hpush]
      have hu : u.take N = u := List.take_of_length_le hle
      have hub : (u ++ [b]).take N = u ++ [b] := List.take_of_length_le (by simp; omega)
      simp [hu, hub, Fcs.compute_append, hle, show ¬ N < u.length + 1 by omega]
    · -- the buffer is exactly full: this octet overflows it
      have hN : u.length = N := by omega
      have hpush : (collecting N u false).buffer.push b = .error .noBufs := by
        simp [FrameBuffer.push, collecting, List.take_of_length_le hle, hN]
      simp only [accept, collecting, decide_eq_true_eq] at hpush ⊢
      rw [if_neg (by omega), hpush]
      have hub : (u ++ [b]).take N = u.take N := List.take_append_of_le_length (by omega)
      simp [hub, hN]

/-- The verdict of a closing flag inside a frame is what the frame comes to. -/
theorem verdict_collecting (N : Nat) (u : List UInt8) (esc : Bool) :
    (collecting N u esc).verdict = frameOutcome N u := by
  by_cases hover : N < u.length
  · simp [verdict, frameOutcome, collecting, hover]
  · have hu : u.take N = u := List.take_of_length_le (by omega)
    simp only [verdict, frameOutcome, collecting, hover, hu, decide_false, Bool.false_eq_true,
      if_false, FrameBuffer.size, ne_eq, List.length_eq_zero_iff]

/-! ## One octet at a time -/

theorem phase_collecting_false (N : Nat) (u : List UInt8) : (collecting N u false).phase = .inFrame := rfl

theorem collecting_true (N : Nat) (u : List UInt8) :
    collecting N u true = { collecting N u false with phase := .escaped } := rfl

/-- An octet that is neither flag nor escape joins the frame. -/
theorem feed_collecting_plain (N : Nat) (u : List UInt8) {b : UInt8} (hf : b ≠ flag) (he : b ≠ escape) :
    (collecting N u false).feed b = (collecting N (u ++ [b]) false, none) := by
  simp only [feed, phase_collecting_false, he, hf, if_false, accept_collecting]

/-- An escape octet waits for its partner. -/
theorem feed_collecting_escape (N : Nat) (u : List UInt8) :
    (collecting N u false).feed escape = (collecting N u true, none) := by
  simp only [feed, phase_collecting_false, if_true]
  rfl

/-- The partner of an escape octet joins the frame with bit 5 flipped. -/
theorem feed_collecting_partner (N : Nat) (u : List UInt8) {b : UInt8} (hf : b ≠ flag) :
    (collecting N u true).feed b = (collecting N (u ++ [b ^^^ escapeMask]) false, none) := by
  simp only [feed, hf, if_false, collecting_true, accept_setPhase, accept_collecting]
  rfl

/-- Where the decoder stands after the octets `p` of a piece that contains no flag. -/
def Collects (N : Nat) (p : List UInt8) (d : Decoder) : Prop :=
  (∃ u, unescape p = some u ∧ d = collecting N u false) ∨
    (∃ p' u, p = p' ++ [escape] ∧ unescape p' = some u ∧ d = collecting N u true)

theorem collects_nil (N : Nat) : Collects N [] (idle N) :=
  .inl ⟨[], rfl, idle_eq_collecting N⟩

/-- An octet other than a flag continues the piece and reports nothing. -/
theorem feed_collects {N : Nat} {p : List UInt8} {d : Decoder} (hd : Collects N p d) {b : UInt8}
    (hb : b ≠ flag) : Collects N (p ++ [b]) (d.feed b).1 ∧ (d.feed b).2 = none := by
  rcases hd with ⟨u, hu, rfl⟩ | ⟨p', u, rfl, hu, rfl⟩
  · by_cases he : b = escape
    · subst he
      rw [feed_collecting_escape]
      exact ⟨.inr ⟨p, u, rfl, hu, rfl⟩, rfl⟩
    · rw [feed_collecting_plain N u hb he]
      refine ⟨.inl ⟨u ++ [b], ?_, rfl⟩, rfl⟩
      rw [unescape_append hu]
      simp [unescape, he]
  · rw [feed_collecting_partner N u hb]
    refine ⟨.inl ⟨u ++ [b ^^^ escapeMask], ?_, rfl⟩, rfl⟩
    rw [List.append_assoc, unescape_append hu]
    simp [unescape, escape]

/-- A flag closes the piece with its judgement and starts the next one. -/
theorem feed_flag_collects {N : Nat} {p : List UInt8} {d : Decoder} (hd : Collects N p d) :
    d.feed flag = (idle N, segmentOutcome N p) := by
  rcases hd with ⟨u, hu, rfl⟩ | ⟨p', u, rfl, hu, rfl⟩
  · rw [feed_flag_inFrame rfl, verdict_collecting]
    simp [segmentOutcome, hu]
  · -- an escape octet right before the flag aborts the frame
    have hnone : unescape (p' ++ [escape]) = none := by
      rw [unescape_append hu]
      simp [unescape]
    have hph : (collecting N u true).phase = .escaped := rfl
    refine Prod.ext (feed_flag_fst _) ?_
    simp [feed, hph, segmentOutcome, hnone]

/-- Inside a piece `p`, the rest of the octets is judged piece by piece, the first piece
being `p` followed by what comes before the next flag. -/
theorem decode_collects {N : Nat} {p : List UInt8} {d : Decoder} (hp : flag ∉ p) (hd : Collects N p d)
    (w : List UInt8) : (d.decode w).2 = (((p ++ w).splitOn flag).dropLast).filterMap (segmentOutcome N) := by
  induction w generalizing p d with
  | nil =>
    have hsplit : p.splitOn flag = [p] :=
      List.splitOnP_eq_singleton fun x hx => by simpa using ne_of_mem_of_not_mem hx hp
    simp [decode, hsplit]
  | cons b w ih =>
    by_cases hb : b = flag
    · subst hb
      have hsplit : (p ++ flag :: w).splitOn flag = p :: w.splitOn flag :=
        List.splitOnP_append_cons_of_forall_mem (fun x hx => by simpa using ne_of_mem_of_not_mem hx hp)
          _ (by simp) _
      have hrest := ih (List.not_mem_nil) (collects_nil N)
      rw [List.nil_append] at hrest
      simp only [decode, feed_flag_collects hd, hsplit,
        List.dropLast_cons_of_ne_nil (List.splitOn_ne_nil _ _), hrest, List.filterMap_cons]
      cases segmentOutcome N p <;> rfl
    · obtain ⟨hd', hout⟩ := feed_collects hd hb
      have hp' : flag ∉ p ++ [b] := by simp [hp, Ne.symm hb]
      have hrest := ih hp' hd'
      rw [List.append_assoc, List.singleton_append] at hrest
      simp [decode, hout, hrest]

/-- Before the first flag a fresh decoder reports nothing and stays as it is. -/
theorem decode_new_of_forall_ne {N : Nat} {w : List UInt8} (hw : ∀ x ∈ w, x ≠ flag) :
    (Decoder.new N).decode w = (Decoder.new N, []) := by
  induction w with
  | nil => rfl
  | cons b w ih =>
    have hb : b ≠ flag := hw b (by simp)
    have hfeed : (Decoder.new N).feed b = (Decoder.new N, none) := by
      simp [feed, Decoder.new, hb]
    simp only [decode, hfeed, ih fun x hx => hw x (by simp [hx])]
    rfl

/-- A decoder just reset is a fresh one. -/
theorem reset_eq_new (d : Decoder) : d.reset = Decoder.new d.buffer.capacity := rfl

/-- A fresh decoder reports `decodeSpec`. -/
theorem decode_new_eq_decodeSpec (N : Nat) (w : List UInt8) :
    ((Decoder.new N).decode w).2 = decodeSpec N w := by
  have hw := (List.takeWhile_append_dropWhile (p := (· != flag)) (l := w)).symm
  have hpre : ∀ x ∈ w.takeWhile (· != flag), x ≠ flag := fun x hx => by
    simpa using List.mem_takeWhile_imp hx
  unfold decodeSpec
  generalize hrest : w.dropWhile (· != flag) = rest at hw
  cases rest with
  | nil =>
    rw [hw, List.append_nil, decode_new_of_forall_ne hpre]
  | cons b rest =>
    -- the octet the scan stopped at is the first flag
    have hb : b = flag := by
      have := List.head_dropWhile_not (· != flag) (l := w) (by simp [hrest])
      simpa [hrest] using this
    subst hb
    rw [hw, decode_append, decode_new_of_forall_ne hpre]
    simp only [decode, feed_flag_new]
    simpa using decode_collects List.not_mem_nil (collects_nil N) rest

end Decoder

open Decoder in
/-- The decoder's reports are `decodeSpec`: for a buffer of any capacity `N` and octets cut
into calls in any way, a fresh decoder and one just reset report, in order, exactly one
judgement per piece between two flags, as `segmentOutcome` gives it, and nothing for the
octets before the first flag or after the last. -/
theorem decode_eq_decodeSpec (N : Nat) (chunks : List (List UInt8)) (d : Decoder) :
    ((Decoder.new N).decodeChunks chunks).2 = decodeSpec N chunks.flatten ∧
      (d.reset.decodeChunks chunks).2 = decodeSpec d.buffer.capacity chunks.flatten := by
  refine ⟨?_, ?_⟩
  · rw [decodeChunks_eq_decode, decode_new_eq_decodeSpec]
  · rw [reset_eq_new, decodeChunks_eq_decode, decode_new_eq_decodeSpec]

example : decodeSpec 4 [0x01, 0x7E, 0x7E, 0x01, 0x7E, 0x7D, 0x7E, 0x00, 0x00, 0x7E, 0x02] =
    [.error .parse, .error .parse, .ok []] := by
  decide

end ThreadPlatform.Hdlc
