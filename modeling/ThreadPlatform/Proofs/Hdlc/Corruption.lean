import ThreadPlatform.Proofs.Hdlc.Truncation
import ThreadPlatform.Proofs.Hdlc.Segments
/-!
# One corrupted octet is always caught

A frame on the wire with one octet replaced, at any place between the two flags and by any
octet that is neither flag nor escape, is reported as a dropped frame, `parse`, and nothing
else (`single_octet_corruption_detected`). Only an escape octet itself is left out: replacing
it changes how the rest of the frame is unescaped.

Two facts carry it. The check register is linear: folding an octet in is linear in the register
and the octet together (`Fcs.update_xor`), so two frames that differ in one octet keep, from
that octet on, registers whose difference runs on zero octets, and such a run never reaches
zero (`Fcs.update_zero_eq_zero`). Hence the check tells apart any two frames of one length
that differ in one octet (`Fcs.compute_set_ne`). And the replaced octet is read, through
unescaping, as exactly one changed octet of the payload or of the check sequence, since the
partner of an escape octet is never an escape octet (`unescape_set_escapeAll`).
-/

namespace ThreadPlatform.Hdlc

/-! ## The check separates frames that differ in one octet -/

namespace Fcs

theorem xor_xor_xor_comm (a b c d : UInt16) : a ^^^ b ^^^ (c ^^^ d) = a ^^^ c ^^^ (b ^^^ d) := by
  simp only [UInt16.xor_assoc, xor_left_comm16 b c d]

/-- Folding an octet in is linear in the register and the octet together. -/
theorem update_xor (r s : UInt16) (a b : UInt8) : update (r ^^^ s) (a ^^^ b) = update r a ^^^ update s b := by
  have hidx : (r ^^^ s).toUInt8 ^^^ (a ^^^ b) = (r.toUInt8 ^^^ a) ^^^ (s.toUInt8 ^^^ b) := by
    rw [UInt16.toUInt8_xor]
    apply UInt8.toBitVec_inj.1
    simp only [UInt8.toBitVec_xor]
    ac_rfl
  simp only [update, UInt16.shiftRight_xor, hidx, entry_xor]
  exact xor_xor_xor_comm _ _ _ _

theorem entry_zero : entry 0 = 0 := by decide

/-- From the zero register an octet leaves its table entry. -/
theorem update_zero_left (x : UInt8) : update 0 x = entry x := by
  simp [update]

/-- A register is zero when its low and its high octet are. -/
theorem eq_zero_of_low_high {s : UInt16} (hl : s.toUInt8 = 0) (hh : s >>> 8 = 0) : s = 0 := by
  apply UInt16.toNat_inj.1
  have hl' := congrArg UInt8.toNat hl
  have hh' := congrArg UInt16.toNat hh
  simp only [UInt16.toNat_toUInt8, UInt8.toNat_zero, UInt16.toNat_shiftRight, UInt16.toNat_zero] at hl' hh'
  have hs := s.toNat_lt
  rw [UInt16.toNat_zero]
  rw [Nat.shiftRight_eq_div_pow] at hh'
  simp only [UInt16.reduceToNat, Nat.reduceMod, Nat.reducePow] at hl' hh' hs
  omega

/-- A zero octet never takes a nonzero register to zero. -/
theorem update_zero_eq_zero {s : UInt16} (h : update s 0 = 0) : s = 0 := by
  -- the high octet of the result is that of the entry of the register's low octet alone
  have hhigh : entry s.toUInt8 >>> 8 = 0 := by
    have := update_high s 0
    rwa [h, UInt8.xor_zero, show (0 : UInt16) >>> 8 = 0 from rfl, eq_comm] at this
  have hlow : s.toUInt8 = 0 := eq_zero_of_entry_high hhigh
  have hrest : s >>> 8 = 0 := by
    have h' : (s >>> 8) ^^^ entry (s.toUInt8 ^^^ 0) = 0 := h
    rwa [hlow, UInt8.xor_zero, entry_zero, UInt16.xor_zero] at h'
  exact eq_zero_of_low_high hlow hrest

/-- Zero octets never take a nonzero register to zero. -/
theorem foldl_zero_ne_zero {s : UInt16} (hs : s ≠ 0) (n : Nat) : (List.replicate n 0).foldl update s ≠ 0 := by
  induction n generalizing s with
  | zero => exact hs
  | succ n ih => exact ih fun h => hs (update_zero_eq_zero h)

/-- Folding the same octets into two registers keeps their difference running on zero octets. -/
theorem foldl_update_xor (r s : UInt16) (bs : List UInt8) :
    bs.foldl update r ^^^ bs.foldl update s = (List.replicate bs.length 0).foldl update (r ^^^ s) := by
  induction bs generalizing r s with
  | nil => rfl
  | cons b rest ih =>
    simp only [List.foldl_cons, List.length_cons, List.replicate_succ, ih]
    rw [← update_xor, UInt8.xor_self]

/-- Two frames of one length that differ in exactly one octet leave different registers. -/
theorem compute_set_ne {u : List UInt8} {j : Nat} (hj : j < u.length) {c : UInt8} (hc : c ≠ u[j]) :
    compute (u.set j c) ≠ compute u := by
  have hu : u = u.take j ++ u[j] :: u.drop (j + 1) := by
    rw [List.getElem_cons_drop, List.take_append_drop]
  have hset : u.set j c = u.take j ++ c :: u.drop (j + 1) := by
    rw [List.set_eq_take_append_cons_drop, if_pos hj]
  rw [hset]
  conv => rhs; rw [hu]
  intro heq
  simp only [compute_append, List.foldl_cons] at heq
  -- the two registers differ in the entry of the change, which zero octets never cancel
  have hdiff := foldl_update_xor (update (compute (u.take j)) c) (update (compute (u.take j)) u[j]) (u.drop (j + 1))
  rw [heq, UInt16.xor_self, ← update_xor, UInt16.xor_self, update_zero_left] at hdiff
  have hne : entry (c ^^^ u[j]) ≠ 0 := fun h0 =>
    hc (UInt8.xor_eq_zero_iff.1 (eq_zero_of_entry_high (by rw [h0]; rfl)))
  exact foldl_zero_ne_zero hne _ hdiff.symm

end Fcs

/-! ## Unescaping a run with one octet replaced -/

/-- An octet other than the escape octet stands for itself in front of any run. -/
theorem unescape_cons_of_ne {c : UInt8} (hc : c ≠ escape) (s : List UInt8) :
    unescape (c :: s) = (unescape s).map (c :: ·) := by
  have h := unescape_append (p := [c]) (u := [c]) (by simp [unescape, hc]) s
  simpa using h

theorem unescape_escaped (b : UInt8) : unescape (Encoder.escaped b) = some [b] := by
  unfold Encoder.escaped
  split
  · simp [unescape, UInt8.xor_assoc, escapeMask]
  · rename_i hb
    have hne : b ≠ escape := by
      simp only [needsEscape, Bool.or_eq_true, beq_iff_eq, not_or] at hb
      exact hb.1.1.1.2
    simp [unescape, hne]

/-- Unescaping undoes escaping. -/
theorem unescape_escapeAll (bs : List UInt8) : unescape (bs.flatMap Encoder.escaped) = some bs := by
  induction bs with
  | nil => rfl
  | cons b rest ih => simp [List.flatMap_cons, unescape_append (unescape_escaped b), ih]

/-- An escaped run holds no flag. -/
theorem flag_not_mem_escapeAll (bs : List UInt8) : flag ∉ bs.flatMap Encoder.escaped := by
  intro h
  obtain ⟨b, -, hb⟩ := List.mem_flatMap.1 h
  exact (mem_escaped hb).1 rfl

/-- Replacing an octet of an escaped run that is not an escape octet, by one that is not an
escape octet either, is read back as the run's octets with exactly one of them changed: the
octet itself when it stood for itself, and the escaped octet when it was an escape's partner. -/
theorem unescape_set_escapeAll (bs : List UInt8) {k : Nat} (hk : k < (bs.flatMap Encoder.escaped).length)
    (hesc : (bs.flatMap Encoder.escaped)[k] ≠ escape) {c : UInt8} (hce : c ≠ escape)
    (hc : c ≠ (bs.flatMap Encoder.escaped)[k]) :
    ∃ j, ∃ hj : j < bs.length, ∃ c', c' ≠ bs[j] ∧
      unescape ((bs.flatMap Encoder.escaped).set k c) = some (bs.set j c') := by
  induction bs generalizing k with
  | nil => simp at hk
  | cons b rest ih =>
    simp only [List.flatMap_cons] at hk hesc hc ⊢
    by_cases hin : k < (Encoder.escaped b).length
    · -- the replaced octet belongs to `b`
      refine ⟨0, by simp, ?_⟩
      rw [List.set_append_left k c hin]
      rw [List.getElem_append_left hin] at hesc hc
      by_cases hb : needsEscape b = true
      · -- an escape pair: the first octet is the escape, so the partner was replaced
        have hpair : Encoder.escaped b = [escape, b ^^^ escapeMask] := by simp [Encoder.escaped, hb]
        simp only [hpair, List.length_cons, List.length_nil] at hin hesc hc ⊢
        obtain rfl : k = 1 := by
          rcases (show k = 0 ∨ k = 1 by omega) with rfl | rfl
          · exact absurd rfl hesc
          · rfl
        refine ⟨c ^^^ escapeMask, fun h => hc ?_, ?_⟩
        · have h' : c ^^^ escapeMask = b := h
          show c = b ^^^ escapeMask
          rw [← h', UInt8.xor_assoc, UInt8.xor_self, UInt8.xor_zero]
        · simp [unescape, unescape_escapeAll]
      · -- a plain octet replaced by another
        have hplain : Encoder.escaped b = [b] := by simp [Encoder.escaped, hb]
        simp only [hplain, List.length_cons, List.length_nil] at hin hesc hc ⊢
        obtain rfl : k = 0 := by omega
        refine ⟨c, hc, ?_⟩
        simp [unescape_cons_of_ne hce, unescape_escapeAll]
    · -- the replaced octet belongs to the rest
      have hle : (Encoder.escaped b).length ≤ k := by omega
      have hk' : k - (Encoder.escaped b).length < (rest.flatMap Encoder.escaped).length := by
        simp only [List.length_append] at hk
        omega
      rw [List.getElem_append_right hle] at hesc hc
      obtain ⟨j, hj, c', hc', hu⟩ := ih hk' hesc hc
      refine ⟨j + 1, by simpa using hj, c', by simpa using hc', ?_⟩
      rw [List.set_append_right k c hle, unescape_append (unescape_escaped b), hu]
      rfl

/-! ## The decoder reports the corrupted frame as dropped -/

open Decoder in
/-- A fresh decoder fed one frame whose body holds no flag reports what that body comes to. -/
theorem decode_new_frame {M : Nat} {S : List UInt8} (hS : flag ∉ S) :
    ((Decoder.new M).decode (flag :: S ++ [flag])).2 = (segmentOutcome M S).toList := by
  have hsplit : (S ++ [flag]).splitOn flag = [S, []] :=
    List.splitOnP_append_cons_of_forall_mem (fun x hx => by simpa using ne_of_mem_of_not_mem hx hS) _ (by simp) _
  have hrest := decode_collects List.not_mem_nil (collects_nil M) (S ++ [flag])
  rw [List.nil_append, hsplit] at hrest
  simp only [List.cons_append, decode, feed_flag_new, hrest]
  cases h : segmentOutcome M S <;> simp [h]

/-- A frame with one octet replaced is dropped as `parse`, and nothing else is reported. The
frame is any that `encodeFrame` wrote, read by a fresh decoder with room for the payload and its
check sequence; the replaced octet is any between the two flags other than an escape octet, and
the new octet any other than the flag and the escape octet. -/
theorem single_octet_corruption_detected {N M : Nat} {p : List UInt8} {w : FrameBuffer}
    (hw : encodeFrame N p = .ok w) (hM : p.length + 2 ≤ M) {i : Nat} (hi0 : 0 < i) (hi : i + 1 < w.data.length)
    (hesc : w.data[i] ≠ escape) {c : UInt8} (hcf : c ≠ flag) (hce : c ≠ escape) (hc : c ≠ w.data[i]) :
    ((Decoder.new M).decode (w.data.set i c)).2 = [.error .parse] := by
  obtain ⟨hd, -⟩ := encodeFrame_ok hw
  -- the body between the flags: the payload and its check sequence, escaped
  set body := p ++ Fcs.lowHigh (Fcs.trailer p) with hbody
  have hw' : w.data = flag :: body.flatMap Encoder.escaped ++ [flag] := hd
  obtain ⟨k, rfl⟩ : ∃ k, i = k + 1 := ⟨i - 1, by omega⟩
  have hk : k < (body.flatMap Encoder.escaped).length := by
    rw [hw'] at hi
    simpa using hi
  have hat : w.data[k + 1] = (body.flatMap Encoder.escaped)[k] := by
    simp only [hw', List.cons_append, List.getElem_cons_succ]
    exact List.getElem_append_left hk
  rw [hat] at hesc hc
  have hset : w.data.set (k + 1) c = flag :: (body.flatMap Encoder.escaped).set k c ++ [flag] := by
    rw [hw', List.cons_append, List.set_cons_succ, List.set_append_left k c hk]
    rfl
  obtain ⟨j, hj, c', hc', hu⟩ := unescape_set_escapeAll body hk hesc hce hc
  have hnoflag : flag ∉ (body.flatMap Encoder.escaped).set k c := fun h =>
    (List.mem_or_eq_of_mem_set h).elim (flag_not_mem_escapeAll body) (fun h' => hcf h'.symm)
  have hlen : (body.set j c').length = p.length + 2 := by simp [hbody, Fcs.lowHigh]
  -- the changed body fails the check, which the body itself passes
  have hbad : Fcs.compute (body.set j c') ≠ Fcs.good := by
    rw [← Fcs.compute_append_trailer p]
    exact Fcs.compute_set_ne hj hc'
  have hne : body ≠ [] := by
    intro h
    simp [h] at hlen
  rw [hset, decode_new_frame hnoflag]
  simp only [segmentOutcome, hu, frameOutcome, hlen, hbad, fcsSize, show ¬ M < p.length + 2 by omega]
  simpa using hne

/-- The frame of `[0x7E, 0x11]` with the partner of its first escape, `0x5E`, turned into `0x5F`:
the decoder reads the payload `[0x7F, 0x11]` against the check sequence of `[0x7E, 0x11]` and
drops the frame. -/
theorem corrupted_partner_dropped :
    encodeFrame 2048 [0x7E, 0x11] = .ok ⟨2048, [0x7E, 0x7D, 0x5E, 0x7D, 0x31, 0x9B, 0x64, 0x7E], by decide⟩ ∧
      ((Decoder.new 4).decode ([0x7E, 0x7D, 0x5E, 0x7D, 0x31, 0x9B, 0x64, 0x7E].set 2 0x5F)).2 = [.error .parse] := by
  have hw : encodeFrame 2048 [0x7E, 0x11] =
      .ok ⟨2048, [0x7E, 0x7D, 0x5E, 0x7D, 0x31, 0x9B, 0x64, 0x7E], by decide⟩ := rfl
  exact ⟨hw, @single_octet_corruption_detected 2048 4 [0x7E, 0x11] _ hw (by decide) 2 (by decide) (by decide)
    (by decide) 0x5F (by decide) (by decide) (by decide)⟩

end ThreadPlatform.Hdlc
