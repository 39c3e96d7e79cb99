import ThreadPlatform.Proofs.Hdlc.AllOrNothing
/-!
# What the encoder puts on the wire

`encodeFrame` writes, for a payload `p`, exactly `wire p`: the opening flag, the
payload followed by its check sequence with every reserved octet escaped, and the
closing flag (`encodeFrame_ok`). The check sequence is chosen so that the register
run over the payload and then over the check sequence always ends at `Fcs.good`
(`Fcs.compute_append_trailer`): the receiver needs no other test than that one.

Each of the encoder's steps is all or nothing (`Encoder.put`), so `encodeFrame` either
writes the whole frame or fails with `noBufs`, exactly when the frame does not fit
(`encodeFrame_eq`). In a frame the flag stands only at its two ends, and the flow-control
and vendor octets never appear (`encodeFrame_capacity_law`).
-/

namespace ThreadPlatform.Hdlc

/-! ## The residue of a frame -/

namespace Fcs

theorem shiftRight_eight_twice (r : UInt16) : r >>> 8 >>> 8 = 0 := by
  apply UInt16.toNat_inj.1
  have := r.toNat_lt
  simp [UInt16.toNat_shiftRight, Nat.shiftRight_eq_div_pow]
  omega

theorem xor_xor_cancel (a b : UInt8) : a ^^^ (a ^^^ b) = b := by
  rw [← UInt8.xor_assoc, UInt8.xor_self, UInt8.zero_xor]

/-- Folding in the complement of the register, low octet first, ends at `good` from every
register: the low octet cancels the register's low half, the high octet what is left of
it, so only a constant remains. -/
theorem foldl_lowHigh_complement (r : UInt16) : (lowHigh (r ^^^ 0xFFFF)).foldl update r = good := by
  simp only [lowHigh, List.foldl_cons, List.foldl_nil, update]
  simp only [UInt16.toUInt8_xor, UInt16.shiftRight_xor, shiftRight_eight_twice, UInt16.zero_xor,
    xor_xor_cancel]
  generalize (r >>> 8).toUInt8 = a
  have hcancel : ∀ c d : UInt8, a ^^^ c ^^^ (a ^^^ d) = c ^^^ d := by
    intro c d
    rw [UInt8.xor_comm a c, UInt8.xor_assoc, xor_xor_cancel]
  rw [hcancel]
  decide

/-- A payload followed by its check sequence leaves the register at `good`. -/
theorem compute_append_trailer (p : List UInt8) : compute (p ++ lowHigh (trailer p)) = good := by
  rw [compute_append, trailer]
  exact foldl_lowHigh_complement (compute p)

end Fcs

/-! ## Whole frames -/

/-- The octets of the frame that carries `p`: the opening flag, the payload and its check
sequence with every reserved octet escaped, and the closing flag. -/
def wire (p : List UInt8) : List UInt8 :=
  flag :: (p ++ Fcs.lowHigh (Fcs.trailer p)).flatMap Encoder.escaped ++ [flag]

/-- The frame of `p` as `encodeFrame` writes it: the opening flag, the escaped payload, then the
escaped check sequence and the closing flag, each step done in full; or `noBufs` as soon as a step
does not fit, which happens exactly when the whole frame does not. -/
theorem encodeFrame_eq (N : Nat) (p : List UInt8) :
    encodeFrame N p = if h : (wire p).length ≤ N then .ok ⟨N, wire p, h⟩ else .error .noBufs := by
  have hlen : (wire p).length = (p.flatMap Encoder.escaped).length + 1 +
      ((Fcs.lowHigh (Fcs.trailer p)).flatMap Encoder.escaped ++ [flag]).length := by
    simp only [wire, List.flatMap_append, List.length_cons, List.length_append, List.length_nil]
    omega
  unfold encodeFrame
  dsimp only
  rw [Encoder.beginFrame_eq_put]
  -- the opening flag, the escaped payload, then the check sequence and the closing flag
  by_cases h₁ : 1 ≤ N
  · rw [Encoder.put_of_fits (by show 0 + 1 ≤ N; omega)]
    dsimp only
    rw [Encoder.encode_eq_put]
    by_cases h₂ : (p.flatMap Encoder.escaped).length + 1 ≤ N
    · rw [Encoder.put_of_fits (by show 1 + (p.flatMap Encoder.escaped).length ≤ N; omega)]
      dsimp only
      rw [Encoder.endFrame_eq_put]
      by_cases h₃ : (wire p).length ≤ N
      · rw [Encoder.put_of_fits (by
          show (p.flatMap Encoder.escaped).length + 1 +
            ((Fcs.lowHigh (Fcs.trailer p)).flatMap Encoder.escaped ++ [flag]).length ≤ N
          omega), dif_pos h₃]
        refine congrArg Except.ok (FrameBuffer.eq_of_data rfl ?_)
        simp [wire, Encoder.new, Fcs.trailer, Fcs.compute]
      · rw [Encoder.put_of_not_fits (by
          show ¬ (p.flatMap Encoder.escaped).length + 1 +
            ((Fcs.lowHigh (Fcs.trailer p)).flatMap Encoder.escaped ++ [flag]).length ≤ N
          omega), dif_neg h₃]
    · rw [Encoder.put_of_not_fits (by show ¬ 1 + (p.flatMap Encoder.escaped).length ≤ N; omega), dif_neg (by omega)]
  · rw [Encoder.put_of_not_fits (by show ¬ 0 + 1 ≤ N; omega), dif_neg (by omega)]

theorem encodeFrame_ok {N : Nat} {p : List UInt8} {w : FrameBuffer} (h : encodeFrame N p = .ok w) :
    w.data = wire p ∧ w.capacity = N := by
  rw [encodeFrame_eq] at h
  split at h
  · cases h
    exact ⟨rfl, rfl⟩
  · cases h

theorem length_le_length_escapeAll (bs : List UInt8) : bs.length ≤ (bs.flatMap Encoder.escaped).length := by
  induction bs with
  | nil => simp
  | cons b rest ih =>
    have : 1 ≤ (Encoder.escaped b).length := by
      unfold Encoder.escaped
      split <;> simp
    simp only [List.flatMap_cons, List.length_append, List.length_cons]
    omega

/-- A frame is at least four octets longer than its payload. -/
theorem length_wire (p : List UInt8) : p.length + 4 ≤ (wire p).length := by
  have := length_le_length_escapeAll (p ++ Fcs.lowHigh (Fcs.trailer p))
  simp only [wire, Fcs.lowHigh, List.length_append, List.length_cons, List.length_nil] at this ⊢
  omega

/-- Whatever fits in a frame buffer of `N` octets fits, without its framing, in a decoder
of at least that capacity. -/
theorem payload_fits_of_encodeFrame {N M : Nat} {p : List UInt8} {w : FrameBuffer}
    (h : encodeFrame N p = .ok w) (hNM : N ≤ M) : p.length + 2 ≤ M := by
  obtain ⟨hd, hc⟩ := encodeFrame_ok h
  have hlen := length_wire p
  have hbound := w.bounded
  rw [hd, hc] at hbound
  omega

/-! ## Reserved octets in a frame -/

/-- The escaped form of an octet holds neither the flag nor the flow-control and vendor octets:
each reserved octet is sent as the escape octet and a partner outside the reserved ones. -/
theorem mem_escaped {b y : UInt8} (hy : y ∈ Encoder.escaped b) : y ≠ flag ∧ y ≠ xon ∧ y ≠ xoff ∧ y ≠ vendor := by
  unfold Encoder.escaped at hy
  split at hy
  · rename_i hb
    simp only [needsEscape, Bool.or_eq_true, beq_iff_eq] at hb
    simp only [List.mem_cons, List.not_mem_nil, or_false] at hy
    rcases hy with rfl | rfl
    · decide
    · rcases hb with (((rfl | rfl) | rfl) | rfl) | rfl <;> decide
  · rename_i hb
    simp only [needsEscape, Bool.or_eq_true, beq_iff_eq, not_or] at hb
    rw [List.mem_singleton] at hy
    subst hy
    exact ⟨hb.1.1.1.1, hb.1.1.2, hb.1.2, hb.2⟩

/-- In a list that starts and ends with `x` and holds no other `x`, `x` stands only at the ends. -/
theorem getElem_eq_iff_ends {x : UInt8} {E : List UInt8} (hE : x ∉ E) (i : Nat) (hi : i < (x :: E ++ [x]).length) :
    (x :: E ++ [x])[i] = x ↔ i = 0 ∨ i = (x :: E ++ [x]).length - 1 := by
  have hlen : (x :: E ++ [x]).length = E.length + 2 := by simp
  by_cases hlast : i = E.length + 1
  · subst hlast
    have hx : (x :: E ++ [x])[E.length + 1] = x := by simp [List.getElem_append_right]
    simp only [hx, true_iff]
    omega
  · have hin : i < (x :: E).length := by
      simp only [List.length_cons]
      omega
    rw [List.getElem_append_left hin]
    cases i with
    | zero => simp
    | succ j =>
      -- inside the body: an octet of `E`, so not `x`
      have hj : j < E.length := by simpa using hin
      have hne : E[j] ≠ x := fun h => hE (h ▸ List.getElem_mem hj)
      simp only [List.getElem_cons_succ, hne, false_iff]
      omega

/-- The encoder's output and capacity law. The frame of `p` is `wire p`: the opening flag, the
payload followed by its check sequence (the complemented register, low octet first) with every
reserved octet escaped, and the closing flag. `encodeFrame` writes it exactly when it fits in the
buffer's `N` octets, and otherwise fails with `noBufs`, never answering part of a frame. In the
frame the flag stands only at the two ends, and the flow-control and vendor octets never appear.
Written in pieces between `beginFrame` and `endFrame`, by any mix of `encode` and `encodeByte`
calls, the payload gives the same frame. -/
theorem encodeFrame_capacity_law (N : Nat) (p : List UInt8) :
    encodeFrame N p = (if h : (wire p).length ≤ N then .ok ⟨N, wire p, h⟩ else .error .noBufs) ∧
      (∀ w : FrameBuffer, encodeFrame N p = .ok w →
        (∀ (i : Nat) (hi : i < w.data.length), w.data[i] = flag ↔ i = 0 ∨ i = w.data.length - 1) ∧
          ∀ x ∈ w.data, x ≠ xon ∧ x ≠ xoff ∧ x ≠ vendor) ∧
      ∀ pieces : List Encoder.Piece, pieces.flatMap Encoder.Piece.data = p →
        encodeFramePieces N pieces = encodeFrame N p := by
  refine ⟨encodeFrame_eq N p, fun w hw => ?_, fun pieces hp => by rw [encodeFramePieces_eq, hp]⟩
  obtain ⟨hd, -⟩ := encodeFrame_ok hw
  have hbody : ∀ y ∈ (p ++ Fcs.lowHigh (Fcs.trailer p)).flatMap Encoder.escaped,
      y ≠ flag ∧ y ≠ xon ∧ y ≠ xoff ∧ y ≠ vendor := by
    intro y hy
    obtain ⟨b, -, hb⟩ := List.mem_flatMap.1 hy
    exact mem_escaped hb
  rw [hd]
  refine ⟨getElem_eq_iff_ends (fun h => (hbody flag h).1 rfl), fun x hx => ?_⟩
  -- the two flags are none of the other reserved octets
  simp only [wire, List.mem_cons, List.mem_append, List.not_mem_nil, or_false] at hx
  rcases hx with (rfl | hx) | rfl
  · decide
  · exact (hbody x hx).2
  · decide

/-- At the capacity edge: the frame of `[0x7E, 0x11]` takes eight octets, four of them for the two
escapes, so a buffer of seven refuses it and one of eight holds it, also when the payload comes in
two calls; the flag stands at its two ends only. -/
theorem encodeFrame_fills_eight :
    encodeFrame 7 [0x7E, 0x11] = .error .noBufs ∧
      encodeFrame 8 [0x7E, 0x11] = .ok ⟨8, [0x7E, 0x7D, 0x5E, 0x7D, 0x31, 0x9B, 0x64, 0x7E], by decide⟩ ∧
      encodeFramePieces 8 [.octet 0x7E, .octets [0x11]] = encodeFrame 8 [0x7E, 0x11] ∧
      ∀ (i : Nat) (hi : i < 8), [0x7E, 0x7D, 0x5E, 0x7D, 0x31, 0x9B, 0x64, (0x7E : UInt8)][i] = flag ↔ i = 0 ∨ i = 7 := by
  have h₇ := encodeFrame_capacity_law 7 [0x7E, 0x11]
  have h₈ := encodeFrame_capacity_law 8 [0x7E, 0x11]
  have hw : encodeFrame 8 [0x7E, 0x11] = .ok ⟨8, [0x7E, 0x7D, 0x5E, 0x7D, 0x31, 0x9B, 0x64, 0x7E], by decide⟩ := by
    rw [h₈.1, dif_pos (by decide)]
    rfl
  refine ⟨by rw [h₇.1, dif_neg (by decide)], hw, h₈.2.2 _ rfl, ?_⟩
  exact (h₈.2.1 _ hw).1

end ThreadPlatform.Hdlc
