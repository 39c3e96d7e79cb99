import ThreadPlatform.Proofs.Hdlc.Wire
import ThreadPlatform.Hdlc.Decoder
/-!
# The decoder reads back what the encoder wrote

A frame written by `encodeFrame` is read back by a decoder of any state, fed in chunks
cut anywhere: the opening flag settles what the decoder had in progress (at most one
outcome, `(d.feed flag).2`), the frame itself is reported once and intact, and the decoder
is left between frames (`Decoder.idle`). Frames may follow each other directly, and one
flag may close a frame and open the next.

The decoder sees an escaped octet as the octet itself (`Decoder.decode_escaped`), so the
body of a frame reaches the buffer unchanged; the check register then ends at `Fcs.good`
by the residue of the check sequence.
-/

namespace ThreadPlatform.Hdlc

@[simp] theorem FrameBuffer.capacity_empty (capacity : Nat) : (FrameBuffer.empty capacity).capacity = capacity :=
  rfl

namespace Decoder

/-- Between frames: in sync, nothing collected, the register at its start value. -/
def idle (capacity : Nat) : Decoder :=
  ⟨FrameBuffer.empty capacity, .inFrame, Fcs.init, false⟩

@[simp] theorem capacity_idle (M : Nat) : (idle M).buffer.capacity = M := rfl

/-- Several `decode` calls one after the other, the state carried from each to the next. -/
def decodeChunks (d : Decoder) : List (List UInt8) → Decoder × List Outcome
  | [] => (d, [])
  | c :: cs =>
    let (d₁, out₁) := d.decode c
    let (d₂, out₂) := d₁.decodeChunks cs
    (d₂, out₁ ++ out₂)

/-- How the octets were cut into calls does not matter. -/
theorem decodeChunks_eq_decode (d : Decoder) (cs : List (List UInt8)) :
    d.decodeChunks cs = d.decode cs.flatten := by
  induction cs generalizing d with
  | nil => rfl
  | cons c cs ih => simp [decodeChunks, ih, decode_append]

/-! ## Collecting octets -/

@[simp] theorem phase_accept (d : Decoder) (b : UInt8) : (d.accept b).phase = d.phase := by
  unfold accept
  split
  · rfl
  · split <;> rfl

@[simp] theorem capacity_accept (d : Decoder) (b : UInt8) :
    (d.accept b).buffer.capacity = d.buffer.capacity := by
  unfold accept
  split
  · rfl
  · split
    · rename_i buf h
      exact (FrameBuffer.push_eq_ok h).2
    · rfl

theorem accept_setPhase (d : Decoder) (ph : Phase) (b : UInt8) :
    ({ d with phase := ph } : Decoder).accept b = { d.accept b with phase := ph } := by
  cases hp : d.buffer.push b <;> simp [accept, hp] <;> split <;> rfl

@[simp] theorem capacity_foldl_accept (d : Decoder) (bs : List UInt8) :
    (bs.foldl accept d).buffer.capacity = d.buffer.capacity := by
  induction bs generalizing d with
  | nil => rfl
  | cons b rest ih => simp [ih]

@[simp] theorem phase_foldl_accept (d : Decoder) (bs : List UInt8) :
    (bs.foldl accept d).phase = d.phase := by
  induction bs generalizing d with
  | nil => rfl
  | cons b rest ih => simp [ih]

theorem accept_of_room {d : Decoder} (ho : d.overflowed = false)
    (hroom : d.buffer.data.length < d.buffer.capacity) (b : UInt8) :
    (d.accept b).buffer.data = d.buffer.data ++ [b] ∧ (d.accept b).fcs = Fcs.update d.fcs b ∧
      (d.accept b).overflowed = false := by
  unfold accept
  split
  · simp_all
  · split
    · rename_i buf h
      exact ⟨(FrameBuffer.push_eq_ok h).1, rfl, ho⟩
    · rename_i h
      simp [FrameBuffer.push, hroom] at h

/-- Octets that fit are collected in order and folded into the register. -/
theorem foldl_accept {d : Decoder} (ho : d.overflowed = false) (bs : List UInt8)
    (hroom : d.buffer.data.length + bs.length ≤ d.buffer.capacity) :
    (bs.foldl accept d).buffer.data = d.buffer.data ++ bs ∧
      (bs.foldl accept d).fcs = bs.foldl Fcs.update d.fcs ∧
      (bs.foldl accept d).overflowed = false := by
  induction bs generalizing d with
  | nil => simp [ho]
  | cons b rest ih =>
    obtain ⟨hd, hf, ho'⟩ := accept_of_room ho (by simp at hroom; omega) b
    have hroom' : (d.accept b).buffer.data.length + rest.length ≤ (d.accept b).buffer.capacity := by
      rw [hd, capacity_accept]
      simp at hroom ⊢
      omega
    obtain ⟨h1, h2, h3⟩ := ih ho' hroom'
    simp only [List.foldl_cons]
    exact ⟨by rw [h1, hd]; simp, by rw [h2, hf], h3⟩

/-! ## Unescaping -/

/-- Inside a frame, the escaped form of an octet is read as the octet. -/
theorem decode_escaped {d : Decoder} (hd : d.phase = .inFrame) (b : UInt8) :
    d.decode (Encoder.escaped b) = (d.accept b, []) := by
  unfold Encoder.escaped
  split
  · rename_i hb
    -- no reserved octet turns into the flag once its bit 5 is flipped
    have hne : b ^^^ escapeMask ≠ flag := by
      simp only [needsEscape, Bool.or_eq_true, beq_iff_eq] at hb
      rcases hb with (((rfl | rfl) | rfl) | rfl) | rfl <;> decide
    have hx : b ^^^ escapeMask ^^^ escapeMask = b := by
      rw [UInt8.xor_assoc, UInt8.xor_self, UInt8.xor_zero]
    have hph : (d.accept b).phase = .inFrame := by rw [phase_accept, hd]
    simp only [decode, feed, hd, hne, hx, accept_setPhase, if_true, if_false, escape]
    rw [← hph]
    rfl
  · rename_i hb
    simp only [needsEscape, Bool.or_eq_true, beq_iff_eq, not_or] at hb
    simp [decode, feed, hd, hb.1.1.1.1, hb.1.1.1.2]

theorem decode_escapeAll {d : Decoder} (hd : d.phase = .inFrame) (bs : List UInt8) :
    d.decode (bs.flatMap Encoder.escaped) = (bs.foldl accept d, []) := by
  induction bs generalizing d with
  | nil => rfl
  | cons b rest ih =>
    have hph : (d.accept b).phase = .inFrame := by rw [phase_accept, hd]
    simp [List.flatMap_cons, decode_append, decode_escaped hd, ih hph]

/-! ## Flags -/

/-- Inside a frame, a flag closes it with the frame's verdict. -/
theorem feed_flag_inFrame {d : Decoder} (hd : d.phase = .inFrame) :
    d.feed flag = (idle d.buffer.capacity, d.verdict) := by
  have hne : flag ≠ escape := by decide
  simp only [feed, hd, hne, if_false, if_true]
  cases d
  simp_all [startFrame, idle, FrameBuffer.clear]

/-- A flag ends whatever was in progress and leaves the decoder between frames. -/
theorem feed_flag_fst (d : Decoder) : (d.feed flag).1 = idle d.buffer.capacity := by
  cases hph : d.phase with
  | hunting => simp [feed, hph, startFrame, idle, FrameBuffer.clear]
  | inFrame => rw [feed_flag_inFrame hph]
  | escaped => simp [feed, hph, startFrame, idle, FrameBuffer.clear]

/-- A flag right after another reports nothing. -/
theorem feed_flag_idle (M : Nat) : (idle M).feed flag = (idle M, none) := by
  rfl

/-- A fresh decoder's first flag reports nothing either. -/
theorem feed_flag_new (M : Nat) : (Decoder.new M).feed flag = (idle M, none) := by
  rfl

/-! ## Whole frames -/

/-- Between frames, a frame without its opening flag is read back as its payload. -/
theorem decode_wire_tail {M : Nat} {p : List UInt8} (hM : p.length + 2 ≤ M) :
    (idle M).decode (wire p).tail = (idle M, [.ok p]) := by
  rw [show (wire p).tail = (p ++ Fcs.lowHigh (Fcs.trailer p)).flatMap Encoder.escaped ++ [flag] by
    simp [wire]]
  generalize hbody : p ++ Fcs.lowHigh (Fcs.trailer p) = body
  have hlen : body.length = p.length + 2 := by
    rw [← hbody]
    simp [Fcs.lowHigh]
  obtain ⟨hdata, hfcs, hover⟩ := foldl_accept (d := idle M) rfl body (by simp [idle, hlen, hM])
  have hdata' : (body.foldl accept (idle M)).buffer.data = body := by simpa [idle] using hdata
  have hgood : (body.foldl accept (idle M)).fcs = Fcs.good := by
    rw [hfcs, ← Fcs.compute_append_trailer p, hbody]
    rfl
  -- the closing flag finds the whole body collected and the register at `good`
  have hverdict : (body.foldl accept (idle M)).verdict = some (.ok p) := by
    simp only [verdict, hover, FrameBuffer.size, hdata', hlen, hgood, fcsSize]
    subst hbody
    simp
  have hclose : (body.foldl accept (idle M)).feed flag = (idle M, some (.ok p)) := by
    have hph : (body.foldl accept (idle M)).phase = .inFrame := by simp [idle]
    rw [feed_flag_inFrame hph, hverdict, capacity_foldl_accept, capacity_idle]
  rw [decode_append, decode_escapeAll rfl]
  simp [decode, hclose]

/-- Fed a whole frame, a decoder in any state settles what it had in progress, reads back
the payload, and is left between frames. -/
theorem decode_wire (d : Decoder) {p : List UInt8} (hM : p.length + 2 ≤ d.buffer.capacity) :
    d.decode (wire p) = (idle d.buffer.capacity, (d.feed flag).2.toList ++ [.ok p]) := by
  have hsplit : wire p = flag :: (wire p).tail := by simp [wire]
  rw [hsplit]
  simp only [decode]
  rw [feed_flag_fst, decode_wire_tail hM]

/-- Frames that follow a frame: each written whole, or without its opening flag, the
previous closing flag standing in for it. -/
inductive FrameTrain (M : Nat) : List UInt8 → List (List UInt8) → Prop where
  | nil : FrameTrain M [] []
  | whole {N p w rest ps} : encodeFrame N p = .ok w → p.length + 2 ≤ M →
      FrameTrain M rest ps → FrameTrain M (w.data ++ rest) (p :: ps)
  | shared {N p w rest ps} : encodeFrame N p = .ok w → p.length + 2 ≤ M →
      FrameTrain M rest ps → FrameTrain M (w.data.tail ++ rest) (p :: ps)

/-- Between frames, a train of frames is read back payload by payload. -/
theorem decode_frameTrain {M : Nat} {s : List UInt8} {ps : List (List UInt8)} (h : FrameTrain M s ps) :
    (idle M).decode s = (idle M, ps.map .ok) := by
  induction h with
  | nil => rfl
  | whole hw hM _ ih =>
    rw [decode_append, (encodeFrame_ok hw).1, decode_wire (idle M) (by simpa using hM), capacity_idle,
      feed_flag_idle, ih]
    simp
  | shared hw hM _ ih =>
    rw [decode_append, (encodeFrame_ok hw).1, decode_wire_tail hM]
    simp [ih]

end Decoder

open Decoder in
/-- Every encoded frame is read back intact. For a decoder of capacity `M` with room for the
payload and its check sequence, in any state and fed the frame in chunks cut anywhere, the
opening flag settles the frame in progress (at most one outcome), then the payload is
reported, and the decoder is left in sync with an empty buffer, the register at its start
value and no overflow. A fresh decoder fed a frame and then a train of frames, each whole
or sharing its opening flag with the previous closing one, reports exactly their payloads. -/
theorem encodeFrame_decodes :
    (∀ (N M : Nat) (p : List UInt8) (w : FrameBuffer), encodeFrame N p = .ok w → p.length + 2 ≤ M →
      ∀ (d : Decoder) (chunks : List (List UInt8)), d.buffer.capacity = M → chunks.flatten = w.data →
        d.decodeChunks chunks = (idle M, (d.feed flag).2.toList ++ [.ok p])) ∧
    (∀ (N M : Nat) (p : List UInt8) (w : FrameBuffer) (rest : List UInt8) (ps : List (List UInt8)),
      encodeFrame N p = .ok w → p.length + 2 ≤ M → FrameTrain M rest ps →
        (Decoder.new M).decode (w.data ++ rest) = (idle M, (p :: ps).map .ok)) := by
  constructor
  · intro N M p w hw hM d chunks hcap hchunks
    subst hcap
    rw [decodeChunks_eq_decode, hchunks, (encodeFrame_ok hw).1, decode_wire d hM]
  · intro N M p w rest ps hw hM htrain
    rw [decode_append, (encodeFrame_ok hw).1, decode_wire (Decoder.new M) hM, feed_flag_new]
    simp [Decoder.new, decode_frameTrain htrain]

/-- Both halves at work: a frame of two reserved octets, cut into three calls, fed to a
decoder stopped right after an escape octet; and a fresh decoder fed that frame, a frame
sharing its flag, and a whole frame. -/
theorem encodeFrame_decodes_after_escape :
    (encodeFrame 2048 [0x7E, 0x11] = .ok ⟨2048, [0x7E, 0x7D, 0x5E, 0x7D, 0x31, 0x9B, 0x64, 0x7E], by decide⟩ ∧
      ((Decoder.new 2048).decode [0x7E, 0x41, 0x7D]).1.decodeChunks
          [[0x7E, 0x7D], [0x5E, 0x7D, 0x31, 0x9B], [0x64, 0x7E]] =
        (Decoder.idle 2048, [.error .parse, .ok [0x7E, 0x11]])) ∧
    (Decoder.FrameTrain 2048 [0x01, 0xF1, 0xE1, 0x7E, 0x7E, 0x02, 0x6A, 0xD3, 0x7E] [[0x01], [0x02]] ∧
      (Decoder.new 2048).decode
          [0x7E, 0x7D, 0x5E, 0x7D, 0x31, 0x9B, 0x64, 0x7E, 0x01, 0xF1, 0xE1, 0x7E, 0x7E, 0x02, 0x6A, 0xD3, 0x7E] =
        (Decoder.idle 2048, [.ok [0x7E, 0x11], .ok [0x01], .ok [0x02]])) := by
  have hw : encodeFrame 2048 [0x7E, 0x11] =
      .ok ⟨2048, [0x7E, 0x7D, 0x5E, 0x7D, 0x31, 0x9B, 0x64, 0x7E], by decide⟩ := rfl
  have htrain : Decoder.FrameTrain 2048 [0x01, 0xF1, 0xE1, 0x7E, 0x7E, 0x02, 0x6A, 0xD3, 0x7E] [[0x01], [0x02]] :=
    @Decoder.FrameTrain.shared 2048 2048 [0x01] ⟨2048, [0x7E, 0x01, 0xF1, 0xE1, 0x7E], by decide⟩
      [0x7E, 0x02, 0x6A, 0xD3, 0x7E] [[0x02]] rfl (by decide)
      (@Decoder.FrameTrain.whole 2048 2048 [0x02] ⟨2048, [0x7E, 0x02, 0x6A, 0xD3, 0x7E], by decide⟩
        [] [] rfl (by decide) .nil)
  refine ⟨⟨hw, encodeFrame_decodes.1 2048 2048 _ _ hw (by decide) _ _ rfl rfl⟩, htrain, ?_⟩
  exact encodeFrame_decodes.2 2048 2048 _ _ _ _ hw (by decide) htrain

end ThreadPlatform.Hdlc
