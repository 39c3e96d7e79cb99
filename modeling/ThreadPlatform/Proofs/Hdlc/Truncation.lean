import ThreadPlatform.Proofs.Hdlc.RoundTrip
import Mathlib.Data.List.Forall2
/-!
# Frames cut short

A sender that gives up in the middle of a frame leaves its front on the wire. What a reader
makes of it is settled here.

The check is exact (`Fcs.compute_append_pair_eq_good_iff`): a payload and two more octets
pass it only when those two are the payload's check sequence. The register is linear in
what is folded in, and the high octet of a table entry tells its index, so the last two
octets are determined by the register they must reach.

The front of a frame (`Decoder.Cut`) is nothing, the whole frame, or the opening flag and an
escaped front of the body, perhaps with a lone escape octet. A decoder reads such a front
without reporting anything; the flag that comes next reports a payload only when the front,
closed by that flag, is a whole frame (`Decoder.decode_cut`).

An `Attempt` is one sender's try at a frame: the payload, whether the sender reported it
sent, and how many octets of the frame got out. `Decoder.decode_attempts`: a fresh decoder fed
what a run of attempts got out reports, attempt by attempt, each frame reported sent and at
most one dropped frame for every other attempt, provided no failed attempt, read on with what
followed it, begins with a whole frame (`Attempt.NoStrayFrame`). Without that proviso a failed
attempt can be read as a frame: its front lacks only the closing flag, and the next attempt's
opening flag supplies it.
-/

namespace ThreadPlatform.Hdlc

/-! ## The check is exact -/

namespace Fcs

theorem and_one_cases (a : UInt16) : a &&& 1 = 0 ∨ a &&& 1 = 1 := by
  have h : (a &&& 1).toNat < 2 := by
    rw [UInt16.toNat_and]
    exact Nat.lt_of_le_of_lt Nat.and_le_right (by decide)
  have h' : (a &&& 1).toNat = 0 ∨ (a &&& 1).toNat = 1 := by omega
  rcases h' with h0 | h1
  · exact .inl (UInt16.toNat_inj.1 h0)
  · exact .inr (UInt16.toNat_inj.1 h1)

theorem and_xor_one (a b : UInt16) : (a ^^^ b) &&& 1 = (a &&& 1) ^^^ (b &&& 1) := by
  apply UInt16.toBitVec_inj.1
  ext i
  simp [Bool.and_xor_distrib_right]

theorem xor_left_comm16 (a b c : UInt16) : a ^^^ (b ^^^ c) = b ^^^ (a ^^^ c) := by
  rw [← UInt16.xor_assoc, UInt16.xor_comm a b, UInt16.xor_assoc]

theorem xor_cancel_left16 (a b : UInt16) : a ^^^ (a ^^^ b) = b := by
  rw [← UInt16.xor_assoc, UInt16.xor_self, UInt16.zero_xor]

/-- Each step of the division commutes with exclusive or: the register is linear. -/
theorem shift_xor (a b : UInt16) : shift (a ^^^ b) = shift a ^^^ shift b := by
  unfold shift
  rw [and_xor_one, UInt16.shiftRight_xor]
  rcases and_one_cases a with ha | ha <;> rcases and_one_cases b with hb | hb <;>
    simp [ha, hb, UInt16.xor_comm, xor_left_comm16, xor_cancel_left16]

theorem shifts_xor (n : Nat) (a b : UInt16) : shifts n (a ^^^ b) = shifts n a ^^^ shifts n b := by
  induction n generalizing a b with
  | zero => rfl
  | succ n ih => simp only [shifts, shift_xor, ih]

theorem entry_xor (i j : UInt8) : entry (i ^^^ j) = entry i ^^^ entry j := by
  simp only [entry, UInt8.toUInt16_xor, shifts_xor]

/-- Checked over the whole table: only the entry of 0 has a zero high octet. -/
theorem entry_high_eq_zero_table : ∀ n, n < 256 → entry (UInt8.ofNat n) >>> 8 = 0 → n = 0 := by
  decide +kernel

theorem eq_zero_of_entry_high {k : UInt8} (h : entry k >>> 8 = 0) : k = 0 := by
  have hk := entry_high_eq_zero_table k.toNat k.toNat_lt (by rw [UInt8.ofNat_toNat]; exact h)
  exact UInt8.toNat_inj.1 hk

/-- The high octet of a table entry tells the entry's index. -/
theorem entry_high_inj {i j : UInt8} (h : entry i >>> 8 = entry j >>> 8) : i = j := by
  have h0 : entry (i ^^^ j) >>> 8 = 0 := by
    rw [entry_xor, UInt16.shiftRight_xor, h, UInt16.xor_self]
  exact UInt8.xor_eq_zero_iff.1 (eq_zero_of_entry_high h0)

/-- After an octet is folded in, the register's high octet is that of the entry alone. -/
theorem update_high (r : UInt16) (x : UInt8) : update r x >>> 8 = entry (r.toUInt8 ^^^ x) >>> 8 := by
  rw [update, UInt16.shiftRight_xor, shiftRight_eight_twice, UInt16.zero_xor]

/-- From a given register, two octets folded in are told apart by the register they leave. -/
theorem update_update_inj {r : UInt16} {a b a' b' : UInt8}
    (h : update (update r a) b = update (update r a') b') : a = a' ∧ b = b' := by
  have hk : (update r a).toUInt8 ^^^ b = (update r a').toUInt8 ^^^ b' :=
    entry_high_inj (by rw [← update_high, ← update_high, h])
  have hhigh : update r a >>> 8 = update r a' >>> 8 := by
    have h' : update r a >>> 8 ^^^ entry ((update r a).toUInt8 ^^^ b) =
        update r a' >>> 8 ^^^ entry ((update r a').toUInt8 ^^^ b') := h
    rwa [hk, UInt16.xor_left_inj] at h'
  rw [update_high, update_high] at hhigh
  have ha : a = a' := (UInt8.xor_right_inj _).1 (entry_high_inj hhigh)
  subst ha
  exact ⟨rfl, (UInt8.xor_right_inj _).1 hk⟩

/-- The receiver's test is exact: a register ends at `good` after two more octets exactly
when they are the complement of the register, low octet first. -/
theorem update_update_eq_good_iff (r : UInt16) (a b : UInt8) :
    update (update r a) b = good ↔ [a, b] = lowHigh (r ^^^ 0xFFFF) := by
  constructor
  · intro h
    have hres := foldl_lowHigh_complement r
    simp only [lowHigh, List.foldl_cons, List.foldl_nil] at hres ⊢
    obtain ⟨rfl, rfl⟩ := update_update_inj (h.trans hres.symm)
    rfl
  · intro h
    rw [← foldl_lowHigh_complement r, ← h]
    rfl

/-- A payload and two more octets pass the check exactly when those are its check sequence. -/
theorem compute_append_pair_eq_good_iff (q : List UInt8) (a b : UInt8) :
    compute (q ++ [a, b]) = good ↔ [a, b] = lowHigh (trailer q) := by
  rw [compute_append]
  exact update_update_eq_good_iff (compute q) a b

end Fcs

/-! ## The front of a frame -/

namespace Decoder

/-- The front of a run of escaped octets is the escaped form of a front of them, possibly
followed by the escape octet of the next one. -/
theorem take_escapeAll (bs : List UInt8) (k : Nat) :
    ∃ j, (bs.flatMap Encoder.escaped).take k = (bs.take j).flatMap Encoder.escaped ∨
      (bs.flatMap Encoder.escaped).take k = (bs.take j).flatMap Encoder.escaped ++ [escape] := by
  induction bs generalizing k with
  | nil => exact ⟨0, .inl (by simp)⟩
  | cons b rest ih =>
    rw [List.flatMap_cons, List.take_append]
    by_cases hk : (Encoder.escaped b).length ≤ k
    · obtain ⟨j, hj⟩ := ih (k - (Encoder.escaped b).length)
      refine ⟨j + 1, ?_⟩
      rw [List.take_of_length_le hk]
      simpa using hj
    · -- the cut falls inside the escaped form of `b`: before it, or right after its escape octet
      have hrest : k - (Encoder.escaped b).length = 0 := by omega
      refine ⟨0, ?_⟩
      rw [hrest, List.take_zero, List.append_nil]
      cases hesc : needsEscape b with
      | true =>
        simp only [Encoder.escaped, hesc, if_true, List.length_cons, List.length_nil] at hk ⊢
        rcases (show k = 0 ∨ k = 1 by omega) with rfl | rfl <;> simp
      | false =>
        simp only [Encoder.escaped, hesc, Bool.false_eq_true, if_false, List.length_cons,
          List.length_nil] at hk ⊢
        obtain rfl : k = 0 := by omega
        simp

/-- The front of the frame of `p`: nothing; the whole frame; or the opening flag and the
escaped form of a front of the payload and check sequence, perhaps followed by the escape
octet of the next one. -/
inductive Cut (p : List UInt8) : List UInt8 → Prop
  | none : Cut p []
  | whole : Cut p (wire p)
  | body (j : Nat) : Cut p (flag :: ((p ++ Fcs.lowHigh (Fcs.trailer p)).take j).flatMap Encoder.escaped)
  | escape (j : Nat) :
      Cut p (flag :: ((p ++ Fcs.lowHigh (Fcs.trailer p)).take j).flatMap Encoder.escaped ++ [escape])

theorem cut_take_wire (p : List UInt8) (k : Nat) : Cut p ((wire p).take k) := by
  cases k with
  | zero => exact .none
  | succ m =>
    generalize hE : (p ++ Fcs.lowHigh (Fcs.trailer p)).flatMap Encoder.escaped = E
    have hwire : wire p = flag :: (E ++ [flag]) := by simp [wire, hE]
    by_cases hm : m ≤ E.length
    · have htake : (wire p).take (m + 1) = flag :: E.take m := by
        rw [hwire, List.take_succ_cons, List.take_append_of_le_length hm]
      obtain ⟨j, hj | hj⟩ := take_escapeAll (p ++ Fcs.lowHigh (Fcs.trailer p)) m
      · rw [htake, ← hE, hj]
        exact .body j
      · rw [htake, ← hE, hj]
        exact .escape j
    · rw [List.take_of_length_le (by rw [hwire]; simp; omega)]
      exact .whole

/-- Cut inside its body, a frame leaves the decoder collecting the part that got through; the
opening flag settled what was in progress before. -/
theorem decode_flag_escapeAll (d : Decoder) (c : List UInt8) :
    d.decode (flag :: c.flatMap Encoder.escaped) =
      (c.foldl accept (idle d.buffer.capacity), (d.feed flag).2.toList) := by
  simp only [decode]
  rw [feed_flag_fst, decode_escapeAll rfl]
  simp

/-- Cut right after an escape octet, it leaves the decoder waiting for the escaped octet. -/
theorem decode_flag_escapeAll_escape (d : Decoder) (c : List UInt8) :
    d.decode (flag :: c.flatMap Encoder.escaped ++ [escape]) =
      ({ c.foldl accept (idle d.buffer.capacity) with phase := .escaped }, (d.feed flag).2.toList) := by
  rw [List.cons_append, ← List.singleton_append, decode_append, decode_append]
  simp only [decode, Prod.mk.injEq]
  rw [feed_flag_fst, decode_escapeAll rfl]
  have hph : (c.foldl accept (idle d.buffer.capacity)).phase = .inFrame := by simp [idle]
  simp [feed, hph, escape]

/-- A flag after a lone escape octet drops the frame. -/
theorem feed_flag_escaped (d : Decoder) :
    (({ d with phase := .escaped } : Decoder).feed flag).2 = some (.error .parse) := by
  simp [feed]

/-- Of collected octets that fit, a closing flag reports a payload only when they are that
payload followed by its check sequence. -/
theorem verdict_foldl_accept_ok {M : Nat} {c x : List UInt8} (hc : c.length ≤ M)
    (h : (c.foldl accept (idle M)).verdict = some (.ok x)) : ∃ q, c = q ++ Fcs.lowHigh (Fcs.trailer q) := by
  obtain ⟨hdata, hfcs, hover⟩ := foldl_accept (d := idle M) rfl c (by simpa [idle] using hc)
  have hdata' : (c.foldl accept (idle M)).buffer.data = c := by simpa [idle] using hdata
  have hcheck : 2 ≤ c.length ∧ Fcs.compute c = Fcs.good := by
    simp only [verdict, hover, FrameBuffer.size, hdata', fcsSize, Bool.false_eq_true, if_false] at h
    split at h
    · rename_i hok
      exact ⟨hok.1, by rw [← hok.2, hfcs]; rfl⟩
    · split at h <;> simp at h
  obtain ⟨hlen, hgood⟩ := hcheck
  have hlen2 : (c.drop (c.length - 2)).length = 2 := by simp; omega
  obtain ⟨a, b, hab⟩ : ∃ a b, c.drop (c.length - 2) = [a, b] :=
    ⟨_, _, List.eq_getElem_of_length_eq_two _ hlen2⟩
  have hsplit : c = c.take (c.length - 2) ++ [a, b] := by rw [← hab, List.take_append_drop]
  rw [hsplit, Fcs.compute_append_pair_eq_good_iff] at hgood
  exact ⟨c.take (c.length - 2), by rw [← hgood]; exact hsplit⟩

/-- What a decoder makes of the front of a frame: after settling what it had in progress, the
payload if the whole frame got through; otherwise nothing yet, and a state whose closing flag
reports a payload only if the front, closed by a flag, is a whole frame. -/
theorem decode_cut {d : Decoder} {p s : List UInt8} (hcut : Cut p s) (hs : s ≠ [])
    (hfit : p.length + 2 ≤ d.buffer.capacity) :
    (s = wire p ∧ d.decode s = (idle d.buffer.capacity, (d.feed flag).2.toList ++ [.ok p])) ∨
      ∃ d', d'.buffer.capacity = d.buffer.capacity ∧ d.decode s = (d', (d.feed flag).2.toList) ∧
        ∀ x, (d'.feed flag).2 = some (.ok x) → ∃ q, s ++ [flag] = wire q := by
  have hbody : (p ++ Fcs.lowHigh (Fcs.trailer p)).length = p.length + 2 := by simp [Fcs.lowHigh]
  cases hcut with
  | none => exact absurd rfl hs
  | whole => exact .inl ⟨rfl, decode_wire d hfit⟩
  | body j =>
    refine .inr ⟨_, by simp [idle], decode_flag_escapeAll d _, fun x hx => ?_⟩
    have hph : ((p ++ Fcs.lowHigh (Fcs.trailer p)).take j |>.foldl accept (idle d.buffer.capacity)).phase =
        .inFrame := by simp [idle]
    rw [feed_flag_inFrame hph] at hx
    have hlen : ((p ++ Fcs.lowHigh (Fcs.trailer p)).take j).length ≤ d.buffer.capacity := by
      simp only [List.length_take, hbody]
      omega
    obtain ⟨q, hq⟩ := verdict_foldl_accept_ok hlen hx
    exact ⟨q, by rw [hq]; simp [wire]⟩
  | escape j =>
    refine .inr ⟨_, by simp [idle], decode_flag_escapeAll_escape d _, fun x hx => ?_⟩
    rw [feed_flag_escaped] at hx
    cases hx

end Decoder

/-! ## Attempts at sending -/

/-- One attempt at sending a frame: its payload, whether the sender reported it sent, and how
many octets of its frame got onto the wire. -/
structure Attempt where
  payload : List UInt8
  succeeded : Bool
  cut : Nat
  deriving DecidableEq, Repr

namespace Attempt

/-- The octets the attempt got onto the wire: the front of its frame. -/
def octets (a : Attempt) : List UInt8 := (wire a.payload).take a.cut

/-- An attempt a reader of capacity `M` can follow: the payload fits once anything of the frame
got out, and a frame reported sent got out whole. -/
structure Valid (M : Nat) (a : Attempt) : Prop where
  fits : a.cut ≠ 0 → a.payload.length + 2 ≤ M
  whole : a.succeeded = true → (wire a.payload).length ≤ a.cut

/-- What a reader should report for an attempt: the payload of a frame reported sent, and at
most one dropped frame, never a payload, for any other. -/
def Reported (a : Attempt) (outs : List Outcome) : Prop :=
  if a.succeeded then outs = [.ok a.payload] else outs = [] ∨ ∃ e, outs = [.error e]

/-- No failed attempt that got anything out, read on with what the later attempts got out,
begins with a whole frame. -/
def NoStrayFrame (as : List Attempt) : Prop :=
  ∀ pre a post, as = pre ++ a :: post → a.succeeded = false → a.octets ≠ [] →
    ∀ q rest, a.octets ++ post.flatMap octets ≠ wire q ++ rest

theorem NoStrayFrame.tail {a : Attempt} {as : List Attempt} (h : NoStrayFrame (a :: as)) :
    NoStrayFrame as := by
  intro pre b post hsplit
  exact h (a :: pre) b post (by rw [hsplit]; rfl)

theorem octets_eq_wire {M : Nat} {a : Attempt} (hv : a.Valid M) (hs : a.succeeded = true) :
    a.octets = wire a.payload :=
  List.take_of_length_le (hv.whole hs)

theorem cut_ne_zero {a : Attempt} (h : a.octets ≠ []) : a.cut ≠ 0 := by
  intro h0
  simp [octets, h0] at h

/-- Whatever got out of a frame starts with its opening flag. -/
theorem octets_eq_nil_or_flag (a : Attempt) : a.octets = [] ∨ ∃ t, a.octets = flag :: t := by
  have hwire : wire a.payload = flag :: (wire a.payload).tail := by simp [wire]
  unfold octets
  cases a.cut with
  | zero => exact .inl rfl
  | succ m =>
    rw [hwire, List.take_succ_cons]
    exact .inr ⟨_, rfl⟩

theorem flatMap_octets_eq_nil_or_flag (as : List Attempt) :
    as.flatMap octets = [] ∨ ∃ t, as.flatMap octets = flag :: t := by
  induction as with
  | nil => exact .inl rfl
  | cons a as ih =>
    rcases octets_eq_nil_or_flag a with ha | ⟨t, ht⟩
    · simpa [ha] using ih
    · exact .inr ⟨t ++ as.flatMap octets, by simp [ht]⟩

end Attempt

namespace Decoder

open Attempt

/-- From any decoder, the octets of a run of attempts are reported attempt by attempt, after
what the decoder had in progress, once anything got out to settle it. -/
theorem decode_attempts_from {M : Nat} :
    ∀ (as : List Attempt) (d : Decoder), d.buffer.capacity = M → (∀ a ∈ as, a.Valid M) →
      NoStrayFrame as → ∃ outs, List.Forall₂ Reported as outs ∧
        (d.decode (as.flatMap octets)).2 =
          (if as.flatMap octets = [] then [] else (d.feed flag).2.toList) ++ outs.flatten
  | [], d, _, _, _ => ⟨[], .nil, by simp [decode]⟩
  | a :: as, d, hd, hvalid, hclean => by
    have hva : a.Valid M := hvalid a (by simp)
    have hvas : ∀ b ∈ as, b.Valid M := fun b hb => hvalid b (by simp [hb])
    have hstray : a.succeeded = false → a.octets ≠ [] →
        ∀ q rest, a.octets ++ as.flatMap octets ≠ wire q ++ rest :=
      hclean [] a as rfl
    rw [List.flatMap_cons, decode_append]
    by_cases hs : a.succeeded = true
    · -- a frame reported sent got out whole and is read back; the decoder is then idle
      have ho := octets_eq_wire hva hs
      have hfit : a.payload.length + 2 ≤ d.buffer.capacity := by
        rw [hd]
        exact hva.fits (cut_ne_zero (by rw [ho]; simp [wire]))
      obtain ⟨outs, hrel, hdec⟩ := decode_attempts_from as (idle M) rfl hvas hclean.tail
      refine ⟨[.ok a.payload] :: outs, .cons (by simp [Reported, hs]) hrel, ?_⟩
      rw [ho, decode_wire d hfit, hd, hdec, feed_flag_idle]
      simp [wire]
    · have hf : a.succeeded = false := by simpa using hs
      by_cases hne : a.octets = []
      · -- nothing got out: the attempt adds nothing
        obtain ⟨outs, hrel, hdec⟩ := decode_attempts_from as d hd hvas hclean.tail
        refine ⟨[] :: outs, .cons (by simp [Reported, hf]) hrel, ?_⟩
        simpa [decode, hne] using hdec
      · have hfit : a.payload.length + 2 ≤ d.buffer.capacity := by
          rw [hd]
          exact hva.fits (cut_ne_zero hne)
        have hcut : Cut a.payload a.octets := cut_take_wire a.payload a.cut
        rcases decode_cut hcut hne hfit with ⟨hwhole, -⟩ | ⟨d', hcap, hdec₁, hok⟩
        · exact absurd (by rw [hwhole]) (hstray hf hne a.payload (as.flatMap octets))
        · -- a front cut short: its report comes with the next octets that got out
          obtain ⟨outs, hrel, hdec⟩ := decode_attempts_from as d' (by rw [hcap, hd]) hvas hclean.tail
          refine ⟨(if as.flatMap octets = [] then [] else (d'.feed flag).2.toList) :: outs,
            .cons ?_ hrel, ?_⟩
          · simp only [Reported, hf, Bool.false_eq_true, if_false]
            rcases flatMap_octets_eq_nil_or_flag as with hR | ⟨R, hR⟩
            · exact .inl (by simp [hR])
            · rw [if_neg (by simp [hR])]
              rcases hv : (d'.feed flag).2 with _ | (e | x)
              · exact .inl rfl
              · exact .inr ⟨e, rfl⟩
              · obtain ⟨q, hq⟩ := hok x hv
                exact absurd (by rw [hR, ← List.singleton_append, ← List.append_assoc, hq])
                  (hstray hf hne q R)
          · rw [hdec₁, hdec]
            simp [hne]

/-- Octets that begin with a whole frame are read, by a fresh decoder, as that frame first: what
a failed attempt must not leave. -/
theorem decode_new_wire_append {M : Nat} {q : List UInt8} (hM : q.length + 2 ≤ M) (rest : List UInt8) :
    ((Decoder.new M).decode (wire q ++ rest)).2 = .ok q :: ((idle M).decode rest).2 := by
  rw [decode_append, decode_wire (Decoder.new M) hM, feed_flag_new]
  rfl

/-- A fresh decoder fed the octets of a run of attempts reports, attempt by attempt, the
payload of each frame reported sent and at most one dropped frame for each other attempt, as
long as no failed attempt, read on with the later ones, begins with a whole frame. -/
theorem decode_attempts {M : Nat} {as : List Attempt} (hvalid : ∀ a ∈ as, a.Valid M)
    (hclean : NoStrayFrame as) :
    ∃ outs, List.Forall₂ Reported as outs ∧ ((Decoder.new M).decode (as.flatMap octets)).2 = outs.flatten := by
  obtain ⟨outs, hrel, hdec⟩ := decode_attempts_from as (Decoder.new M) rfl hvalid hclean
  refine ⟨outs, hrel, ?_⟩
  rw [hdec, feed_flag_new]
  split <;> simp

end Decoder

end ThreadPlatform.Hdlc
