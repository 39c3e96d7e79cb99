import ThreadPlatform.Proofs.Radio.Transmit
/-!
# What the peer reads of a run of sends

A run of the send path (`RadioLink.TxRun`) is a sequence of sends and wire steps after
bring-up; each send is recorded as the attempt it made (`RadioLink.attempt`): its payload,
whether it reported success, and how many octets of its frame got into the FIFO. What the
attempts got out is, in order, the octets the wire took followed by the FIFO
(`RadioLink.TxState`).

`RadioLink.peer_reads_sent_frames_in_order`: a fresh decoder fed those octets reports, send by
send, the payload of each send that reported success and at most one dropped frame, never a
payload, for each send that failed, as long as no failed send that got anything out, read on
with what the later sends got out, begins with a whole frame.

That proviso is needed. A send that runs out of room after queueing all its frame but the
closing flag fails, yet the next send's opening flag closes its frame, and the frame is read as
sent (`RadioLink.failed_send_read_as_frame`).
-/

namespace ThreadPlatform

namespace RadioLink

/-- What a run of the send path keeps: the link's descriptor names its UART, whatever the
attempts got out is the octets the wire took followed by the FIFO, and every attempt can be
followed by a reader of the largest frame. -/
structure TxState (as : List Hdlc.Attempt) (r : RadioLink) (b : Board) : Prop where
  descriptor : ∃ fd, r.fd = some fd ∧ b.machine.table.lookup fd = .ok r.device
  stream : ∃ u Y, b.machine.uartAt r.device = some u ∧ Y ++ u.tx = as.flatMap Hdlc.Attempt.octets
  valid : ∀ a ∈ as, a.Valid Hdlc.maxFrameSize

namespace TxState
variable {as : List Hdlc.Attempt} {r r' : RadioLink} {b b' : Board}

/-- The wire takes octets from the front of the FIFO and changes nothing else that counts. -/
theorem wire {X : List UInt8} (hs : TxState as r b) (hw : Machine.WireFrame r.device X b.machine b'.machine) :
    TxState as r b' := by
  obtain ⟨fd, hfd, ht⟩ := hs.descriptor
  obtain ⟨u, Y, hu, hY⟩ := hs.stream
  obtain ⟨u', Y', hu', hY', -⟩ := (Machine.TxFrame.of_wireFrame hw).uart u hu
  refine ⟨⟨fd, hfd, by rw [hw.table, ht]⟩, ⟨u', Y ++ Y', hu', ?_⟩, hs.valid⟩
  rw [List.append_assoc, hY', List.append_nil, hY]

/-- A send appends its attempt: what it got out follows what the earlier ones did. -/
theorem send {p : List UInt8} {res : Except ThreadError Unit} (hs : TxState as r b)
    (h : exec (sendFrame p) r b = (.ok (res, r'), b')) : TxState (as ++ [r.attempt p b res]) r' b' := by
  obtain ⟨fd, hfd, ht⟩ := hs.descriptor
  obtain ⟨u, Y, hu, hY⟩ := hs.stream
  obtain ⟨hdev, hfd', htab, hvalid, u', Y', hu', hY'⟩ := exec_sendFrame hfd ht hu h
  refine ⟨⟨fd, by rw [hfd', hfd], by rw [htab, hdev, ht]⟩, ⟨u', Y ++ Y', by rw [hdev]; exact hu', ?_⟩, ?_⟩
  · rw [List.append_assoc, hY', ← List.append_assoc, hY, List.flatMap_append, List.flatMap_singleton]
  · intro a ha
    rcases List.mem_append.1 ha with ha | ha
    · exact hs.valid a ha
    · rw [List.mem_singleton.1 ha]
      exact hvalid

/-- Right after bring-up the FIFO is empty and nothing was attempted. -/
theorem init {r₀ r₁ : RadioLink} {b₀ b₁ : Board} {u₀ : Uart} (hu₀ : b₀.machine.uartAt r₀.device = some u₀)
    (hinit : exec RadioLink.init r₀ b₀ = (.ok (.ok (), r₁), b₁)) : TxState [] r₁ b₁ := by
  obtain ⟨fd, u', rfl, hinst, ht, hu'⟩ := init_ok hu₀ hinit
  have htx : u'.tx = [] := by rw [Uart.install_eq_ok hinst]
  exact ⟨⟨fd, rfl, ht⟩, ⟨u', [], hu', by simp [htx]⟩, by simp⟩

end TxState

/-- A run of the send path from link `r₀` on board `b₀`: wire steps and sends, each send
recorded as the attempt it made. -/
inductive TxRun (r₀ : RadioLink) (b₀ : Board) : List Hdlc.Attempt → RadioLink → Board → Prop where
  | start : TxRun r₀ b₀ [] r₀ b₀
  | wire {as : List Hdlc.Attempt} {r : RadioLink} {b b' : Board} {X : List UInt8} :
      TxRun r₀ b₀ as r b → Machine.WireFrame r.device X b.machine b'.machine → TxRun r₀ b₀ as r b'
  | send {as : List Hdlc.Attempt} {r r' : RadioLink} {b b' : Board} {p : List UInt8}
      {res : Except ThreadError Unit} :
      TxRun r₀ b₀ as r b → exec (sendFrame p) r b = (.ok (res, r'), b') →
      TxRun r₀ b₀ (as ++ [r.attempt p b res]) r' b'

theorem TxRun.txState {r₀ r : RadioLink} {b₀ b : Board} {as : List Hdlc.Attempt}
    (h₀ : TxState [] r₀ b₀) (hrun : TxRun r₀ b₀ as r b) : TxState as r b := by
  induction hrun with
  | start => exact h₀
  | wire _ hw ih => exact ih.wire hw
  | send _ h ih => exact ih.send h

/-- Two sends, with the wire taking everything queued in between, are a run that records the
two attempts. -/
theorem TxRun.send_takeTx_send {r₀ r₁ r₂ : RadioLink} {b₀ b₁ b₂ : Board} {p q : List UInt8}
    {res₁ res₂ : Except ThreadError Unit} {a₁ a₂ : Hdlc.Attempt}
    (h₁ : exec (sendFrame p) r₀ b₀ = (.ok (res₁, r₁), b₁)) (ha₁ : r₀.attempt p b₀ res₁ = a₁)
    (h₂ : exec (sendFrame q) r₁ { b₁ with machine := ((Machine.takeTx r₁.device).run b₁.machine).2 } =
      (.ok (res₂, r₂), b₂))
    (ha₂ : r₁.attempt q { b₁ with machine := ((Machine.takeTx r₁.device).run b₁.machine).2 } res₂ = a₂) :
    TxRun r₀ b₀ [a₁, a₂] r₂ b₂ := by
  subst ha₁ ha₂
  obtain ⟨X, hX⟩ := (Machine.keepsWire_takeTx r₁.device : Machine.KeepsWire r₁.device _) b₁.machine
  exact TxRun.send (TxRun.wire (TxRun.send TxRun.start h₁) hX) h₂

open Hdlc in
/-- What a run of sends after bring-up puts on the wire is read, by a fresh decoder of the
largest frame, send by send: the payload of each send that reported success, in order, and at
most one dropped frame, never a payload, for each send that failed; provided no failed send
that got anything out, read on with what the later sends got out, begins with a whole frame.
The octets meant are those the wire took followed by what is still queued. -/
theorem peer_reads_sent_frames_in_order {r₀ r₁ r : RadioLink} {b₀ b₁ b : Board} {u₀ : Uart}
    {as : List Attempt} (hu₀ : b₀.machine.uartAt r₀.device = some u₀)
    (hinit : exec init r₀ b₀ = (.ok (.ok (), r₁), b₁)) (hrun : TxRun r₁ b₁ as r b)
    (hclean : Attempt.NoStrayFrame as) :
    (∃ u Y, b.machine.uartAt r.device = some u ∧ Y ++ u.tx = as.flatMap Attempt.octets) ∧
      ∃ outs, List.Forall₂ Attempt.Reported as outs ∧
        ((Decoder.new maxFrameSize).decode (as.flatMap Attempt.octets)).2 = outs.flatten := by
  have hs := hrun.txState (TxState.init hu₀ hinit)
  exact ⟨hs.stream, Decoder.decode_attempts hs.valid hclean⟩

/-! ## Runs checked by evaluation -/

open Hdlc in
/-- A send of two octets runs out of room in a FIFO of four and fails with the front of its
frame queued; the wire drains the FIFO and an empty frame goes out whole. The front is read as
a dropped frame, the empty frame as sent. -/
theorem peer_reads_failed_send_as_dropped :
    ∃ r₁ b₁ r b, (Board.new PlatformParams.standard).machine.uartAt 2 = some (Uart.new 1) ∧
      exec init (new 2 UartParams.radioLink 256 4 (Span.ofMillis 2000)) (Board.new PlatformParams.standard) =
        (.ok (.ok (), r₁), b₁) ∧
      TxRun r₁ b₁ [⟨[0x01, 0x02], false, 4⟩, ⟨[], true, 4⟩] r b ∧
      Attempt.NoStrayFrame [⟨[0x01, 0x02], false, 4⟩, ⟨[], true, 4⟩] ∧
      ((∃ u Y, b.machine.uartAt r.device = some u ∧
          Y ++ u.tx = ([⟨[0x01, 0x02], false, 4⟩, ⟨[], true, 4⟩] : List Attempt).flatMap Attempt.octets) ∧
        ∃ outs, List.Forall₂ Attempt.Reported [⟨[0x01, 0x02], false, 4⟩, ⟨[], true, 4⟩] outs ∧
          ((Decoder.new maxFrameSize).decode
              (([⟨[0x01, 0x02], false, 4⟩, ⟨[], true, 4⟩] : List Attempt).flatMap Attempt.octets)).2 =
            outs.flatten) := by
  let r₀ := new 2 UartParams.radioLink 256 4 (Span.ofMillis 2000)
  let b₀ := Board.new PlatformParams.standard
  let r₁ : RadioLink := { r₀ with fd := some ⟨3, by decide⟩ }
  let b₁ := (exec init r₀ b₀).2
  let b₂ := (exec (sendFrame [0x01, 0x02]) r₁ b₁).2
  let b₃ : Board := { b₂ with machine := ((Machine.takeTx 2).run b₂.machine).2 }
  let r₂ : RadioLink := { r₁ with counters := { r₁.counters with txFrames := 1 } }
  let b₄ := (exec (sendFrame []) r₁ b₃).2
  have hinit : exec init r₀ b₀ = (.ok (.ok (), r₁), b₁) := rfl
  have hsend₁ : exec (sendFrame [0x01, 0x02]) r₁ b₁ = (.ok (.error .failed, r₁), b₂) := by
    have h : (exec (sendFrame [0x01, 0x02]) r₁ b₁).1 = .ok (.error .failed, r₁) := by decide +kernel
    rw [← h]
  have hatt₁ : r₁.attempt [0x01, 0x02] b₁ (.error .failed) = ⟨[0x01, 0x02], false, 4⟩ := by
    decide +kernel
  have hsend₂ : exec (sendFrame []) r₁ b₃ = (.ok (.ok (), r₂), b₄) := by
    have h : (exec (sendFrame []) r₁ b₃).1 = .ok (.ok (), r₂) := by decide +kernel
    rw [← h]
  have hatt₂ : r₁.attempt [] b₃ (.ok ()) = ⟨[], true, 4⟩ := by
    decide +kernel
  have hrun : TxRun r₁ b₁ [⟨[0x01, 0x02], false, 4⟩, ⟨[], true, 4⟩] r₂ b₄ :=
    TxRun.send_takeTx_send hsend₁ hatt₁ hsend₂ hatt₂
  -- the failed front ends in a check that fails, so it is no whole frame
  have hclean : Attempt.NoStrayFrame [⟨[0x01, 0x02], false, 4⟩, ⟨[], true, 4⟩] := by
    intro pre a post hsplit hf _ q rest heq
    match pre, hsplit with
    | [], hsplit =>
      simp only [List.nil_append, List.cons.injEq] at hsplit
      obtain ⟨rfl, rfl⟩ := hsplit
      -- a frame that long has a payload of at most four octets
      have hlen := congrArg List.length heq
      have h8 : (Attempt.octets ⟨[0x01, 0x02], false, 4⟩ ++
          ([⟨[], true, 4⟩] : List Attempt).flatMap Attempt.octets).length = 8 := by decide
      have hwire := length_wire q
      have hfit : q.length + 2 ≤ maxFrameSize := by
        rw [h8, List.length_append] at hlen
        unfold maxFrameSize
        omega
      have hread := Decoder.decode_new_wire_append hfit rest
      rw [← heq] at hread
      have hdec : ((Decoder.new maxFrameSize).decode (Attempt.octets ⟨[0x01, 0x02], false, 4⟩ ++
          ([⟨[], true, 4⟩] : List Attempt).flatMap Attempt.octets)).2 = [.error .parse, .ok []] := by
        decide +kernel
      rw [hdec] at hread
      cases hread
    | [_], hsplit =>
      simp only [List.cons_append, List.nil_append, List.cons.injEq] at hsplit
      obtain ⟨-, rfl, -⟩ := hsplit
      cases hf
    | _ :: _ :: _, hsplit => simp at hsplit
  have hu₀ : b₀.machine.uartAt r₀.device = some (Uart.new 1) := rfl
  exact ⟨r₁, b₁, r₂, b₄, hu₀, hinit, hrun, hclean, peer_reads_sent_frames_in_order hu₀ hinit hrun hclean⟩


open Hdlc in
/-- A send of one octet runs out of room in a FIFO of four with all its frame but the closing
flag queued, and fails; the wire drains the FIFO and an empty frame goes out whole. Its opening
flag closes the failed frame, which is read as sent: no reading of the stream send by send
gives the failed send at most a dropped frame. -/
theorem failed_send_read_as_frame :
    ∃ r₁ b₁ r b,
      exec init (new 2 UartParams.radioLink 256 4 (Span.ofMillis 2000)) (Board.new PlatformParams.standard) =
        (.ok (.ok (), r₁), b₁) ∧
      TxRun r₁ b₁ [⟨[0x01], false, 4⟩, ⟨[], true, 4⟩] r b ∧
      ((Decoder.new maxFrameSize).decode
          (([⟨[0x01], false, 4⟩, ⟨[], true, 4⟩] : List Attempt).flatMap Attempt.octets)).2 =
        [.ok [0x01], .ok []] ∧
      ¬ ∃ outs, List.Forall₂ Attempt.Reported [⟨[0x01], false, 4⟩, ⟨[], true, 4⟩] outs ∧
          ((Decoder.new maxFrameSize).decode
              (([⟨[0x01], false, 4⟩, ⟨[], true, 4⟩] : List Attempt).flatMap Attempt.octets)).2 =
            outs.flatten := by
  let r₀ := new 2 UartParams.radioLink 256 4 (Span.ofMillis 2000)
  let b₀ := Board.new PlatformParams.standard
  let r₁ : RadioLink := { r₀ with fd := some ⟨3, by decide⟩ }
  let b₁ := (exec init r₀ b₀).2
  let b₂ := (exec (sendFrame [0x01]) r₁ b₁).2
  let b₃ : Board := { b₂ with machine := ((Machine.takeTx 2).run b₂.machine).2 }
  let r₂ : RadioLink := { r₁ with counters := { r₁.counters with txFrames := 1 } }
  let b₄ := (exec (sendFrame []) r₁ b₃).2
  have hinit : exec init r₀ b₀ = (.ok (.ok (), r₁), b₁) := rfl
  have hsend₁ : exec (sendFrame [0x01]) r₁ b₁ = (.ok (.error .failed, r₁), b₂) := by
    have h : (exec (sendFrame [0x01]) r₁ b₁).1 = .ok (.error .failed, r₁) := by decide +kernel
    rw [← h]
  have hatt₁ : r₁.attempt [0x01] b₁ (.error .failed) = ⟨[0x01], false, 4⟩ := by
    decide +kernel
  have hsend₂ : exec (sendFrame []) r₁ b₃ = (.ok (.ok (), r₂), b₄) := by
    have h : (exec (sendFrame []) r₁ b₃).1 = .ok (.ok (), r₂) := by decide +kernel
    rw [← h]
  have hatt₂ : r₁.attempt [] b₃ (.ok ()) = ⟨[], true, 4⟩ := by
    decide +kernel
  have hrun : TxRun r₁ b₁ [⟨[0x01], false, 4⟩, ⟨[], true, 4⟩] r₂ b₄ :=
    TxRun.send_takeTx_send hsend₁ hatt₁ hsend₂ hatt₂
  have hdec : ((Decoder.new maxFrameSize).decode
      (([⟨[0x01], false, 4⟩, ⟨[], true, 4⟩] : List Attempt).flatMap Attempt.octets)).2 =
        [.ok [0x01], .ok []] := by
    decide +kernel
  refine ⟨r₁, b₁, r₂, b₄, hinit, hrun, hdec, ?_⟩
  -- the failed send would have to account for the first payload
  rintro ⟨outs, hrel, hflat⟩
  rcases hrel with _ | ⟨hfirst, _ | ⟨hsecond, hrest⟩⟩
  cases hrest
  simp only [Attempt.Reported, Bool.false_eq_true, if_false, if_true] at hfirst hsecond
  rw [hdec, hsecond] at hflat
  rcases hfirst with rfl | ⟨e, rfl⟩ <;> simp at hflat

end RadioLink

end ThreadPlatform
