import ThreadPlatform.Hdlc.Encoder
/-!
# Encoder steps are all or nothing

The encoder writes into its buffer in place, octet by octet, and three devices undo a write
that runs out of room: `writeEscaped` checks for room for both octets of an escape before it
writes the first, `encode` cuts the buffer back to its length at the start and restores the
register, and `endFrame` cuts the buffer back too.

Together they make every step all or nothing (`Encoder.put`): a step that writes `out` and
sets the register to `fcs` appends all of `out` and sets the register when `out` fits, and
otherwise fails with `noBufs` and leaves the encoder as it was (`Encoder.encodeByte_eq_put`,
`Encoder.encode_eq_put`, `Encoder.endFrame_eq_put`; `beginFrame` resets the register first).
The argument follows the buffer: a run of writes that stops at its first failure has only
appended to the buffer (`FrameBuffer.Grows`), so cutting back to the length it had restores it.

Steps of that kind taken one after another, stopping at the first failure, are one such step
for everything they write (`Encoder.runEach_put`): a payload written in any pieces is written
as at once (`Encoder.runEach_writePiece`), and so is the frame (`encodeFramePieces_eq`).
`encoder_steps_all_or_nothing` states the law for each operation.
-/

namespace ThreadPlatform.Hdlc

namespace FrameBuffer

theorem eq_of_data {a b : FrameBuffer} (hc : a.capacity = b.capacity) (hd : a.data = b.data) : a = b := by
  cases a
  cases b
  simp only at hc hd
  subst hc hd
  rfl

/-- `buf` with `out` appended, where it fits. -/
def append (buf : FrameBuffer) (out : List UInt8) (h : buf.size + out.length ≤ buf.capacity) : FrameBuffer :=
  ⟨buf.capacity, buf.data ++ out, by simp only [size] at h; simp only [List.length_append]; omega⟩

@[simp] theorem capacity_append (buf : FrameBuffer) (out : List UInt8) (h) :
    (buf.append out h).capacity = buf.capacity := rfl

@[simp] theorem data_append (buf : FrameBuffer) (out : List UInt8) (h) :
    (buf.append out h).data = buf.data ++ out := rfl

@[simp] theorem size_append (buf : FrameBuffer) (out : List UInt8) (h) :
    (buf.append out h).size = buf.size + out.length := by
  simp [size]

theorem append_append (buf : FrameBuffer) (A B : List UInt8) (hA) (hB) (hAB) :
    (buf.append A hA).append B hB = buf.append (A ++ B) hAB :=
  eq_of_data rfl (by simp)

/-- Octets written as one unit: all of `out` when it fits, otherwise a refusal that leaves
the buffer as it was. -/
def extend (buf : FrameBuffer) (out : List UInt8) : Except FrameError Unit × FrameBuffer :=
  if h : buf.size + out.length ≤ buf.capacity then (.ok (), buf.append out h) else (.error .noBufs, buf)

/-- Runs of octets written one after another, stopping at the first that does not fit. -/
def extendEach (buf : FrameBuffer) : List (List UInt8) → Except FrameError Unit × FrameBuffer
  | [] => (.ok (), buf)
  | out :: outs => FrameBuffer.andThen (buf.extend out) (·.extendEach outs)

/-- The buffer `buf'` is `buf` with octets appended. -/
def Grows (buf buf' : FrameBuffer) : Prop :=
  buf'.capacity = buf.capacity ∧ ∃ out, buf'.data = buf.data ++ out

variable {buf buf' buf'' : FrameBuffer} {out : List UInt8}

theorem Grows.refl (buf : FrameBuffer) : Grows buf buf := ⟨rfl, [], by simp⟩

theorem Grows.trans (h₁ : Grows buf buf') (h₂ : Grows buf' buf'') : Grows buf buf'' := by
  obtain ⟨hc₁, X, hX⟩ := h₁
  obtain ⟨hc₂, Y, hY⟩ := h₂
  exact ⟨hc₂.trans hc₁, X ++ Y, by rw [hY, hX, List.append_assoc]⟩

theorem grows_append (buf : FrameBuffer) (out : List UInt8) (h) : Grows buf (buf.append out h) :=
  ⟨rfl, out, rfl⟩

/-- Cutting a grown buffer back to the length the buffer had gives the buffer back. -/
theorem Grows.truncate_size (h : Grows buf buf') : buf'.truncate buf.size = buf := by
  obtain ⟨hc, X, hX⟩ := h
  exact eq_of_data hc (by rw [data_truncate, hX, size, List.take_append_length])

theorem extend_of_fits (h : buf.size + out.length ≤ buf.capacity) : buf.extend out = (.ok (), buf.append out h) :=
  dif_pos h

theorem extend_of_not_fits (h : ¬ buf.size + out.length ≤ buf.capacity) : buf.extend out = (.error .noBufs, buf) :=
  dif_neg h

/-- A push in place is a write of one octet. -/
theorem pushInPlace_eq_extend (buf : FrameBuffer) (b : UInt8) : buf.pushInPlace b = buf.extend [b] := by
  by_cases h : buf.size + [b].length ≤ buf.capacity
  · have hlt : buf.data.length < buf.capacity := by simp only [size, List.length_singleton] at h; omega
    rw [extend_of_fits h]
    simp only [pushInPlace, push, dif_pos hlt]
    exact congrArg _ (eq_of_data rfl rfl)
  · have hlt : ¬ buf.data.length < buf.capacity := by simp only [size, List.length_singleton] at h; omega
    rw [extend_of_not_fits h]
    simp only [pushInPlace, push, dif_neg hlt]

theorem andThen_ok (buf : FrameBuffer) (next : FrameBuffer → Except FrameError Unit × FrameBuffer) :
    FrameBuffer.andThen (.ok (), buf) next = next buf := rfl

theorem andThen_error (err : FrameError) (buf : FrameBuffer) (next : FrameBuffer → Except FrameError Unit × FrameBuffer) :
    FrameBuffer.andThen (.error err, buf) next = (.error err, buf) := rfl

theorem andThen_assoc (r : Except FrameError Unit × FrameBuffer) (f g : FrameBuffer → Except FrameError Unit × FrameBuffer) :
    FrameBuffer.andThen (FrameBuffer.andThen r f) g = FrameBuffer.andThen r fun b => FrameBuffer.andThen (f b) g := by
  rcases r with ⟨_ | ⟨⟩, b⟩ <;> rfl

theorem andThen_done (r : Except FrameError Unit × FrameBuffer) : FrameBuffer.andThen r (fun b => (.ok (), b)) = r := by
  rcases r with ⟨_ | ⟨⟩, b⟩ <;> rfl

/-- Writes one after another that fit together are one write of everything, and a run whose
octets do not fit fails with `noBufs` having only appended to the buffer. -/
theorem extendEach_spec (buf : FrameBuffer) (outs : List (List UInt8)) :
    (∀ h : buf.size + outs.flatten.length ≤ buf.capacity, buf.extendEach outs = (.ok (), buf.append _ h)) ∧
      (¬ buf.size + outs.flatten.length ≤ buf.capacity →
        (buf.extendEach outs).1 = .error .noBufs ∧ Grows buf (buf.extendEach outs).2) := by
  induction outs generalizing buf with
  | nil =>
    refine ⟨fun h => congrArg (Prod.mk _) (eq_of_data rfl (by simp)), fun h => absurd ?_ h⟩
    simpa [size] using buf.bounded
  | cons out outs ih =>
    by_cases hout : buf.size + out.length ≤ buf.capacity
    · -- the first run fits: the rest is written after it
      have hrest := ih (buf.append out hout)
      simp only [size_append, capacity_append, List.flatten_cons, List.length_append, ← Nat.add_assoc] at hrest ⊢
      simp only [extendEach, extend_of_fits hout, andThen_ok]
      refine ⟨fun h => by rw [hrest.1 h, append_append], fun h => ?_⟩
      obtain ⟨herr, hg⟩ := hrest.2 h
      exact ⟨herr, (grows_append _ _ _).trans hg⟩
    · -- the first run does not fit: nothing is written
      have hnot : ¬ buf.size + (out :: outs).flatten.length ≤ buf.capacity := by
        simp only [List.flatten_cons, List.length_append]
        omega
      have hrun : buf.extendEach (out :: outs) = (.error .noBufs, buf) := by
        simp only [extendEach, extend_of_not_fits hout, andThen_error]
      rw [hrun]
      exact ⟨fun h => absurd h hnot, fun _ => ⟨rfl, Grows.refl buf⟩⟩

end FrameBuffer

namespace Encoder

variable {e e' : Encoder} {out : List UInt8} {fcs : UInt16}

/-- An all-or-nothing step: it writes all of `out` and sets the register to `fcs` when `out`
fits, and otherwise fails with `noBufs` and leaves the encoder as it was. -/
def put (e : Encoder) (out : List UInt8) (fcs : UInt16) : Except FrameError Unit × Encoder :=
  if h : e.buffer.size + out.length ≤ e.buffer.capacity then (.ok (), ⟨e.buffer.append out h, fcs⟩)
  else (.error .noBufs, e)

/-- Two successful steps that leave the same octets and the same register agree. -/
theorem ok_congr {b b' : FrameBuffer} {f : UInt16} (hd : b.data = b'.data) (hc : b.capacity = b'.capacity) :
    ((.ok () : Except FrameError Unit), (⟨b, f⟩ : Encoder)) = (.ok (), ⟨b', f⟩) := by
  rw [FrameBuffer.eq_of_data hc hd]

theorem put_of_fits (h : e.buffer.size + out.length ≤ e.buffer.capacity) :
    e.put out fcs = (.ok (), ⟨e.buffer.append out h, fcs⟩) :=
  dif_pos h

theorem put_of_not_fits (h : ¬ e.buffer.size + out.length ≤ e.buffer.capacity) : e.put out fcs = (.error .noBufs, e) :=
  dif_neg h

/-- A step that fails fails for lack of room and changes nothing. -/
theorem put_error {err : FrameError} (h : (e.put out fcs).1 = .error err) : err = .noBufs ∧ (e.put out fcs).2 = e := by
  by_cases hfit : e.buffer.size + out.length ≤ e.buffer.capacity
  · rw [put_of_fits hfit] at h
    cases h
  · rw [put_of_not_fits hfit] at h ⊢
    cases h
    exact ⟨rfl, rfl⟩

theorem put_ok_iff : (e.put out fcs).1 = .ok () ↔ e.buffer.size + out.length ≤ e.buffer.capacity := by
  by_cases hfit : e.buffer.size + out.length ≤ e.buffer.capacity
  · simp [put_of_fits hfit, hfit]
  · simp [put_of_not_fits hfit, hfit]

/-- A step that succeeds appended `out` and set the register. -/
theorem put_ok (h : e.put out fcs = (.ok (), e')) :
    e'.buffer.data = e.buffer.data ++ out ∧ e'.buffer.capacity = e.buffer.capacity ∧ e'.fcs = fcs := by
  by_cases hfit : e.buffer.size + out.length ≤ e.buffer.capacity
  · rw [put_of_fits hfit] at h
    cases h
    exact ⟨rfl, rfl, rfl⟩
  · rw [put_of_not_fits hfit] at h
    cases h

/-! ## Each operation is one step -/

/-- Thanks to the check for two free places, an escaped octet is written whole or not at all. -/
theorem writeEscaped_eq_extend (buf : FrameBuffer) (b : UInt8) : writeEscaped buf b = buf.extend (escaped b) := by
  unfold writeEscaped
  by_cases hb : needsEscape b = true
  · have hesc : escaped b = [escape, b ^^^ escapeMask] := by simp [escaped, hb]
    simp only [hb, if_true, hesc]
    by_cases hroom : buf.canWrite 2 = true
    · have h2 : 2 ≤ buf.capacity - buf.size := by simpa [FrameBuffer.canWrite] using hroom
      have hfit : buf.size + [escape, b ^^^ escapeMask].length ≤ buf.capacity := by
        have := buf.bounded
        simp only [FrameBuffer.size, List.length_cons, List.length_nil] at h2 ⊢
        omega
      have hfirst : buf.size + [escape].length ≤ buf.capacity := by
        simp only [List.length_cons, List.length_nil] at hfit ⊢
        omega
      have hsecond : (buf.append [escape] hfirst).size + [b ^^^ escapeMask].length ≤
          (buf.append [escape] hfirst).capacity := by
        simp only [FrameBuffer.size_append, FrameBuffer.capacity_append, List.length_cons, List.length_nil] at hfit ⊢
        omega
      -- both octets fit, so both pushes go through
      simp only [hroom, if_true, FrameBuffer.pushInPlace_eq_extend, FrameBuffer.extend_of_fits hfirst,
        FrameBuffer.andThen_ok]
      rw [FrameBuffer.extend_of_fits hsecond, FrameBuffer.extend_of_fits hfit]
      exact congrArg (Prod.mk _) (FrameBuffer.eq_of_data rfl (by simp))
    · have h2 : ¬ 2 ≤ buf.capacity - buf.size := by simpa [FrameBuffer.canWrite] using hroom
      have hnot : ¬ buf.size + [escape, b ^^^ escapeMask].length ≤ buf.capacity := by
        simp only [List.length_cons, List.length_nil]
        omega
      simp only [hroom, Bool.false_eq_true, if_false, FrameBuffer.extend_of_not_fits hnot]
  · have hesc : escaped b = [b] := by simp [escaped, hb]
    simp only [hb, Bool.false_eq_true, if_false, hesc, FrameBuffer.pushInPlace_eq_extend]

theorem encodeByte_eq_put (e : Encoder) (b : UInt8) : e.encodeByte b = e.put (escaped b) (Fcs.update e.fcs b) := by
  unfold encodeByte
  rw [writeEscaped_eq_extend]
  by_cases hfit : e.buffer.size + (escaped b).length ≤ e.buffer.capacity
  · rw [FrameBuffer.extend_of_fits hfit, put_of_fits hfit]
  · rw [FrameBuffer.extend_of_not_fits hfit, put_of_not_fits hfit]

/-- `beginFrame` resets the register, then writes the opening flag as one step. -/
theorem beginFrame_eq_put (e : Encoder) : e.beginFrame = ({ e with fcs := Fcs.init } : Encoder).put [flag] Fcs.init := by
  unfold beginFrame
  rw [FrameBuffer.pushInPlace_eq_extend]
  by_cases hfit : e.buffer.size + [flag].length ≤ e.buffer.capacity
  · rw [FrameBuffer.extend_of_fits hfit, @put_of_fits { e with fcs := Fcs.init } [flag] Fcs.init hfit]
  · rw [FrameBuffer.extend_of_not_fits hfit, @put_of_not_fits { e with fcs := Fcs.init } [flag] Fcs.init hfit]

/-- Steps taken in order from `e`, stopping at the first that fails, with the encoder as that
failure left it. -/
def runEach {α : Type} (step : Encoder → α → Except FrameError Unit × Encoder) (e : Encoder) :
    List α → Except FrameError Unit × Encoder
  | [] => (.ok (), e)
  | a :: as =>
    match step e a with
    | (.ok (), e') => runEach step e' as
    | (.error err, e') => (.error err, e')

theorem encodeEach_eq_runEach (e : Encoder) (data : List UInt8) : e.encodeEach data = runEach encodeByte e data := by
  induction data generalizing e with
  | nil => rfl
  | cons b rest ih =>
    simp only [encodeEach, runEach]
    rcases e.encodeByte b with ⟨_ | ⟨⟩, e'⟩
    · rfl
    · exact ih e'

section RunEach
variable {α : Type} {step : Encoder → α → Except FrameError Unit × Encoder} {outOf : α → List UInt8}
  {upd : UInt16 → α → UInt16}

/-- All-or-nothing steps taken in order, stopping at the first failure, are one all-or-nothing
step when everything they write fits; when it does not, the run fails with `noBufs` having only
appended to the buffer. -/
theorem runEach_put (hstep : ∀ e a, step e a = e.put (outOf a) (upd e.fcs a)) (e : Encoder) (as : List α) :
    (e.buffer.size + (as.flatMap outOf).length ≤ e.buffer.capacity →
        runEach step e as = e.put (as.flatMap outOf) (as.foldl upd e.fcs)) ∧
      (¬ e.buffer.size + (as.flatMap outOf).length ≤ e.buffer.capacity →
        (runEach step e as).1 = .error .noBufs ∧ FrameBuffer.Grows e.buffer (runEach step e as).2.buffer) := by
  induction as generalizing e with
  | nil =>
    refine ⟨fun h => ?_, fun h => absurd ?_ h⟩
    · rw [put_of_fits h]
      exact ok_congr (by simp) rfl
    · simpa [FrameBuffer.size] using e.buffer.bounded
  | cons a as ih =>
    by_cases ha : e.buffer.size + (outOf a).length ≤ e.buffer.capacity
    · -- the first step fits: the run goes on from the encoder it left
      have hrest := ih ⟨e.buffer.append (outOf a) ha, upd e.fcs a⟩
      simp only [FrameBuffer.size_append, FrameBuffer.capacity_append] at hrest
      simp only [runEach, hstep e a, put_of_fits ha, List.flatMap_cons, List.length_append, ← Nat.add_assoc]
      refine ⟨fun h => ?_, fun h => ?_⟩
      · rw [hrest.1 h, put_of_fits (by simpa using h), put_of_fits (by simpa [Nat.add_assoc] using h)]
        exact ok_congr (by simp) rfl
      · obtain ⟨herr, hg⟩ := hrest.2 h
        exact ⟨herr, (FrameBuffer.grows_append _ _ _).trans hg⟩
    · -- the first step does not fit: the run fails there, having written nothing
      have hrun : runEach step e (a :: as) = (.error .noBufs, e) := by
        simp only [runEach, hstep e a, put_of_not_fits ha]
      have hlen : (List.flatMap outOf (a :: as)).length = (outOf a).length + (as.flatMap outOf).length := by simp
      rw [hrun, hlen]
      exact ⟨fun h => absurd (by omega) ha, fun _ => ⟨rfl, FrameBuffer.Grows.refl _⟩⟩

end RunEach

/-- `encode` writes its octets as one step: the buffer cut back on failure is the buffer it
started from, and the register is restored. -/
theorem encode_eq_put (e : Encoder) (data : List UInt8) :
    e.encode data = e.put (data.flatMap escaped) (data.foldl Fcs.update e.fcs) := by
  have hrun := runEach_put encodeByte_eq_put e data
  unfold encode
  rw [encodeEach_eq_runEach]
  by_cases hfit : e.buffer.size + (data.flatMap escaped).length ≤ e.buffer.capacity
  · rw [hrun.1 hfit, put_of_fits hfit]
  · obtain ⟨herr, hg⟩ := hrun.2 hfit
    rw [put_of_not_fits hfit]
    rcases hr : runEach encodeByte e data with ⟨res, e'⟩
    rw [hr] at herr hg
    cases herr
    dsimp only
    rw [hg.truncate_size]

/-- `endFrame` writes the check sequence and the closing flag as one step. -/
theorem endFrame_eq_put (e : Encoder) :
    e.endFrame = e.put ((Fcs.lowHigh (e.fcs ^^^ 0xFFFF)).flatMap escaped ++ [flag]) e.fcs := by
  have hchain : FrameBuffer.andThen (FrameBuffer.andThen (writeEscaped e.buffer (e.fcs ^^^ 0xFFFF).toUInt8)
        (writeEscaped · ((e.fcs ^^^ 0xFFFF) >>> 8).toUInt8)) (·.pushInPlace flag) =
      e.buffer.extendEach [escaped (e.fcs ^^^ 0xFFFF).toUInt8, escaped ((e.fcs ^^^ 0xFFFF) >>> 8).toUInt8, [flag]] := by
    simp only [FrameBuffer.extendEach, FrameBuffer.andThen_done, FrameBuffer.andThen_assoc, writeEscaped_eq_extend,
      FrameBuffer.pushInPlace_eq_extend]
  have hout : (Fcs.lowHigh (e.fcs ^^^ 0xFFFF)).flatMap escaped ++ [flag] =
      [escaped (e.fcs ^^^ 0xFFFF).toUInt8, escaped ((e.fcs ^^^ 0xFFFF) >>> 8).toUInt8, [flag]].flatten := by
    simp [Fcs.lowHigh]
  have hspec := FrameBuffer.extendEach_spec e.buffer
    [escaped (e.fcs ^^^ 0xFFFF).toUInt8, escaped ((e.fcs ^^^ 0xFFFF) >>> 8).toUInt8, [flag]]
  unfold endFrame
  dsimp only
  rw [hchain, hout]
  by_cases hfit : e.buffer.size + [escaped (e.fcs ^^^ 0xFFFF).toUInt8,
      escaped ((e.fcs ^^^ 0xFFFF) >>> 8).toUInt8, [flag]].flatten.length ≤ e.buffer.capacity
  · rw [hspec.1 hfit, put_of_fits hfit]
  · obtain ⟨herr, hg⟩ := hspec.2 hfit
    rw [put_of_not_fits hfit]
    rcases hr : e.buffer.extendEach [escaped (e.fcs ^^^ 0xFFFF).toUInt8,
      escaped ((e.fcs ^^^ 0xFFFF) >>> 8).toUInt8, [flag]] with ⟨res, buf⟩
    rw [hr] at herr hg
    cases herr
    dsimp only
    rw [hg.truncate_size]

/-! ## A payload in pieces -/

/-- One payload call between `beginFrame` and `endFrame`: a run of octets (`encode`) or a single
octet (`encodeByte`). -/
inductive Piece where
  | octets (data : List UInt8)
  | octet (b : UInt8)

/-- The payload octets a call writes. -/
def Piece.data : Piece → List UInt8
  | .octets data => data
  | .octet b => [b]

/-- Makes the call. -/
def writePiece (e : Encoder) : Piece → Except FrameError Unit × Encoder
  | .octets data => e.encode data
  | .octet b => e.encodeByte b

theorem writePiece_eq_put (e : Encoder) (pc : Piece) :
    e.writePiece pc = e.put (pc.data.flatMap escaped) (pc.data.foldl Fcs.update e.fcs) := by
  cases pc with
  | octets data => exact encode_eq_put e data
  | octet b => simp [writePiece, Piece.data, encodeByte_eq_put]

/-- The calls succeed together exactly when the payload written at once succeeds, and then
they leave the same encoder. -/
theorem runEach_writePiece (e : Encoder) (pieces : List Piece) :
    (runEach writePiece e pieces).1 = (e.encode (pieces.flatMap Piece.data)).1 ∧
      ((e.encode (pieces.flatMap Piece.data)).1 = .ok () →
        runEach writePiece e pieces = e.encode (pieces.flatMap Piece.data)) := by
  have hrun := @runEach_put Piece writePiece (fun pc => pc.data.flatMap escaped) (fun r pc => pc.data.foldl Fcs.update r)
    writePiece_eq_put e pieces
  have hflat : (pieces.flatMap fun pc => pc.data.flatMap escaped) = (pieces.flatMap Piece.data).flatMap escaped := by
    simp [List.flatMap_assoc]
  have hfold : pieces.foldl (fun r pc => pc.data.foldl Fcs.update r) e.fcs =
      (pieces.flatMap Piece.data).foldl Fcs.update e.fcs := List.foldl_flatMap.symm
  rw [hflat, hfold] at hrun
  rw [encode_eq_put]
  by_cases hfit : e.buffer.size + ((pieces.flatMap Piece.data).flatMap escaped).length ≤ e.buffer.capacity
  · rw [hrun.1 hfit]
    exact ⟨rfl, fun _ => rfl⟩
  · rw [(hrun.2 hfit).1, put_of_not_fits hfit]
    exact ⟨rfl, fun h => by cases h⟩

end Encoder

/-- A frame written into a fresh buffer of `capacity` octets as `encodeFrame` writes it, the
payload given as the calls `pieces`; the first call that fails ends the frame. -/
def encodeFramePieces (capacity : Nat) (pieces : List Encoder.Piece) : Except FrameError FrameBuffer :=
  let e := Encoder.new (FrameBuffer.empty capacity)
  match e.beginFrame with
  | (.error err, _) => .error err
  | (.ok (), e) =>
    match Encoder.runEach Encoder.writePiece e pieces with
    | (.error err, _) => .error err
    | (.ok (), e) =>
      match e.endFrame with
      | (.error err, _) => .error err
      | (.ok (), e) => .ok e.buffer

/-- However the payload is cut into calls, the frame is the one written at once. -/
theorem encodeFramePieces_eq (capacity : Nat) (pieces : List Encoder.Piece) :
    encodeFramePieces capacity pieces = encodeFrame capacity (pieces.flatMap Encoder.Piece.data) := by
  unfold encodeFramePieces encodeFrame
  dsimp only
  rcases (Encoder.new (FrameBuffer.empty capacity)).beginFrame with ⟨_ | ⟨⟩, e⟩
  · rfl
  · dsimp only
    obtain ⟨hsame, hok⟩ := Encoder.runEach_writePiece e pieces
    rcases hpay : e.encode (pieces.flatMap Encoder.Piece.data) with ⟨_ | ⟨⟩, e'⟩
    · rw [hpay] at hsame
      rcases hr : Encoder.runEach Encoder.writePiece e pieces with ⟨_ | ⟨⟩, e''⟩
      · rw [hr] at hsame
        cases hsame
        rfl
      · rw [hr] at hsame
        cases hsame
    · exact (hok (by rw [hpay])).trans hpay ▸ rfl

/-- Every step of the encoder is all or nothing. A call to `encodeByte`, `encode` or `endFrame`
that fails fails with `noBufs` and leaves the encoder, buffer and register, exactly as it was,
whatever it held; a `beginFrame` that fails leaves the buffer as it was. `encode` succeeds exactly
when the escaped form of its octets fits, and then appends that escaped form and folds the octets
into the register. -/
theorem encoder_steps_all_or_nothing (e : Encoder) (b : UInt8) (data : List UInt8) :
    (∀ err, (e.encodeByte b).1 = .error err → err = .noBufs ∧ (e.encodeByte b).2 = e) ∧
      (∀ err, (e.encode data).1 = .error err → err = .noBufs ∧ (e.encode data).2 = e) ∧
      (∀ err, e.endFrame.1 = .error err → err = .noBufs ∧ e.endFrame.2 = e) ∧
      (∀ err, e.beginFrame.1 = .error err → e.beginFrame.2.buffer = e.buffer) ∧
      ((e.encode data).1 = .ok () ↔ e.buffer.size + (data.flatMap Encoder.escaped).length ≤ e.buffer.capacity) ∧
      (∀ e', e.encode data = (.ok (), e') →
        e'.buffer.data = e.buffer.data ++ data.flatMap Encoder.escaped ∧ e'.fcs = data.foldl Fcs.update e.fcs) := by
  refine ⟨fun err h => ?_, fun err h => ?_, fun err h => ?_, fun err h => ?_, ?_, fun e' h => ?_⟩
  · rw [Encoder.encodeByte_eq_put] at h ⊢
    exact Encoder.put_error h
  · rw [Encoder.encode_eq_put] at h ⊢
    exact Encoder.put_error h
  · rw [Encoder.endFrame_eq_put] at h ⊢
    exact Encoder.put_error h
  · -- the register is reset before the flag is tried, so only the buffer stays
    rw [Encoder.beginFrame_eq_put] at h ⊢
    rw [(Encoder.put_error h).2]
  · rw [Encoder.encode_eq_put]
    exact Encoder.put_ok_iff
  · rw [Encoder.encode_eq_put] at h
    obtain ⟨hd, -, hf⟩ := Encoder.put_ok h
    exact ⟨hd, hf⟩

/-- After the opening flag in a buffer of four, the octets `1 2 3 4` do not fit: the encoder is
left holding the flag alone. In a buffer of two, an escape octet after the flag fails whole, its
first half not written either. -/
theorem overflow_leaves_flag_alone :
    ((Encoder.new (FrameBuffer.empty 4)).beginFrame.2.encode [1, 2, 3, 4]).1 = .error .noBufs ∧
      ((Encoder.new (FrameBuffer.empty 4)).beginFrame.2.encode [1, 2, 3, 4]).2.buffer.data = [flag] ∧
      ((Encoder.new (FrameBuffer.empty 2)).beginFrame.2.encodeByte escape).1 = .error .noBufs ∧
      ((Encoder.new (FrameBuffer.empty 2)).beginFrame.2.encodeByte escape).2.buffer.data = [flag] := by
  have hfour := encoder_steps_all_or_nothing (Encoder.new (FrameBuffer.empty 4)).beginFrame.2 escape [1, 2, 3, 4]
  have htwo := encoder_steps_all_or_nothing (Encoder.new (FrameBuffer.empty 2)).beginFrame.2 escape []
  have hencode : ((Encoder.new (FrameBuffer.empty 4)).beginFrame.2.encode [1, 2, 3, 4]).1 = .error .noBufs := rfl
  have hbyte : ((Encoder.new (FrameBuffer.empty 2)).beginFrame.2.encodeByte escape).1 = .error .noBufs := rfl
  refine ⟨hencode, ?_, hbyte, ?_⟩
  · rw [(hfour.2.1 _ hencode).2]
    rfl
  · rw [(htwo.1 _ hbyte).2]
    rfl

end ThreadPlatform.Hdlc
