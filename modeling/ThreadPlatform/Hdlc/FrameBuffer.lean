import ThreadPlatform.Hdlc.Basic

/-!
# Bounded frame buffers

A `FrameBuffer` holds at most `capacity` octets; the bound is part of the type.
`push` refuses an octet that does not fit and then leaves the buffer as it was,
so a writer can always fall back to an earlier length with `truncate`. Writers that
change the buffer in place see a push as `pushInPlace`, and chain such writes with
`andThen`, which stops at the first failure.
-/

namespace ThreadPlatform.Hdlc

/-- Octets in order, never more than `capacity` of them. -/
structure FrameBuffer where
  capacity : Nat
  data : List UInt8
  bounded : data.length ≤ capacity

namespace FrameBuffer

/-- An empty buffer of the given capacity. -/
def empty (capacity : Nat) : FrameBuffer :=
  ⟨capacity, [], Nat.zero_le _⟩

/-- Octets held. -/
def size (buf : FrameBuffer) : Nat :=
  buf.data.length

/-- There is room for `len` more octets. -/
def canWrite (buf : FrameBuffer) (len : Nat) : Bool :=
  decide (len ≤ buf.capacity - buf.size)

/-- Append one octet, or report `noBufs` when the buffer is full. -/
def push (buf : FrameBuffer) (b : UInt8) : Except FrameError FrameBuffer :=
  if h : buf.data.length < buf.capacity then
    .ok ⟨buf.capacity, buf.data ++ [b], by rw [List.length_append, List.length_singleton]; omega⟩
  else
    .error .noBufs

/-- `push` in place: the outcome and the buffer after the call, which a refused push
leaves as it was. -/
def pushInPlace (buf : FrameBuffer) (b : UInt8) : Except FrameError Unit × FrameBuffer :=
  match buf.push b with
  | .ok buf' => (.ok (), buf')
  | .error err => (.error err, buf)

/-- The second of two writes in place, run on the buffer the first left when the first
succeeded; a failure of the first is the outcome. -/
def andThen (first : Except FrameError Unit × FrameBuffer)
    (next : FrameBuffer → Except FrameError Unit × FrameBuffer) : Except FrameError Unit × FrameBuffer :=
  match first with
  | (.ok (), buf) => next buf
  | (.error err, buf) => (.error err, buf)

/-- Keep the first `len` octets (all of them when there are fewer). -/
def truncate (buf : FrameBuffer) (len : Nat) : FrameBuffer :=
  ⟨buf.capacity, buf.data.take len, by
    have := buf.bounded
    simp only [List.length_take]
    omega⟩

/-- Drop every octet. -/
def clear (buf : FrameBuffer) : FrameBuffer :=
  empty buf.capacity

@[simp] theorem data_empty (capacity : Nat) : (empty capacity).data = [] := rfl

@[simp] theorem capacity_truncate (buf : FrameBuffer) (len : Nat) :
    (buf.truncate len).capacity = buf.capacity := rfl

@[simp] theorem data_truncate (buf : FrameBuffer) (len : Nat) :
    (buf.truncate len).data = buf.data.take len := rfl

theorem push_eq_ok {buf buf' : FrameBuffer} {b : UInt8} (h : buf.push b = .ok buf') :
    buf'.data = buf.data ++ [b] ∧ buf'.capacity = buf.capacity := by
  unfold push at h
  split at h
  · cases h; exact ⟨rfl, rfl⟩
  · cases h

end FrameBuffer

end ThreadPlatform.Hdlc
