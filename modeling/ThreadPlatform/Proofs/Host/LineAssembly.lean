import Mathlib
import ThreadPlatform.Host.Shell
import ThreadPlatform.Proofs.Platform.Work
/-!
# Assembling console lines

The host shell reads its console a byte at a time and keeps the line typed so far. A carriage
return or a line feed ends the line: the line, trimmed, is run as a command unless it is blank.
A byte that finds the line already holding `Shell.maxLine` bytes of UTF-8 is refused with an
error, and the line is dropped.

This module separates what the shell decides from what it does. `Shell.edit` is the decision
for one byte: the line after it, and the `LineEvent` it raises, if any; `Shell.perform` carries an
event out. `Shell.assemble` runs the decisions over a stream of bytes, and
`Shell.foldlM_takeByte` proves that receiving the stream is performing the events of `assemble`
in order and then holding the line it leaves; how the stream is cut into the chunks the console
hands over does not matter (`Shell.foldlM_uartReceived`). No command touches the line
(`Shell.answers_perform`), which is what lets the decisions run ahead of the work.

What `assemble` gives is then stated on the bytes alone. A run of bytes with no terminator that
the line takes whole (`Shell.Fits`: every byte of it arrives while the line has room) is run,
trimmed, when its terminator comes (`Shell.assemble_stream`). A run that does not fit raises one
error at the byte that finds the line full, and the bytes after that one start a new line
(`Shell.assemble_overflow`): the rest of an overlong run is read, and run, as a line of its own.
`Shell.console_lines_assembled` puts the receiving and the lines together for a shell with an
empty line and a stream whose lines all fit.

The room a byte takes is its UTF-8 size as the character of the same code point: one for a byte
below 0x80, two for any other (`Shell.width`). For ASCII the limit is on the number of bytes
(`Shell.fits_ascii_iff`).
-/

namespace ThreadPlatform

namespace Board

/-! ## What work answers -/

section Answers
variable {σ α β : Type} {P : β → Prop} {Q : α → Prop}

/-- Every normal end of `act`, from any state and board, answers with a value satisfying `P`. -/
def Answers (P : α → Prop) (act : StateT σ BoardM α) : Prop :=
  ∀ s b a s' b', exec act s b = (.ok (a, s'), b') → P a

/-- Work is determined by how it runs from every state and board. -/
theorem exec_ext {x y : StateT σ BoardM α} (h : ∀ s b, exec x s b = exec y s b) : x = y := by
  funext s b
  exact h s b

theorem Answers.pure {a : β} (h : P a) : Answers P (Pure.pure a : StateT σ BoardM β) := by
  intro s b a' s' b' hrun
  simp only [exec_pure, Prod.mk.injEq, Except.ok.injEq] at hrun
  exact hrun.1.1 ▸ h

theorem Answers.bind {x : StateT σ BoardM α} {f : α → StateT σ BoardM β} (hx : Answers Q x)
    (hf : ∀ a, Q a → Answers P (f a)) : Answers P (x >>= f) := by
  intro s b c s'' b'' hrun
  obtain ⟨a, s', b', h₁, h₂⟩ := exec_bind_ok hrun
  exact hf a (hx s b a s' b' h₁) s' b' c s'' b'' h₂

/-- What follows work matters only at the answers the work can give. -/
theorem Answers.bind_congr {x : StateT σ BoardM α} {f g : α → StateT σ BoardM β} (hx : Answers Q x)
    (h : ∀ a, Q a → f a = g a) : x >>= f = x >>= g := by
  apply exec_ext
  intro s b
  rw [exec_bind, exec_bind]
  rcases hr : exec x s b with ⟨_ | ⟨a, s'⟩, b'⟩
  · rfl
  · simp only [h a (hx s b a s' b' hr)]

/-- Work whose every continuation answers `P` answers `P`, whatever the work before it answered. -/
theorem Answers.bind_any {x : StateT σ BoardM α} {f : α → StateT σ BoardM β} (hf : ∀ a, Answers P (f a)) :
    Answers P (x >>= f) :=
  Answers.bind (Q := fun _ => True) (fun _ _ _ _ _ _ => trivial) fun a _ => hf a

end Answers

end Board

namespace Shell

open Board Console

/-! ## One byte: the decision and the work -/

/-- What a byte asks of the shell besides changing the line: run a line, or refuse a full one. -/
inductive LineEvent where
  | run (line : String)
  | tooLong
  deriving DecidableEq, Repr

/-- Whether a byte ends the line: a carriage return or a line feed. -/
def isEnd (b : UInt8) : Bool := b = 13 || b = 10

/-- The character a byte is typed as: the one of the same code point. -/
def byteChar (b : UInt8) : Char := Char.ofNat b.toNat

/-- The command an ended line asks for: the line trimmed, unless that is empty. -/
def command? (line : String) : Option LineEvent :=
  if (trim line).isEmpty then none else some (.run (trim line))

/-- The line after byte `b`, and the event it raises. -/
def edit (line : String) (b : UInt8) : String × Option LineEvent :=
  if isEnd b then ("", command? line)
  else if maxLine ≤ line.utf8ByteSize then ("", some .tooLong)
  else (line.push (byteChar b), none)

/-- Carries out an event. -/
def perform (sh : Shell) : LineEvent → PlatformM Shell
  | .run line => do
    let sh ← sh.execute line
    reply prompt
    return sh
  | .tooLong => do
    reply "Error: line too long\n"
    return sh

/-- Taking a byte is making the decision, then carrying out its event on the shell with the
line cleared. -/
theorem takeByte_eq (sh : Shell) (b : UInt8) :
    sh.takeByte b =
      (edit sh.line b).2.elim (pure { sh with line := (edit sh.line b).1 })
        (perform { sh with line := "" }) := by
  unfold takeByte edit command? isEnd
  dsimp only
  split_ifs <;> rfl

theorem edit_event_line {line : String} {b : UInt8} {e : LineEvent} {l : String}
    (h : edit line b = (l, some e)) : l = "" := by
  unfold edit at h
  split_ifs at h <;> simp_all

/-! ## Commands leave the line alone -/

theorem answers_reportFrames (sh : Shell) : Answers (·.line = sh.line) sh.reportFrames := by
  unfold reportFrames
  exact Answers.bind_any fun _ => Answers.bind_any fun _ => Answers.pure rfl

/-- No command changes the line: each answers with the shell it was given, or with its frames
printed. -/
theorem answers_run (sh : Shell) (c : Command) : Answers (·.2.line = sh.line) (sh.run c) := by
  cases c with
  | wait ms =>
    refine Answers.bind_any fun r => ?_
    split
    · exact Answers.bind (answers_reportFrames sh) fun _ h => Answers.pure h
    · exact Answers.pure rfl
    · exact Answers.pure rfl
  | _ =>
    -- every other command answers with the shell it was given, whatever its work answered
    simp only [run]
    repeat' first
      | exact Answers.pure rfl
      | refine Answers.bind_any fun _ => ?_
      | split

theorem answers_execute (sh : Shell) (line : String) : Answers (·.line = sh.line) (sh.execute line) := by
  unfold execute
  dsimp only
  split
  · refine Answers.bind (answers_run sh _) fun r hr => ?_
    -- the replies to the outcome come before the shell the command answered with
    split
    · exact Answers.bind_any fun _ => Answers.bind_any fun _ => Answers.pure hr
    · exact Answers.bind_any fun _ => Answers.pure hr
  · -- a line that does not parse is answered with the error alone
    simp only [pure_bind]
    exact Answers.bind_any fun _ => Answers.pure rfl

theorem answers_perform (sh : Shell) (e : LineEvent) : Answers (·.line = sh.line) (perform sh e) := by
  cases e with
  | run line =>
    exact Answers.bind (answers_execute sh line) fun _ h => Answers.bind_any fun _ => Answers.pure h
  | tooLong => exact Answers.bind_any fun _ => Answers.pure rfl

/-! ## A stream of bytes -/

/-- The events a stream of bytes raises, from a line already typed, and the line it leaves. -/
def assemble (line : String) : List UInt8 → List LineEvent × String
  | [] => ([], line)
  | b :: bs =>
    let r := edit line b
    let t := assemble r.1 bs
    (r.2.toList ++ t.1, t.2)

theorem assemble_append (line : String) (a c : List UInt8) :
    assemble line (a ++ c) =
      ((assemble line a).1 ++ (assemble (assemble line a).2 c).1,
        (assemble (assemble line a).2 c).2) := by
  induction a generalizing line with
  | nil => rfl
  | cons b a ih => simp [assemble, ih]

/-- A shell is the one with its line set to the line it holds. -/
theorem with_line_eq {sh : Shell} {l : String} (h : sh.line = l) : { sh with line := l } = sh := by
  subst h
  rfl

/-- **Receiving bytes is carrying out, in order, the events they raise, each on the shell with
the line cleared, and then holding the line they leave.** -/
theorem foldlM_takeByte (data : List UInt8) (sh : Shell) :
    data.foldlM takeByte sh = do
      let sh' ← (assemble sh.line data).1.foldlM perform { sh with line := "" }
      return { sh' with line := (assemble sh.line data).2 } := by
  induction data generalizing sh with
  | nil => simp [assemble]
  | cons b data ih =>
    rw [List.foldlM_cons, takeByte_eq]
    rcases hb : edit sh.line b with ⟨l, _ | e⟩
    · -- a byte typed into the line: nothing is done
      simp [assemble, hb, ih]
    · -- an event: it is carried out, and the shell it answers with holds the cleared line
      obtain rfl := edit_event_line hb
      simp only [Option.elim, assemble, hb, Option.toList_some, List.singleton_append,
        List.foldlM_cons, bind_assoc]
      refine Answers.bind_congr (answers_perform _ e) fun sh' h => ?_
      rw [ih sh', with_line_eq h, h]

/-- However the stream is cut into the chunks the console hands over, the shell sees one stream. -/
theorem foldlM_uartReceived (chunks : List (List UInt8)) (sh : Shell) :
    chunks.foldlM (fun sh c => Stack.uartReceived sh c) sh = chunks.flatten.foldlM takeByte sh := by
  induction chunks generalizing sh with
  | nil => rfl
  | cons c chunks ih =>
    simp only [List.foldlM_cons, List.flatten_cons, List.foldlM_append, ih]
    rfl

/-! ## What a stream raises, on its bytes -/

/-- The line after typing `bs` onto `line`, one character a byte. -/
def typed (line : String) (bs : List UInt8) : String := bs.foldl (fun s b => s.push (byteChar b)) line

/-- The room the bytes `bs` take in a line: the UTF-8 size of their characters, one for a byte
below 0x80 and two for any other. -/
def width : List UInt8 → Nat
  | [] => 0
  | b :: bs => (if b.toNat < 128 then 1 else 2) + width bs

@[simp] theorem width_nil : width [] = 0 := rfl

@[simp] theorem width_cons (b : UInt8) (bs : List UInt8) :
    width (b :: bs) = (if b.toNat < 128 then 1 else 2) + width bs := rfl

theorem utf8Size_byteChar (b : UInt8) : (byteChar b).utf8Size = if b.toNat < 128 then 1 else 2 := by
  have hb := b.toNat_lt
  have hc : (byteChar b).val.toNat = b.toNat := by
    rw [byteChar, Char.ofNat, dif_pos (by left; omega)]
    simp [Char.ofNatAux]
  simp only [Char.utf8Size, UInt32.le_iff_toNat_le, UInt32.toNat_ofNatLT, hc]
  split_ifs <;> omega

theorem utf8ByteSize_typed (line : String) (bs : List UInt8) :
    (typed line bs).utf8ByteSize = line.utf8ByteSize + width bs := by
  induction bs generalizing line with
  | nil => rfl
  | cons b bs ih =>
    simp only [typed, List.foldl_cons] at ih ⊢
    rw [ih, String.utf8ByteSize_push, utf8Size_byteChar, width_cons]
    omega

/-- A run of bytes the line takes whole: none of them ends the line, and each arrives while the
line has room, so all but the last take less than `maxLine`. -/
structure Fits (r : List UInt8) : Prop where
  noEnd : ∀ b ∈ r, isEnd b = false
  room : width r.dropLast < maxLine

/-- Bytes below 0x80 take one byte of room each. -/
theorem width_eq_length {bs : List UInt8} (h : ∀ b ∈ bs, b.toNat < 128) : width bs = bs.length := by
  induction bs with
  | nil => rfl
  | cons b bs ih =>
    rw [width_cons, if_pos (h b (List.mem_cons_self ..)), ih fun x hx => h x (List.mem_cons_of_mem b hx)]
    simp only [List.length_cons]
    omega

/-- For ASCII the limit is on bytes: a run fits when it has no terminator and at most `maxLine`
bytes. -/
theorem fits_ascii_iff {r : List UInt8} (h : ∀ b ∈ r, b.toNat < 128) :
    Fits r ↔ (∀ b ∈ r, isEnd b = false) ∧ r.length ≤ maxLine := by
  have hw : width r.dropLast = r.length - 1 := by
    rw [width_eq_length fun b hb => h b (List.dropLast_subset r hb), List.length_dropLast]
  -- all but the last byte fit below the limit exactly when all of them fit up to it
  have hroom : width r.dropLast < maxLine ↔ r.length ≤ maxLine := by
    rw [hw]
    unfold maxLine
    omega
  exact ⟨fun hr => ⟨hr.noEnd, hroom.1 hr.room⟩, fun ⟨hend, hlen⟩ => ⟨hend, hroom.2 hlen⟩⟩

instance (r : List UInt8) : Decidable (Fits r) :=
  decidable_of_iff ((r.all fun b => !isEnd b) = true ∧ width r.dropLast < maxLine) (by
    simp only [List.all_eq_true, Bool.not_eq_true']
    exact ⟨fun ⟨h₁, h₂⟩ => ⟨h₁, h₂⟩, fun ⟨h₁, h₂⟩ => ⟨h₁, h₂⟩⟩)

section Edit
variable {line : String} {b : UInt8}

theorem edit_of_isEnd (h : isEnd b = true) : edit line b = ("", command? line) := by
  simp [edit, h]

theorem edit_of_room (h : isEnd b = false) (hroom : line.utf8ByteSize < maxLine) :
    edit line b = (line.push (byteChar b), none) := by
  simp [edit, h, Nat.not_le.2 hroom]

theorem edit_of_full (h : isEnd b = false) (hfull : maxLine ≤ line.utf8ByteSize) :
    edit line b = ("", some .tooLong) := by
  simp [edit, h, hfull]

end Edit

/-- Bytes that each arrive while the line has room are typed onto it, and raise nothing. -/
theorem assemble_typing : ∀ (line : String) (r : List UInt8), (∀ b ∈ r, isEnd b = false) →
    line.utf8ByteSize + width r.dropLast < maxLine → assemble line r = ([], typed line r)
  | _, [], _, _ => rfl
  | line, [b], h, hw => by
    simp [assemble, typed, edit_of_room (h b (by simp)) (by simpa using hw)]
  | line, b :: c :: r, h, hw => by
    simp only [List.dropLast_cons_cons, width_cons] at hw
    have hroom : line.utf8ByteSize < maxLine := by omega
    have hrest : (line.push (byteChar b)).utf8ByteSize + width (c :: r).dropLast < maxLine := by
      rw [String.utf8ByteSize_push, utf8Size_byteChar]
      omega
    rw [assemble, edit_of_room (h b (by simp)) hroom,
      assemble_typing _ (c :: r) (fun x hx => h x (List.mem_cons_of_mem b hx)) hrest]
    rfl

/-- A run that fits, typed on an empty line, raises nothing. -/
theorem Fits.assemble {r : List UInt8} (h : Fits r) : assemble "" r = ([], typed "" r) :=
  assemble_typing "" r h.noEnd (by simpa using h.room)

/-- The stream of the lines `runs`, each closed by its terminator, and then the unfinished `tail`. -/
def stream (runs : List (List UInt8 × UInt8)) (tail : List UInt8) : List UInt8 :=
  (runs.map fun x => x.1 ++ [x.2]).flatten ++ tail

/-- **Lines the line takes whole are run, trimmed, in order, and blank ones skipped; the tail is
held.** -/
theorem assemble_stream (runs : List (List UInt8 × UInt8)) (tail : List UInt8)
    (hruns : ∀ x ∈ runs, Fits x.1 ∧ isEnd x.2 = true) (htail : Fits tail) :
    assemble "" (stream runs tail) =
      (runs.filterMap fun x => command? (typed "" x.1), typed "" tail) := by
  induction runs with
  | nil => simpa [stream] using htail.assemble
  | cons x runs ih =>
    have hx := hruns x (List.mem_cons_self ..)
    have hs : stream (x :: runs) tail = x.1 ++ x.2 :: stream runs tail := by simp [stream]
    rw [hs, assemble_append, hx.1.assemble, assemble, edit_of_isEnd hx.2,
      ih fun y hy => hruns y (List.mem_cons_of_mem x hy)]
    cases hc : command? (typed "" x.1) <;> simp [hc]

/-- **A run the line cannot take raises one error, at the byte that finds the line full, and the
bytes after that byte are read as a new line.** -/
theorem assemble_overflow (p : List UInt8) (d : UInt8) (rest : List UInt8) (hp : Fits p)
    (hd : isEnd d = false) (hfull : maxLine ≤ width p) :
    assemble "" (p ++ d :: rest) = (.tooLong :: (assemble "" rest).1, (assemble "" rest).2) := by
  have hsize : maxLine ≤ (typed "" p).utf8ByteSize := by
    rw [utf8ByteSize_typed]
    simpa using hfull
  rw [assemble_append, hp.assemble]
  simp [assemble, edit_of_full hd hsize]

/-- **Console line assembly.** A shell with an empty line that receives a stream whose lines all
fit, cut into chunks anywhere, runs each line trimmed and unless blank, in order, and then holds
the unfinished tail. -/
theorem console_lines_assembled (sh : Shell) (chunks : List (List UInt8))
    (runs : List (List UInt8 × UInt8)) (tail : List UInt8) (hline : sh.line = "")
    (hstream : chunks.flatten = stream runs tail) (hruns : ∀ x ∈ runs, Fits x.1 ∧ isEnd x.2 = true)
    (htail : Fits tail) :
    chunks.foldlM (fun sh c => Stack.uartReceived sh c) sh = do
      let sh' ← (runs.filterMap fun x => command? (typed "" x.1)).foldlM perform sh
      return { sh' with line := typed "" tail } := by
  rw [foldlM_uartReceived, foldlM_takeByte, hline, hstream, assemble_stream runs tail hruns htail,
    with_line_eq hline]

/-- A line closed by a carriage return and a line feed, arriving in two chunks, is run once: the
line feed ends a blank line. -/
theorem crlf_line_runs_once :
    [[104, 101, 108, 112, 13], [10, 110]].foldlM (fun sh c => Stack.uartReceived sh c)
        (⟨"", false, false⟩ : Shell) = do
      let sh' ← perform ⟨"", false, false⟩ (.run "help")
      return { sh' with line := "n" } := by
  rw [console_lines_assembled _ _ [([104, 101, 108, 112], 13), ([], 10)] [110] rfl rfl (by decide)
    (by decide)]
  have hcommands : [([104, 101, 108, 112], 13), ([], 10)].filterMap
      (fun x : List UInt8 × UInt8 => command? (typed "" x.1)) = [.run "help"] := by decide
  have htail : typed "" [110] = "n" := by decide
  simp only [hcommands, htail, List.foldlM_cons, List.foldlM_nil, bind_pure]

/-- The rest of an overlong line is run: after 256 bytes of 'x', the byte 'y' is refused, and
"now" is run as a command of its own. -/
theorem overlong_line_remainder_runs :
    (assemble "" (List.replicate 256 120 ++ 121 :: [110, 111, 119, 10])).1 = [.tooLong, .run "now"] := by
  have hascii : ∀ b ∈ List.replicate 256 (120 : UInt8), b.toNat < 128 := by
    intro b hb
    rw [List.eq_of_mem_replicate hb]
    decide
  have hend : ∀ b ∈ List.replicate 256 (120 : UInt8), isEnd b = false := by
    intro b hb
    rw [List.eq_of_mem_replicate hb]
    rfl
  have hlen : (List.replicate 256 (120 : UInt8)).length = maxLine := List.length_replicate
  have hfits : Fits (List.replicate 256 120) := (fits_ascii_iff hascii).2 ⟨hend, Nat.le_of_eq hlen⟩
  have hfull : maxLine ≤ width (List.replicate 256 120) := Nat.le_of_eq (width_eq_length hascii ▸ hlen).symm
  rw [assemble_overflow _ _ _ hfits rfl hfull]
  decide

end Shell

end ThreadPlatform
