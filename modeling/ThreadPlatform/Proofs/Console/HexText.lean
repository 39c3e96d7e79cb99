import Mathlib
import ThreadPlatform.Hex
/-!
# Reading and writing hexadecimal text

`Hex.decode` reads the octets of a text other than ASCII white space (`Hex.digitsOf`), two at a
time. Each pair is read as a number in base 16 with an optional leading plus sign, so a pair is
read when it is two hexadecimal digits, and also when it is a plus sign followed by one digit.
`Hex.Reads` states this rule, and `Hex.decode_ok_iff` says that a text is read exactly when its
octets are even in number and follow the rule.

Where no pair begins with a plus sign (`Hex.SignedPair`), this is the rule of hexadecimal text:
a text is read exactly when its octets other than white space are an even number of hexadecimal
digits, and it gives the values of the consecutive pairs (`Hex.reads_iff_of_unsigned`). Writing
and reading are then inverse: `encode` writes text that reads back to its octets
(`Hex.decode_encode`), and the text it writes for what a text gave is that text without white
space, in lower case (`Hex.encode_decoded`). `Hex.hex_text_law` puts these together, and
`Hex.plus_pair_read` shows the plus sign read.
-/

namespace ThreadPlatform.Hex

/-! ## The octets of a text -/

theorem byteArray_toList_loop (bs : ByteArray) (i : Nat) (r : List UInt8) :
    ByteArray.toList.loop bs i r = r.reverse ++ bs.data.toList.drop i := by
  fun_induction ByteArray.toList.loop bs i r with
  | case1 i r h ih =>
    have hi : i < bs.data.toList.length := by simpa using h
    rw [ih, List.drop_eq_getElem_cons hi]
    simp [ByteArray.get!, h]
  | case2 i r h =>
    rw [List.drop_eq_nil_of_le (by simpa using Nat.le_of_not_lt h)]
    simp

/-- The UTF-8 octets of a text, character by character. -/
theorem toUTF8_toList (t : String) : t.toUTF8.toList = t.toList.flatMap String.utf8EncodeChar := by
  conv => lhs; rw [← String.ofList_toList (s := t)]
  rw [String.toUTF8_eq_toByteArray, String.toByteArray_ofList, ByteArray.toList,
    byteArray_toList_loop]
  simp [List.utf8Encode]

/-- An ASCII character is one octet, its code. -/
theorem utf8EncodeChar_ascii {c : Char} (h : c.toNat < 0x80) :
    String.utf8EncodeChar c = [UInt8.ofNat c.toNat] := by
  simp [String.utf8EncodeChar, Nat.le_of_lt_succ h]

/-- Any other character begins with an octet from 0x80 up. -/
theorem utf8EncodeChar_high {c : Char} (h : 0x80 ≤ c.toNat) :
    ∃ x rest, String.utf8EncodeChar c = x :: rest ∧ 0x80 ≤ x.toNat := by
  have hv : c.val.toNat = c.toNat := rfl
  unfold String.utf8EncodeChar
  simp only [hv]
  split
  · omega
  · split
    · exact ⟨_, _, rfl, by simp [UInt8.toNat_ofNat]; omega⟩
    · split
      · exact ⟨_, _, rfl, by simp [UInt8.toNat_ofNat]; omega⟩
      · exact ⟨_, _, rfl, by simp [UInt8.toNat_ofNat]; omega⟩

/-- The octets `decode` reads: the text's UTF-8 octets other than ASCII white space. -/
def digitsOf (text : String) : List UInt8 := text.toUTF8.toList.filter fun b => !isAsciiBlank b

theorem decode_eq (text : String) :
    decode text =
      if (digitsOf text).length % 2 ≠ 0 then .error .oddDigits else decodePairs (digitsOf text) :=
  rfl

/-! ## Digits -/

/-- An ASCII hexadecimal digit: `0` to `9`, `a` to `f` or `A` to `F`. -/
def IsHexDigit (d : UInt8) : Prop := (48 ≤ d ∧ d ≤ 57) ∨ (97 ≤ d ∧ d ≤ 102) ∨ (65 ≤ d ∧ d ≤ 70)

instance (d : UInt8) : Decidable (IsHexDigit d) :=
  inferInstanceAs (Decidable ((48 ≤ d ∧ d ≤ 57) ∨ (97 ≤ d ∧ d ≤ 102) ∨ (65 ≤ d ∧ d ≤ 70)))

/-- The value of a hexadecimal digit. -/
def hexValue (d : UInt8) : UInt8 := if d ≤ 57 then d - 48 else if d ≤ 70 then d - 55 else d - 87

/-- The octets that consecutive pairs of digits write, the first digit of each pair high. -/
def pairValues : List UInt8 → List UInt8
  | a :: c :: rest => (hexValue a * 16 + hexValue c) :: pairValues rest
  | _ => []

theorem IsHexDigit.lt {d : UInt8} (h : IsHexDigit d) : d < 0x80 := by
  simp only [IsHexDigit, UInt8.le_iff_toNat_le, UInt8.lt_iff_toNat_lt, UInt8.toNat_ofNat] at h ⊢
  omega

theorem IsHexDigit.not_blank {d : UInt8} (h : IsHexDigit d) : isAsciiBlank d = false := by
  simp only [IsHexDigit, UInt8.le_iff_toNat_le, UInt8.toNat_ofNat] at h
  simp only [isAsciiBlank, Bool.or_eq_false_iff, decide_eq_false_iff_not, ← UInt8.toNat_inj,
    UInt8.toNat_ofNat]
  omega

theorem hexValue_lt {d : UInt8} (h : IsHexDigit d) : hexValue d < 16 := by
  simp only [IsHexDigit, UInt8.le_iff_toNat_le, UInt8.toNat_ofNat] at h
  unfold hexValue
  simp only [UInt8.le_iff_toNat_le, UInt8.lt_iff_toNat_lt, UInt8.toNat_ofNat]
  split
  · rw [UInt8.toNat_sub_of_le _ _ (by simp [UInt8.le_iff_toNat_le]; omega)]
    simp
    omega
  · split
    · rw [UInt8.toNat_sub_of_le _ _ (by simp [UInt8.le_iff_toNat_le]; omega)]
      simp
      omega
    · rw [UInt8.toNat_sub_of_le _ _ (by simp [UInt8.le_iff_toNat_le]; omega)]
      simp
      omega

/-- `digitValue?` knows exactly the hexadecimal digits, with their values. -/
theorem digitValue?_eq (d : UInt8) :
    digitValue? d = if IsHexDigit d then some (hexValue d) else none := by
  unfold digitValue? IsHexDigit hexValue
  by_cases h₁ : 48 ≤ d ∧ d ≤ 57
  · simp [h₁]
  · by_cases h₂ : 97 ≤ d ∧ d ≤ 102
    · have h57 : ¬ d ≤ 57 := by simp [UInt8.le_iff_toNat_le] at h₂ ⊢; omega
      have h70 : ¬ d ≤ 70 := by simp [UInt8.le_iff_toNat_le] at h₂ ⊢; omega
      simp [h₂, h57, h70]
    · by_cases h₃ : 65 ≤ d ∧ d ≤ 70
      · have h57 : ¬ d ≤ 57 := by simp [UInt8.le_iff_toNat_le] at h₃ ⊢; omega
        simp [h₂, h₃, h57]
      · simp [h₁, h₂, h₃]

/-- A pair is read when it is two digits, or a plus sign and a digit. -/
theorem pairValue?_eq_some {a c v : UInt8} :
    pairValue? a c = some v ↔
      (IsHexDigit a ∧ IsHexDigit c ∧ v = hexValue a * 16 + hexValue c) ∨
        (a = 43 ∧ IsHexDigit c ∧ v = hexValue c) := by
  have h43 : ¬ IsHexDigit 43 := by decide
  unfold pairValue?
  by_cases ha : a = 43
  · subst ha
    simp [digitValue?_eq, h43, eq_comm]
  · by_cases hda : IsHexDigit a <;> by_cases hdc : IsHexDigit c <;>
      simp [ha, digitValue?_eq, hda, hdc, eq_comm]

theorem ascii_of_pairValue? {a c v : UInt8} (h : pairValue? a c = some v) : a < 0x80 ∧ c < 0x80 := by
  rcases pairValue?_eq_some.1 h with ⟨ha, hc, -⟩ | ⟨rfl, hc, -⟩
  · exact ⟨ha.lt, hc.lt⟩
  · exact ⟨by decide, hc.lt⟩

theorem pairText_ascii {a c : UInt8} (ha : a < 0x80) (hc : c < 0x80) :
    pairText a c = .ok (String.ofList [Char.ofNat a.toNat, Char.ofNat c.toNat]) := by
  simp [pairText, ha, hc]

/-! ## Reading pairs -/

/-- How `decode` reads an even run of octets into values: pair by pair, a pair being two digits,
or a plus sign (43) and a digit. -/
inductive Reads : List UInt8 → List UInt8 → Prop
  | nil : Reads [] []
  | digits {a c : UInt8} {rest vs : List UInt8} : IsHexDigit a → IsHexDigit c → Reads rest vs →
      Reads (a :: c :: rest) ((hexValue a * 16 + hexValue c) :: vs)
  | signed {c : UInt8} {rest vs : List UInt8} : IsHexDigit c → Reads rest vs →
      Reads (43 :: c :: rest) (hexValue c :: vs)

/-- One pair, then the rest. -/
theorem decodePairs_cons_cons {a c : UInt8} {rest b : List UInt8} :
    decodePairs (a :: c :: rest) = .ok b ↔
      ∃ v vs, pairValue? a c = some v ∧ decodePairs rest = .ok vs ∧ b = v :: vs := by
  rw [decodePairs]
  cases hp : pairText a c with
  | error f =>
    -- a pair that reads as a number is ASCII text, so this pair reads as none
    simp only [Except.mapError, bind, Except.bind, reduceCtorEq, false_iff, not_exists, not_and]
    intro v vs hv
    have hascii := ascii_of_pairValue? hv
    rw [pairText_ascii hascii.1 hascii.2] at hp
    cases hp
  | ok text =>
    simp only [Except.mapError, bind, Except.bind]
    constructor
    · intro h
      split at h
      · rename_i v _ hv
        cases hr : decodePairs rest with
        | error e => simp [hr] at h
        | ok vs =>
          simp only [hr, pure, Except.pure, Except.ok.injEq] at h
          exact ⟨v, vs, hv, rfl, h.symm⟩
      · cases h
    · rintro ⟨v, vs, hv, hr, rfl⟩
      have hascii := ascii_of_pairValue? hv
      rw [pairText_ascii hascii.1 hascii.2] at hp
      cases hp
      simp [hv, hr, pure, Except.pure]

theorem decodePairs_ok_iff : ∀ {ds : List UInt8}, ds.length % 2 = 0 →
    ∀ b, decodePairs ds = .ok b ↔ Reads ds b
  | [], _, b => by
    constructor
    · intro h
      cases h
      exact .nil
    · intro h
      cases h
      rfl
  | [_], h, _ => by simp at h
  | a :: c :: rest, h, b => by
    have hrest : rest.length % 2 = 0 := by simp only [List.length_cons] at h; omega
    have ih := decodePairs_ok_iff hrest
    rw [decodePairs_cons_cons]
    constructor
    · rintro ⟨v, vs, hv, hr, rfl⟩
      rcases pairValue?_eq_some.1 hv with ⟨ha, hc, rfl⟩ | ⟨rfl, hc, rfl⟩
      · exact .digits ha hc ((ih vs).1 hr)
      · exact .signed hc ((ih vs).1 hr)
    · intro hreads
      cases hreads with
      | digits ha hc hr => exact ⟨_, _, pairValue?_eq_some.2 (.inl ⟨ha, hc, rfl⟩), (ih _).2 hr, rfl⟩
      | signed hc hr => exact ⟨_, _, pairValue?_eq_some.2 (.inr ⟨rfl, hc, rfl⟩), (ih _).2 hr, rfl⟩

/-- A text is read exactly when its octets other than white space are even in number and read
pair by pair. -/
theorem decode_ok_iff (t : String) (b : List UInt8) :
    decode t = .ok b ↔ (digitsOf t).length % 2 = 0 ∧ Reads (digitsOf t) b := by
  rw [decode_eq]
  by_cases h : (digitsOf t).length % 2 = 0
  · simp [h, decodePairs_ok_iff h]
  · simp [h]

/-! ## Texts without signs -/

/-- Some pair of the octets, taken two at a time from the start, begins with a plus sign. -/
def SignedPair : List UInt8 → Prop
  | a :: _ :: rest => a = 43 ∨ SignedPair rest
  | _ => False

/-- Without a plus sign in front of a pair, the octets are read exactly when they are all digits,
and they give the values of their pairs. -/
theorem reads_iff_of_unsigned : ∀ {ds : List UInt8}, ds.length % 2 = 0 → ¬ SignedPair ds →
    ∀ b, Reads ds b ↔ (∀ d ∈ ds, IsHexDigit d) ∧ b = pairValues ds
  | [], _, _, b => by
    constructor
    · intro h
      cases h
      exact ⟨by simp, rfl⟩
    · rintro ⟨-, rfl⟩
      exact .nil
  | [_], h, _, _ => by simp at h
  | a :: c :: rest, h, hs, b => by
    have hrest : ¬ SignedPair rest := fun h => hs (.inr h)
    have heven : rest.length % 2 = 0 := by simp only [List.length_cons] at h; omega
    have ih := reads_iff_of_unsigned heven hrest
    constructor
    · intro hreads
      cases hreads with
      | digits ha hc hr =>
        obtain ⟨hall, rfl⟩ := (ih _).1 hr
        refine ⟨fun d hd => ?_, rfl⟩
        rcases List.mem_cons.1 hd with rfl | hd
        · exact ha
        rcases List.mem_cons.1 hd with rfl | hd
        · exact hc
        · exact hall d hd
      | signed _ _ => exact absurd (.inl rfl) hs
    · rintro ⟨hall, rfl⟩
      exact .digits (hall a (by simp)) (hall c (by simp))
        ((ih _).2 ⟨fun d hd => hall d (by simp [hd]), rfl⟩)

/-! ## Writing -/

/-- The octet of the lowercase digit for a value below sixteen. -/
def digitOctet (n : UInt8) : UInt8 := if n < 10 then 48 + n else 87 + n

/-- A digit `encode` writes is the one octet of its `digitOctet`. -/
theorem utf8EncodeChar_digitChar {n : UInt8} (h : n < 16) :
    String.utf8EncodeChar (digitChar n) = [digitOctet n] := by
  -- the sixteen digits checked one by one
  have hall : (List.range 16).all (fun k =>
      String.utf8EncodeChar (digitChar (UInt8.ofNat k)) == [digitOctet (UInt8.ofNat k)]) = true := by
    decide +kernel
  have hn : n.toNat < 16 := by simpa [UInt8.lt_iff_toNat_lt] using h
  simpa [UInt8.ofNat_toNat] using List.all_eq_true.1 hall n.toNat (List.mem_range.2 hn)

theorem digitOctet_digit {n : UInt8} (h : n < 16) : IsHexDigit (digitOctet n) ∧ hexValue (digitOctet n) = n := by
  simp only [UInt8.lt_iff_toNat_lt, UInt8.toNat_ofNat] at h
  unfold digitOctet
  split
  · rename_i h10
    simp only [UInt8.lt_iff_toNat_lt, UInt8.toNat_ofNat] at h10
    have hv : (48 + n).toNat = 48 + n.toNat := by rw [UInt8.toNat_add]; simp; omega
    refine ⟨by simp only [IsHexDigit, UInt8.le_iff_toNat_le, hv, UInt8.toNat_ofNat]; omega, ?_⟩
    have h57 : 48 + n ≤ 57 := by simp only [UInt8.le_iff_toNat_le, hv, UInt8.toNat_ofNat]; omega
    simp only [hexValue, h57, if_true]
    rw [UInt8.add_comm]
    exact UInt8.add_sub_cancel _ _
  · rename_i h10
    simp only [UInt8.lt_iff_toNat_lt, UInt8.toNat_ofNat] at h10
    have hv : (87 + n).toNat = 87 + n.toNat := by rw [UInt8.toNat_add]; simp; omega
    refine ⟨by simp only [IsHexDigit, UInt8.le_iff_toNat_le, hv, UInt8.toNat_ofNat]; omega, ?_⟩
    have h57 : ¬ 87 + n ≤ 57 := by simp only [UInt8.le_iff_toNat_le, hv, UInt8.toNat_ofNat]; omega
    have h70 : ¬ 87 + n ≤ 70 := by simp only [UInt8.le_iff_toNat_le, hv, UInt8.toNat_ofNat]; omega
    simp only [hexValue, h57, h70, if_false]
    rw [UInt8.add_comm]
    exact UInt8.add_sub_cancel _ _

theorem high_lt (x : UInt8) : x >>> 4 < 16 := by
  have hx := x.toNat_lt
  rw [UInt8.lt_iff_toNat_lt, UInt8.toNat_shiftRight]
  simp [Nat.shiftRight_eq_div_pow]
  omega

theorem low_lt (x : UInt8) : x &&& 15 < 16 := by
  rw [UInt8.lt_iff_toNat_lt, UInt8.toNat_and, show (15 : UInt8).toNat = 2 ^ 4 - 1 from rfl,
    Nat.and_two_pow_sub_one_eq_mod]
  simp
  omega

/-- An octet is its high digit times sixteen plus its low digit, and two digits make the octet
that has them as its high and low digits. -/
theorem high_low (x : UInt8) : (x >>> 4) * 16 + (x &&& 15) = x := by
  have hx := x.toNat_lt
  apply UInt8.toNat_inj.1
  rw [UInt8.toNat_add, UInt8.toNat_mul, UInt8.toNat_shiftRight, UInt8.toNat_and,
    show (15 : UInt8).toNat = 2 ^ 4 - 1 from rfl, Nat.and_two_pow_sub_one_eq_mod]
  simp [Nat.shiftRight_eq_div_pow]
  omega

theorem high_low_of_digits {x y : UInt8} (hx : x < 16) (hy : y < 16) :
    (x * 16 + y) >>> 4 = x ∧ (x * 16 + y) &&& 15 = y := by
  simp only [UInt8.lt_iff_toNat_lt, UInt8.toNat_ofNat] at hx hy
  have hv : (x * 16 + y).toNat = x.toNat * 16 + y.toNat := by
    rw [UInt8.toNat_add, UInt8.toNat_mul]
    simp
    omega
  constructor
  · apply UInt8.toNat_inj.1
    rw [UInt8.toNat_shiftRight, hv]
    simp [Nat.shiftRight_eq_div_pow]
    omega
  · apply UInt8.toNat_inj.1
    rw [UInt8.toNat_and, hv, show (15 : UInt8).toNat = 2 ^ 4 - 1 from rfl, Nat.and_two_pow_sub_one_eq_mod]
    omega

/-- The digit octets `encode` writes for each octet. -/
def written (bytes : List UInt8) : List UInt8 :=
  bytes.flatMap fun (x : UInt8) => [digitOctet (x >>> 4), digitOctet (x &&& 15)]

theorem digitsOf_encode (bytes : List UInt8) : digitsOf (encode bytes) = written bytes := by
  have hutf : (encode bytes).toUTF8.toList = written bytes := by
    rw [encode, toUTF8_toList, String.toList_ofList, List.flatMap_assoc, written]
    congr 1
    funext x
    simp [utf8EncodeChar_digitChar (high_lt x), utf8EncodeChar_digitChar (low_lt x)]
  rw [digitsOf, hutf, List.filter_eq_self]
  intro d hd
  obtain ⟨x, -, hx⟩ := List.mem_flatMap.1 hd
  simp only [List.mem_cons, List.not_mem_nil, or_false] at hx
  rcases hx with rfl | rfl
  · simp [(digitOctet_digit (high_lt x)).1.not_blank]
  · simp [(digitOctet_digit (low_lt x)).1.not_blank]

theorem decodePairs_written (bytes : List UInt8) : decodePairs (written bytes) = .ok bytes := by
  induction bytes with
  | nil => rfl
  | cons x xs ih =>
    obtain ⟨hdhi, hvhi⟩ := digitOctet_digit (high_lt x)
    obtain ⟨hdlo, hvlo⟩ := digitOctet_digit (low_lt x)
    rw [written, List.flatMap_cons, List.cons_append, List.cons_append, List.nil_append,
      decodePairs_cons_cons]
    refine ⟨x, xs, pairValue?_eq_some.2 (.inl ⟨hdhi, hdlo, ?_⟩), ih, rfl⟩
    rw [hvhi, hvlo, high_low]

theorem length_written (bytes : List UInt8) : (written bytes).length = 2 * bytes.length := by
  induction bytes with
  | nil => rfl
  | cons x xs ih =>
    rw [written, List.flatMap_cons, List.length_append, ← written, ih]
    simp only [List.length_cons, List.length_nil]
    omega

/-- What `encode` writes reads back to the octets written. -/
theorem decode_encode (bytes : List UInt8) : decode (encode bytes) = .ok bytes := by
  rw [decode_eq, digitsOf_encode, decodePairs_written, length_written]
  simp

/-! ## Writing what was read -/

/-- A hexadecimal digit is written back as itself in lower case. -/
theorem digitChar_hexValue {d : UInt8} (h : IsHexDigit d) :
    digitChar (hexValue d) = (Char.ofNat d.toNat).toLower := by
  -- the twenty-two digits checked one by one
  have hall : (List.range 256).all (fun n =>
      !decide (IsHexDigit (UInt8.ofNat n)) ||
        digitChar (hexValue (UInt8.ofNat n)) == (Char.ofNat n).toLower) = true := by
    decide +kernel
  have hd := List.all_eq_true.1 hall d.toNat (List.mem_range.2 d.toNat_lt)
  simpa [UInt8.ofNat_toNat, h] using hd

/-- Digits read in pairs are written back as themselves in lower case. -/
theorem encode_pairValues : ∀ {ds : List UInt8}, ds.length % 2 = 0 → (∀ d ∈ ds, IsHexDigit d) →
    encode (pairValues ds) = String.ofList (ds.map fun d => (Char.ofNat d.toNat).toLower)
  | [], _, _ => rfl
  | [_], h, _ => by simp at h
  | a :: c :: rest, h, hall => by
    have ha := hall a (by simp)
    have hc := hall c (by simp)
    have hrest : rest.length % 2 = 0 := by simp only [List.length_cons] at h; omega
    have ih := encode_pairValues hrest fun d hd => hall d (by simp [hd])
    obtain ⟨hhigh, hlow⟩ := high_low_of_digits (hexValue_lt ha) (hexValue_lt hc)
    rw [encode, String.ofList_inj] at ih ⊢
    rw [pairValues, List.flatMap_cons, ih, hhigh, hlow, digitChar_hexValue ha, digitChar_hexValue hc]
    rfl

/-- ASCII white space, as characters: space, tab, line feed, form feed, carriage return. -/
def isAsciiBlankChar (c : Char) : Bool :=
  c = ' ' || c = '\t' || c = '\n' || c = '\x0c' || c = '\r'

theorem isAsciiBlank_ofNat {c : Char} (h : c.toNat < 0x80) :
    isAsciiBlank (UInt8.ofNat c.toNat) = isAsciiBlankChar c := by
  have hmod : c.toNat % 256 = c.toNat := Nat.mod_eq_of_lt (by omega)
  simp only [isAsciiBlank, isAsciiBlankChar, ← UInt8.toNat_inj, UInt8.toNat_ofNat', hmod,
    ← Char.toNat_inj]
  rfl

theorem lt_of_isAsciiBlank {x : UInt8} (h : isAsciiBlank x = true) : x.toNat < 0x80 := by
  simp only [isAsciiBlank, Bool.or_eq_true, decide_eq_true_eq, ← UInt8.toNat_inj,
    UInt8.toNat_ofNat] at h
  omega

theorem flatMap_utf8EncodeChar_ascii {l : List Char} (h : ∀ c ∈ l, c.toNat < 0x80) :
    l.flatMap String.utf8EncodeChar = l.map fun c => UInt8.ofNat c.toNat := by
  induction l with
  | nil => rfl
  | cons c l ih =>
    rw [List.flatMap_cons, List.map_cons, utf8EncodeChar_ascii (h c (by simp)),
      ih fun d hd => h d (by simp [hd])]
    rfl

/-- A text whose octets other than white space are digits is ASCII text: any other character
begins with an octet that is neither. -/
theorem ascii_of_digits {t : String} (hall : ∀ d ∈ digitsOf t, IsHexDigit d) :
    ∀ c ∈ t.toList, c.toNat < 0x80 := by
  intro c hc
  refine Nat.lt_of_not_le fun hge => ?_
  obtain ⟨x, rest, henc, hx⟩ := utf8EncodeChar_high hge
  have hmem : x ∈ t.toUTF8.toList := by
    rw [toUTF8_toList]
    exact List.mem_flatMap.2 ⟨c, hc, by simp [henc]⟩
  have hblank : isAsciiBlank x = false := by
    cases hb : isAsciiBlank x with
    | false => rfl
    | true => exact absurd (lt_of_isAsciiBlank hb) (by omega)
  have hdigit := hall x (List.mem_filter.2 ⟨hmem, by simp [hblank]⟩)
  have hlt := hdigit.lt
  simp only [UInt8.lt_iff_toNat_lt, UInt8.toNat_ofNat] at hlt
  omega

/-- For ASCII text, the octets `decode` reads are the characters other than white space. -/
theorem digitsOf_ascii {t : String} (h : ∀ c ∈ t.toList, c.toNat < 0x80) :
    (digitsOf t).map (fun d => Char.ofNat d.toNat) = t.toList.filter fun c => !isAsciiBlankChar c := by
  rw [digitsOf, toUTF8_toList, flatMap_utf8EncodeChar_ascii h, List.filter_map, List.map_map,
    List.filter_congr (q := fun c => !isAsciiBlankChar c) fun c hc => by
      simp [isAsciiBlank_ofNat (h c hc)]]
  conv => rhs; rw [← List.map_id (List.filter _ _)]
  refine List.map_congr_left fun c hc => ?_
  have hlt := h c (List.mem_filter.1 hc).1
  have hmod : c.toNat % 256 = c.toNat := Nat.mod_eq_of_lt (by omega)
  simp [UInt8.toNat_ofNat', hmod]

/-- The text written for what a text gave is that text without white space, in lower case. -/
theorem encode_decoded {t : String} {b : List UInt8} (hs : ¬ SignedPair (digitsOf t))
    (h : decode t = .ok b) :
    encode b = String.ofList ((t.toList.filter fun c => !isAsciiBlankChar c).map Char.toLower) := by
  obtain ⟨heven, hr⟩ := (decode_ok_iff t b).1 h
  obtain ⟨hall, rfl⟩ := (reads_iff_of_unsigned heven hs b).1 hr
  rw [encode_pairValues heven hall, ← digitsOf_ascii (ascii_of_digits hall), List.map_map]
  rfl

/-- Hexadecimal text, where no pair begins with a plus sign: a text is read exactly when its
octets other than ASCII white space are an even number of hexadecimal digits, and it gives the
values of their consecutive pairs; what `encode` writes reads back to its octets; and the text
written for what a text gave is that text without white space, in lower case. -/
theorem hex_text_law (t : String) (hs : ¬ SignedPair (digitsOf t)) :
    (∀ b, decode t = .ok b ↔
      (digitsOf t).length % 2 = 0 ∧ (∀ d ∈ digitsOf t, IsHexDigit d) ∧ b = pairValues (digitsOf t)) ∧
    (∀ bytes, decode (encode bytes) = .ok bytes) ∧
    (∀ b, decode t = .ok b →
      encode b = String.ofList ((t.toList.filter fun c => !isAsciiBlankChar c).map Char.toLower)) := by
  refine ⟨fun b => ?_, decode_encode, fun b h => encode_decoded hs h⟩
  rw [decode_ok_iff]
  constructor
  · rintro ⟨heven, hr⟩
    exact ⟨heven, (reads_iff_of_unsigned heven hs b).1 hr⟩
  · rintro ⟨heven, hr⟩
    exact ⟨heven, (reads_iff_of_unsigned heven hs b).2 hr⟩

/-- `CA fe` is read as the octets 0xca and 0xfe, which are written back as `cafe`. -/
theorem mixed_case_pairs_written_lower :
    ¬ SignedPair (digitsOf "CA fe") ∧ decode "CA fe" = .ok [0xca, 0xfe] ∧ encode [0xca, 0xfe] = "cafe" := by
  have hdigits : digitsOf "CA fe" = [67, 65, 102, 101] := by decide +kernel
  have hs : ¬ SignedPair (digitsOf "CA fe") := by
    rw [hdigits]
    simp [SignedPair]
  have hall : ∀ d ∈ digitsOf "CA fe", IsHexDigit d := by
    rw [hdigits]
    intro d hd
    simp only [List.mem_cons, List.not_mem_nil, or_false] at hd
    rcases hd with rfl | rfl | rfl | rfl <;> decide
  obtain ⟨hread, -, hwrite⟩ := hex_text_law "CA fe" hs
  have hok : decode "CA fe" = .ok [0xca, 0xfe] :=
    (hread _).2 ⟨by rw [hdigits]; rfl, hall, by rw [hdigits]; decide⟩
  refine ⟨hs, hok, ?_⟩
  rw [hwrite _ hok]
  decide

/-- A plus sign in front of a digit is read: `+f` gives the octet 15, although the plus sign is no
hexadecimal digit, and 15 is written back as `0f`. -/
theorem plus_pair_read :
    decode "+f" = .ok [0x0f] ∧ 43 ∈ digitsOf "+f" ∧ ¬ IsHexDigit 43 ∧ encode [0x0f] = "0f" := by
  refine ⟨by cbv, ?_, by decide, by decide⟩
  have hdigits : digitsOf "+f" = [43, 102] := by decide +kernel
  rw [hdigits]
  simp

end ThreadPlatform.Hex
