/-!
# Hexadecimal text for octet strings

`encode` writes two lowercase digits per octet. `decode` reads what a person
types on the console: it looks at the UTF-8 octets of the text, skips ASCII
white space, and reads the rest two octets at a time. A pair is read as a
number in base 16 with an optional leading `+` (so `+f` is the octet `0x0f`).

Failures, in the order they are checked: an odd number of octets, a pair that
is not UTF-8 text on its own (half of a longer character), and a pair that is
not a number.
-/

namespace ThreadPlatform.Hex

/-- The lowercase digit for a value below sixteen. -/
def digitChar (n : UInt8) : Char :=
  if n < 10 then Char.ofNat (48 + n.toNat) else Char.ofNat (87 + n.toNat)

/-- Two lowercase digits for each octet. -/
def encode (bytes : List UInt8) : String :=
  String.ofList (bytes.flatMap fun (b : UInt8) => [digitChar (b >>> 4), digitChar (b &&& 15)])

/-- The value of a digit in base 16, either case. -/
def digitValue? (b : UInt8) : Option UInt8 :=
  if 48 ≤ b ∧ b ≤ 57 then some (b - 48)
  else if 97 ≤ b ∧ b ≤ 102 then some (b - 87)
  else if 65 ≤ b ∧ b ≤ 70 then some (b - 55)
  else none

/-- Why a run of octets is not UTF-8 text: how many leading octets are good, and
how long the bad sequence is (none when the text just stops too early). -/
structure Utf8Fault where
  validUpTo : Nat
  errorLen : Option Nat
  deriving DecidableEq, Repr

/-- The sentence for a UTF-8 fault. -/
def Utf8Fault.message (f : Utf8Fault) : String :=
  match f.errorLen with
  | some n => s!"invalid utf-8 sequence of {n} bytes from index {f.validUpTo}"
  | none => s!"incomplete utf-8 byte sequence from index {f.validUpTo}"

/-- What a two-octet sequence is as UTF-8: its text, or why it is none. -/
def pairText (a b : UInt8) : Except Utf8Fault String :=
  let cont (x : UInt8) : Bool := 0x80 ≤ x && x ≤ 0xBF
  let lead (x : UInt8) : Bool := 0xC2 ≤ x && x ≤ 0xF4
  if a < 0x80 then
    if b < 0x80 then .ok (String.ofList [Char.ofNat a.toNat, Char.ofNat b.toNat])
    else if lead b then .error ⟨1, none⟩
    else .error ⟨1, some 1⟩
  else if 0xC2 ≤ a ∧ a ≤ 0xDF then
    if cont b then
      .ok (String.singleton (Char.ofNat ((a &&& 0x1F).toNat * 64 + (b &&& 0x3F).toNat)))
    else .error ⟨0, some 1⟩
  else if 0xE0 ≤ a ∧ a ≤ 0xEF then
    let lo : UInt8 := if a = 0xE0 then 0xA0 else 0x80
    let hi : UInt8 := if a = 0xED then 0x9F else 0xBF
    if lo ≤ b ∧ b ≤ hi then .error ⟨0, none⟩ else .error ⟨0, some 1⟩
  else if 0xF0 ≤ a ∧ a ≤ 0xF4 then
    let lo : UInt8 := if a = 0xF0 then 0x90 else 0x80
    let hi : UInt8 := if a = 0xF4 then 0x8F else 0xBF
    if lo ≤ b ∧ b ≤ hi then .error ⟨0, none⟩ else .error ⟨0, some 1⟩
  else .error ⟨0, some 1⟩

/-- Read a pair of ASCII octets as a number in base 16, with an optional leading `+`. -/
def pairValue? (a b : UInt8) : Option UInt8 :=
  if a = 43 then digitValue? b
  else do
    let hi ← digitValue? a
    let lo ← digitValue? b
    pure (hi * 16 + lo)

/-- Why console text is not hexadecimal. -/
inductive HexError where
  | oddDigits
  | notText (fault : Utf8Fault)
  | badPair (pair : String)
  deriving DecidableEq, Repr

/-- The sentence for a hex failure, with its cause after a colon. -/
def HexError.message : HexError → String
  | .oddDigits => "odd number of hex digits"
  | .notText f => "non-ASCII hex digit: " ++ f.message
  | .badPair p => s!"invalid hex byte '{p}': invalid digit found in string"

/-- ASCII white space: space, tab, line feed, form feed, carriage return. -/
def isAsciiBlank (b : UInt8) : Bool :=
  b = 32 || b = 9 || b = 10 || b = 12 || b = 13

/-- Read octets two at a time. -/
def decodePairs : List UInt8 → Except HexError (List UInt8)
  | a :: b :: rest => do
    let text ← (pairText a b).mapError HexError.notText
    match text.toList, pairValue? a b with
    | [_, _], some v => return v :: (← decodePairs rest)
    | _, _ => throw (.badPair text)
  | _ => .ok []

/-- Read console text as octets. -/
def decode (text : String) : Except HexError (List UInt8) :=
  let digits := text.toUTF8.toList.filter (fun b => !isAsciiBlank b)
  if digits.length % 2 ≠ 0 then .error .oddDigits
  else decodePairs digits

end ThreadPlatform.Hex
