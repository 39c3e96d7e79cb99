import ThreadPlatform.Config.Number

/-!
# Reading a configuration document

`readPlatform` reads a JSON document against the configuration format in one
pass from left to right, and stops at the first failure. A failure names its
place as a line and a column, counted in bytes from the start of the line:

* a syntax failure found by looking at the next byte is placed just after that
  byte (`failPeek`), one found after taking a byte at the current position
  (`fail`);
* a failure of meaning (a wrong type, a missing field) is placed where the
  value it concerns ends (`placed`). For a record that is after its closing
  bracket or brace when that is the next thing in the text: the reader always
  looks for the close, even after the record failed.

After the document, only white space may follow.
-/

namespace ThreadPlatform.Config

/-- A failure and, once known, its line and column. -/
structure Fault where
  message : String
  place : Option (Nat × Nat)
  deriving DecidableEq, Repr

/-- The failure as it is shown. -/
def Fault.render (f : Fault) : String :=
  match f.place with
  | some (line, col) => s!"{f.message} at line {line} column {col}"
  | none => f.message

/-- The document and how far it has been read. -/
structure Cursor where
  bytes : ByteArray
  index : Nat

/-- Reading a document. -/
abbrev TextM := ExceptT Fault (StateM Cursor)

namespace Text

/-- The line and column of byte `i`. -/
def placeOf (bytes : ByteArray) (i : Nat) : Nat × Nat :=
  let before := (List.range i).filter fun j => bytes[j]? = some 10
  match before.getLast? with
  | some nl => (before.length + 1, i - (nl + 1))
  | none => (1, i)

/-- The next byte, not taken. -/
def peek : TextM (Option UInt8) := do
  let c ← get
  return c.bytes[c.index]?

/-- The next byte, or zero at the end. -/
def peekOrNull : TextM UInt8 := return (← peek).getD 0

/-- Takes the next byte. -/
def eat : TextM Unit := modify fun c => { c with index := c.index + 1 }

/-- Takes and returns the next byte, if any. -/
def next : TextM (Option UInt8) := do
  match ← peek with
  | some b => eat; return some b
  | none => return none

/-- Fails at the current position. -/
def fail {α : Type} (message : String) : TextM α := do
  let c ← get
  throw ⟨message, some (placeOf c.bytes c.index)⟩

/-- Fails just after the next byte. -/
def failPeek {α : Type} (message : String) : TextM α := do
  let c ← get
  throw ⟨message, some (placeOf c.bytes (min c.bytes.size (c.index + 1)))⟩

/-- A failure of meaning, not yet placed. -/
def mean {α : Type} (r : Except String α) : TextM α :=
  match r with
  | .ok a => pure a
  | .error m => throw ⟨m, none⟩

/-- Places an unplaced failure at the current position. -/
def placeHere (f : Fault) : TextM Fault := do
  match f.place with
  | some _ => return f
  | none =>
    let c ← get
    return { f with place := some (placeOf c.bytes c.index) }

/-- Runs `act`, placing an unplaced failure where reading stopped. -/
def placed {α : Type} (act : TextM α) : TextM α :=
  tryCatch act fun f => do throw (← placeHere f)

/-- Runs `act` and keeps its outcome, success or failure. -/
def attempt {α : Type} (act : TextM α) : TextM (Except Fault α) :=
  tryCatch (do return .ok (← act)) fun f => return .error f

/-- Whether a byte is JSON white space. -/
def isBlank (b : UInt8) : Bool := b == 32 || b == 10 || b == 9 || b == 13

/-- Skips white space and returns the next byte, not taken. -/
def skipBlank : TextM (Option UInt8) := do
  let c ← get
  let rec go (i : Nat) : Nat → Nat
    | 0 => i
    | fuel + 1 =>
      match c.bytes[i]? with
      | some b => if isBlank b then go (i + 1) fuel else i
      | none => i
  let i := go c.index c.bytes.size
  set { c with index := i }
  return c.bytes[i]?

/-- Messages of syntax failures. -/
def eofValue : String := "EOF while parsing a value"
def eofObject : String := "EOF while parsing an object"
def eofList : String := "EOF while parsing a list"
def eofString : String := "EOF while parsing a string"
def expectedValue : String := "expected value"
def expectedIdent : String := "expected ident"
def expectedColon : String := "expected `:`"
def expectedListEnd : String := "expected `,` or `]`"
def expectedObjectEnd : String := "expected `,` or `\x7d`"
def invalidNumber : String := "invalid number"
def numberOutOfRange : String := "number out of range"
def invalidEscape : String := "invalid escape"
def controlChar : String := "control character (\\u0000-\\u001F) found while parsing a string"
def loneSurrogate : String := "lone leading surrogate in hex escape"
def endOfHexEscape : String := "unexpected end of hex escape"
def keyNotString : String := "key must be a string"
def trailingComma : String := "trailing comma"
def trailingChars : String := "trailing characters"

/-- Takes the rest of a keyword, byte by byte. -/
def parseIdent : List UInt8 → TextM Unit
  | [] => pure ()
  | b :: rest => do
    match ← next with
    | none => fail eofValue
    | some c => if c == b then parseIdent rest else fail expectedIdent

/-- The value of a hexadecimal digit. -/
def hexValue (b : UInt8) : Option Nat :=
  if 48 ≤ b ∧ b ≤ 57 then some (b.toNat - 48)
  else if 65 ≤ b ∧ b ≤ 70 then some (b.toNat - 55)
  else if 97 ≤ b ∧ b ≤ 102 then some (b.toNat - 87)
  else none

/-- Four hexadecimal digits of an escape. -/
def hexEscape : TextM Nat := do
  let c ← get
  match c.bytes[c.index]?, c.bytes[c.index + 1]?, c.bytes[c.index + 2]?, c.bytes[c.index + 3]? with
  | some a, some b, some d, some e =>
    set { c with index := c.index + 4 }
    match hexValue a, hexValue b, hexValue d, hexValue e with
    | some a, some b, some d, some e => return ((a * 16 + b) * 16 + d) * 16 + e
    | _, _, _, _ => fail invalidEscape
  | _, _, _, _ =>
    set { c with index := c.bytes.size }
    fail eofString

/-- The UTF-8 encoding of a code point. -/
def utf8 (n : Nat) : List UInt8 := (String.singleton (Char.ofNat n)).toUTF8.toList

/-- The bytes a `\u` escape stands for, the escape's `u` taken. -/
def unicodeEscape : TextM (List UInt8) := do
  let n ← hexEscape
  if 0xDC00 ≤ n ∧ n ≤ 0xDFFF then fail loneSurrogate
  else if n < 0xD800 ∨ 0xDBFF < n then return utf8 n
  else
    match ← peek with
    | none => fail eofString
    | some b =>
      eat
      if b != 92 then fail endOfHexEscape
      else
        match ← peek with
        | none => fail eofString
        | some u =>
          eat
          if u != 117 then fail endOfHexEscape
          else
            let n2 ← hexEscape
            if n2 < 0xDC00 ∨ 0xDFFF < n2 then fail loneSurrogate
            else return utf8 ((((n - 0xD800) * 1024) ||| (n2 - 0xDC00)) + 0x10000)

/-- The bytes an escape stands for, its backslash taken. -/
def escape : TextM (List UInt8) := do
  match ← next with
  | none => fail eofString
  | some c =>
    match c with
    | 34 => return [34]
    | 92 => return [92]
    | 47 => return [47]
    | 98 => return [8]
    | 102 => return [12]
    | 110 => return [10]
    | 114 => return [13]
    | 116 => return [9]
    | 117 => unicodeEscape
    | _ => fail invalidEscape

/-- The bytes of a string up to its closing quote, the opening quote taken. -/
def strBytes (acc : Array UInt8) : Nat → TextM (Array UInt8)
  | 0 => fail eofString
  | fuel + 1 => do
    match ← peek with
    | none => fail eofString
    | some 34 => eat; return acc
    | some 92 => eat; strBytes (acc ++ (← escape).toArray) fuel
    | some b =>
      if b < 32 then eat; fail controlChar
      else eat; strBytes (acc.push b) fuel

/-- A string, its opening quote taken. -/
def parseStr : TextM String := do
  let bytes ← strBytes #[] ((← get).bytes.size + 1)
  return (String.fromUTF8? ⟨bytes⟩).getD ""

/-- Skips an escape, its backslash taken. -/
def skipEscape : TextM Unit := do
  match ← next with
  | none => fail eofString
  | some c =>
    if c == 34 || c == 92 || c == 47 || c == 98 || c == 102 || c == 110 || c == 114 || c == 116 then
      pure ()
    else if c == 117 then
      let _ ← hexEscape
    else fail invalidEscape

/-- Skips a string, its opening quote taken. -/
def skipStr : Nat → TextM Unit
  | 0 => fail eofString
  | fuel + 1 => do
    match ← peek with
    | none => fail eofString
    | some 34 => eat
    | some 92 => eat; skipEscape; skipStr fuel
    | some b => if b < 32 then fail controlChar else eat; skipStr fuel

/-- Whether a byte is a decimal digit. -/
def isDigit (b : UInt8) : Bool := 48 ≤ b && b ≤ 57

/-- Digits, taken while they come, with their count. -/
def digitRun (acc : Nat) (count : Nat) : Nat → TextM (Nat × Nat)
  | 0 => return (acc, count)
  | fuel + 1 => do
    let b ← peekOrNull
    if isDigit b then eat; digitRun (acc * 10 + (b.toNat - 48)) (count + 1) fuel
    else return (acc, count)

/-- Skips digits. -/
def skipDigits (fuel : Nat) : TextM Unit := do let _ ← digitRun 0 0 fuel

/-- The largest 32-bit signed value. -/
def maxExp : Nat := 2147483647

/-- The double of significand `sig` and exponent `exp`, failing when it is out of range. -/
def floatOf (neg : Bool) (sig : Nat) (exp : Int) : TextM Number :=
  match fromParts sig exp with
  | some x => pure (.float neg x)
  | none => fail numberOutOfRange

/-- The exponent part, its `e` next. -/
def parseExponent (neg : Bool) (sig : Nat) (start : Int) : TextM Number := do
  eat
  let positive ← match ← peekOrNull with
    | 43 => do eat; pure true
    | 45 => do eat; pure false
    | _ => pure true
  match ← next with
  | none => fail eofValue
  | some c =>
    if !isDigit c then fail invalidNumber
    else
      let fuel := (← get).bytes.size
      let rec run (exp : Nat) : Nat → TextM (Option Nat)
        | 0 => return some exp
        | fuel + 1 => do
          let b ← peekOrNull
          if isDigit b then
            eat
            let e := exp * 10 + (b.toNat - 48)
            if e > maxExp then return none else run e fuel
          else return some exp
      match ← run (c.toNat - 48) fuel with
      | none =>
        if sig ≠ 0 ∧ positive then fail numberOutOfRange
        else
          skipDigits fuel
          return .float neg Binary64.zero
      | some e =>
        floatOf neg sig (if positive then start + e else start - e)

/-- The largest 64-bit value. -/
def max64 : Nat := 18446744073709551615

/-- Digits after the point, the point next. -/
def parseDecimal (neg : Bool) (sig : Nat) (start : Int) : TextM Number := do
  eat
  let fuel := (← get).bytes.size
  let rec run (sig : Nat) (after : Nat) (overflowed : Bool) : Nat → TextM (Nat × Nat × Bool)
    | 0 => return (sig, after, overflowed)
    | fuel + 1 => do
      let b ← peekOrNull
      if isDigit b then
        eat
        if overflowed then run sig after true fuel
        else
          let v := sig * 10 + (b.toNat - 48)
          if v > max64 then run sig after true fuel else run v (after + 1) false fuel
      else return (sig, after, overflowed)
  let (sig', after, overflowed) ← run sig 0 false fuel
  if after = 0 ∧ !overflowed then
    match ← peek with
    | some _ => failPeek invalidNumber
    | none => failPeek eofValue
  else
    let exp := start - after
    if (← peekOrNull) == 101 || (← peekOrNull) == 69 then parseExponent neg sig' exp
    else floatOf neg sig' exp

/-- What follows an integer's digits: a fraction, an exponent, or nothing. -/
def parseTail (neg : Bool) (sig : Nat) (exp : Int) (long : Bool) : TextM Number := do
  let b ← peekOrNull
  if b == 46 then parseDecimal neg sig exp
  else if b == 101 || b == 69 then parseExponent neg sig exp
  else if long then floatOf neg sig exp
  else if !neg then return .unsigned sig
  else if sig = 0 ∨ sig > 9223372036854775808 then return .float true (Binary64.ofNat sig)
  else return .signed (-(sig : Int))

/-- A number, its sign taken. -/
def parseInteger (positive : Bool) : TextM Number := do
  match ← next with
  | none => fail eofValue
  | some c =>
    if c == 48 then
      if isDigit (← peekOrNull) then failPeek invalidNumber
      else parseTail (!positive) 0 0 false
    else if isDigit c then
      let fuel := (← get).bytes.size
      let rec run (sig : Nat) : Nat → TextM Number
        | 0 => parseTail (!positive) sig 0 false
        | fuel + 1 => do
          let b ← peekOrNull
          if isDigit b then
            let v := sig * 10 + (b.toNat - 48)
            if v > max64 then
              let (_, extra) ← digitRun 0 0 fuel
              parseTail (!positive) sig extra true
            else
              eat
              run v fuel
          else parseTail (!positive) sig 0 false
      run (c.toNat - 48) fuel
    else fail invalidNumber

/-- What was found where something of kind `exp` was expected, as a placed failure. -/
def peekInvalidType (exp : String) : TextM Fault := do
  let b ← peekOrNull
  let u ← match b with
    | 110 => do eat; parseIdent [117, 108, 108]; pure Unexpected.unit
    | 116 => do eat; parseIdent [114, 117, 101]; pure (.bool true)
    | 102 => do eat; parseIdent [97, 108, 115, 101]; pure (.bool false)
    | 45 => do eat; pure (← parseInteger false).unexpected
    | 34 => do eat; pure (.str (← parseStr))
    | 91 => pure .seq
    | 123 => pure .map
    | _ =>
      if isDigit b then do pure (← parseInteger true).unexpected
      else failPeek expectedValue
  placeHere ⟨invalidType u exp, none⟩

/-- Skips a number. -/
def skipNumber : TextM Unit := do
  let fuel := (← get).bytes.size
  match ← next with
  | some 48 => if isDigit (← peekOrNull) then failPeek invalidNumber
  | some c => if isDigit c then skipDigits fuel else fail invalidNumber
  | none => fail invalidNumber
  let b ← peekOrNull
  let skipExponent : TextM Unit := do
    eat
    let s ← peekOrNull
    if s == 43 || s == 45 then eat
    match ← next with
    | some d => if isDigit d then skipDigits fuel else fail invalidNumber
    | none => fail invalidNumber
  if b == 46 then
    eat
    let (_, n) ← digitRun 0 0 fuel
    if n = 0 then failPeek invalidNumber
    let e ← peekOrNull
    if e == 101 || e == 69 then skipExponent
  else if b == 101 || b == 69 then skipExponent

/-- Where skipping a value stands: before a value, after one, just inside a new
bracket or brace, or before a member of the innermost one. -/
inductive SkipMode where
  | value
  | after
  | fresh
  | member

/-- Whether byte `b` closes the frame opened by `frame`. -/
def closes (frame b : UInt8) : Bool := (b == 93 && frame == 91) || (b == 125 && frame == 123)

/-- The failure for the end of text inside the frame opened by `frame`. -/
def eofIn (frame : UInt8) : String := if frame == 91 then eofList else eofObject

/-- Skips values of any kind, with the open brackets and braces on a stack. -/
def skipLoop : List UInt8 → SkipMode → Nat → TextM Unit
  | _, _, 0 => pure ()
  | stack, .value, fuel + 1 => do
    match ← skipBlank with
    | none => failPeek eofValue
    | some b =>
      if b == 91 || b == 123 then
        eat
        skipLoop (b :: stack) .fresh fuel
      else
        if b == 110 then eat; parseIdent [117, 108, 108]
        else if b == 116 then eat; parseIdent [114, 117, 101]
        else if b == 102 then eat; parseIdent [97, 108, 115, 101]
        else if b == 45 then eat; skipNumber
        else if isDigit b then skipNumber
        else if b == 34 then eat; skipStr ((← get).bytes.size + 1)
        else failPeek expectedValue
        skipLoop stack .after fuel
  | [], .after, _ + 1 => pure ()
  | frame :: rest, .after, fuel + 1 => do
    match ← skipBlank with
    | some 44 =>
      eat
      skipLoop (frame :: rest) .member fuel
    | some b =>
      if closes frame b then
        eat
        skipLoop rest .after fuel
      else failPeek (if frame == 91 then expectedListEnd else expectedObjectEnd)
    | none => failPeek (eofIn frame)
  | [], .fresh, _ + 1 => pure ()
  | frame :: rest, .fresh, fuel + 1 => do
    match ← skipBlank with
    | some b =>
      if closes frame b then
        eat
        skipLoop rest .after fuel
      else skipLoop (frame :: rest) .member fuel
    | none => failPeek (eofIn frame)
  | stack, .member, fuel + 1 => do
    if stack.head? == some 123 then
      match ← skipBlank with
      | some 34 => eat; skipStr ((← get).bytes.size + 1)
      | some _ => failPeek keyNotString
      | none => failPeek eofObject
      match ← skipBlank with
      | some 58 => eat
      | some _ => failPeek expectedColon
      | none => failPeek eofObject
    skipLoop stack .value fuel

/-- Skips one value of any kind. -/
def skipValue : TextM Unit := do
  skipLoop [] .value (4 * (← get).bytes.size + 4)

end Text

end ThreadPlatform.Config
