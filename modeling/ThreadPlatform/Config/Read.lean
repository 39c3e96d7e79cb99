import ThreadPlatform.Config.Text

/-!
# Reading the configuration format from text

Each shape has its reader. A record is read as an object or an array, then its
close is looked for whatever happened; a failure of meaning inside it is placed
after that. `readPlatform` reads a whole document as a `PlatformConfig`.
-/

namespace ThreadPlatform.Config.Text

/-- A `null`. -/
def readUnit : TextM Unit := placed do
  match ← skipBlank with
  | none => failPeek eofValue
  | some 110 => eat; parseIdent [117, 108, 108]
  | some _ => throw (← peekInvalidType "unit")

/-- A number for a reader of shape `s`. -/
def readNumberAs (s : Shape) : TextM Datum := placed do
  match ← skipBlank with
  | none => failPeek eofValue
  | some 45 => eat; mean (visitNumber s (← parseInteger false))
  | some b =>
    if isDigit b then mean (visitNumber s (← parseInteger true))
    else throw (← peekInvalidType s.expecting)

/-- A string. -/
def readText : TextM Datum := placed do
  match ← skipBlank with
  | none => failPeek eofValue
  | some 34 => eat; mean (visitStr .text (← parseStr))
  | some _ => throw (← peekInvalidType "a string")

/-- An optional number: `null` or the number. -/
def readOptional (w : Width) : TextM Datum := do
  match ← skipBlank with
  | some 110 => eat; parseIdent [117, 108, 108]; return .absent
  | _ => readNumberAs (.uint w)

/-- The name of a choice. -/
def readVariantName (names : List String) : TextM Datum := placed do
  match ← skipBlank with
  | none => failPeek eofValue
  | some 34 => eat; mean (visitVariant names (← parseStr))
  | some _ => throw (← peekInvalidType "variant identifier")

/-- The `:` between a key and its value. -/
def parseColon : TextM Unit := do
  match ← skipBlank with
  | some 58 => eat
  | some _ => failPeek expectedColon
  | none => failPeek eofObject

/-- A choice: its name as a string, or an object with the name as its one key and `null`. -/
def readChoice (names : List String) : TextM Datum := do
  match ← skipBlank with
  | some 123 =>
    eat
    let v ← readVariantName names
    parseColon
    readUnit
    match ← skipBlank with
    | some 125 => eat; return v
    | some _ => fail expectedValue
    | none => fail eofObject
  | some 34 => readVariantName names
  | some _ => failPeek expectedValue
  | none => failPeek eofValue

/-- The key at the byte `b`, its opening quote next. -/
def keyAt (b : Option UInt8) : TextM (Option String) := do
  match b with
  | some 34 => eat; return some (← parseStr)
  | some 125 => failPeek trailingComma
  | some _ => failPeek keyNotString
  | none => failPeek eofValue

/-- The next key of an object, or `none` at its close. -/
def nextKey (first : Bool) : TextM (Option String) := do
  match ← skipBlank with
  | some 125 => return none
  | some 44 =>
    if first then keyAt (some 44)
    else
      eat
      keyAt (← skipBlank)
  | some b => if first then keyAt (some b) else failPeek expectedObjectEnd
  | none => failPeek eofObject

/-- The element at the byte `b`. -/
def elementAt (b : Option UInt8) (read : TextM Datum) : TextM (Option Datum) := do
  match b with
  | some 93 => failPeek trailingComma
  | some _ => return some (← read)
  | none => failPeek eofValue

/-- The next element of an array, or `none` at its close. -/
def nextElement (first : Bool) (read : TextM Datum) : TextM (Option Datum) := do
  match ← skipBlank with
  | some 93 => return none
  | some 44 =>
    if first then elementAt (some 44) read
    else
      eat
      elementAt (← skipBlank) read
  | some b => if first then elementAt (some b) read else failPeek expectedListEnd
  | none => failPeek eofList

/-- The close of an array. -/
def endSeq : TextM Unit := do
  match ← skipBlank with
  | some 93 => eat
  | some 44 =>
    eat
    match ← skipBlank with
    | some 93 => failPeek trailingComma
    | _ => failPeek trailingChars
  | some _ => failPeek trailingChars
  | none => failPeek eofList

/-- The close of an object. -/
def endMap : TextM Unit := do
  match ← skipBlank with
  | some 125 => eat
  | some 44 => failPeek trailingComma
  | some _ => failPeek trailingChars
  | none => failPeek eofObject

/-- The position of a field among the record's fields. -/
def fieldIndex (r : RecordKind) (key : String) : Option Nat :=
  r.fields.findIdx? (·.1 == key)

/-- The members of a record written as an object, into their slots. -/
def mapFields (r : RecordKind) (field : Shape → TextM Datum) (slots : List (Option Datum)) (first : Bool) :
    Nat → TextM (List (Option Datum))
  | 0 => return slots
  | fuel + 1 => do
    match ← nextKey first with
    | none => return slots
    | some k =>
      match fieldIndex r k with
      | some i =>
        if (slots.getD i none).isSome then mean (.error (duplicateField k))
        else
          parseColon
          let v ← field ((r.fields.getD i ("", .text)).2)
          mapFields r field (slots.set i (some v)) false fuel
      | none =>
        if r.closed then mean (.error (unknownField k (r.fields.map (·.1))))
        else
          parseColon
          skipValue
          mapFields r field slots false fuel

/-- The fields of a record written as an array, in order. -/
def seqFields (r : RecordKind) (field : Shape → TextM Datum) :
    List (String × Shape) → Nat → Bool → TextM (List (Option Datum))
  | [], _, _ => return []
  | (_, s) :: rest, i, first => do
    match ← nextElement first (field s) with
    | some v => return some v :: (← seqFields r field rest (i + 1) false)
    | none =>
      if r.defaulted then return none :: (← seqFields r field rest (i + 1) first)
      else mean (.error (invalidLength i r.seqExpecting))

/-- Both outcomes of reading a record and looking for its close. -/
def settle (ret : Except Fault Datum) (fin : Except Fault Unit) : TextM Datum :=
  match ret, fin with
  | .ok v, .ok () => pure v
  | .error e, _ => throw e
  | _, .error e => throw e

/-- A record, as an object or an array. -/
def readRecord (r : RecordKind) (field : Shape → TextM Datum) : TextM Datum := placed do
  match ← skipBlank with
  | none => failPeek eofValue
  | some 91 =>
    eat
    let ret ← attempt do
      let slots ← seqFields r field r.fields 0 true
      mean (finishRecord r slots)
    settle ret (← attempt endSeq)
  | some 123 =>
    eat
    let fuel := (← get).bytes.size + 1
    let ret ← attempt do
      let slots ← mapFields r field (fieldSlots r) true fuel
      mean (finishRecord r slots)
    settle ret (← attempt endMap)
  | some _ => throw (← peekInvalidType s!"struct {r.name}")

/-- A value of a shape, records nested at most `depth` deep. -/
def readValue : Nat → Shape → TextM Datum
  | 0, _ => mean (.error "recursion limit exceeded")
  | depth + 1, s =>
    match s with
    | .uint _ => readNumberAs s
    | .text => readText
    | .optional w => readOptional w
    | .choice names => readChoice names
    | .record r => readRecord r (readValue depth)

/-- A whole document as a configuration; only white space may follow it. -/
def readPlatform (text : String) : Except Fault PlatformParams :=
  let act : TextM Datum := do
    let d ← readValue 8 (.record .platform)
    match ← skipBlank with
    | some _ => failPeek trailingChars
    | none => return d
  match (act.run.run ⟨text.toUTF8, 0⟩).1 with
  | .ok d => .ok (PlatformParams.ofDatum d)
  | .error f => .error f

end ThreadPlatform.Config.Text
