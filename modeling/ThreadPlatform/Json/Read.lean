import ThreadPlatform.Config.Text
import ThreadPlatform.Json.Value

/-!
# Reading JSON text

`Json.read` reads a whole document into a tree the way the configuration
reader reads its documents: the same white space, keywords, strings and
numbers, so a number is an integer when it fits 64 bits and otherwise the
double that reader makes of it.

An object keeps one member per key, sorted by key; a later member of the same
key replaces the earlier one. At most 127 arrays and objects may be open at
once: the bracket or brace that would open the 128th is refused. A document
that cannot be read gives the first failure with its line and column.
-/

namespace ThreadPlatform.Json

open Config Config.Text

/-- A number read from text as a tree node. -/
def ofNumber : Number → Json
  | .unsigned n => .int n
  | .signed n => .int n
  | .float neg x => .float neg x

/-- Puts a member into members sorted by key, replacing one of the same key. -/
def putMember (k : String) (v : Json) : List (String × Json) → List (String × Json)
  | [] => [(k, v)]
  | (k', v') :: rest =>
    if k = k' then (k, v) :: rest
    else if k < k' then (k, v) :: (k', v') :: rest
    else (k', v') :: putMember k v rest

/-- The most arrays and objects that may be open at once. -/
def depthLimit : Nat := 127

mutual
/-- A value. Every call takes fuel; a call reads at least one byte. -/
def readValue (depth : Nat) : Nat → TextM Json
  | 0 => fail eofValue
  | fuel + 1 => do
    match ← skipBlank with
    | none => fail eofValue
    | some b =>
      if b == 110 then eat; parseIdent [117, 108, 108]; return .null
      else if b == 116 then eat; parseIdent [114, 117, 101]; return .bool true
      else if b == 102 then eat; parseIdent [97, 108, 115, 101]; return .bool false
      else if b == 45 then eat; return ofNumber (← parseInteger false)
      else if isDigit b then return ofNumber (← parseInteger true)
      else if b == 34 then eat; return .str (← parseStr)
      else if b == 91 || b == 123 then
        match depth with
        | 0 => failPeek "recursion limit exceeded"
        | inner + 1 =>
          eat
          if b == 91 then readItems inner #[] true fuel
          else readMembers inner [] true fuel
      else failPeek expectedValue

/-- Items of an array after its bracket, up to the closing bracket; `first`
tells that no item has been read yet, so no comma is due. -/
def readItems (depth : Nat) (acc : Array Json) (first : Bool) : Nat → TextM Json
  | 0 => fail eofList
  | fuel + 1 => do
    match ← skipBlank with
    | none => failPeek eofList
    | some 93 => eat; return .arr acc.toList
    | some b =>
      if !first then
        if b == 44 then
          eat
          match ← skipBlank with
          | some 93 => failPeek trailingComma
          | none => failPeek eofValue
          | some _ => pure ()
        else failPeek expectedListEnd
      let v ← readValue depth fuel
      readItems depth (acc.push v) false fuel

/-- Members of an object after its brace, up to the closing brace; `first`
tells that no member has been read yet, so no comma is due. -/
def readMembers (depth : Nat) (acc : List (String × Json)) (first : Bool) : Nat → TextM Json
  | 0 => fail eofObject
  | fuel + 1 => do
    match ← skipBlank with
    | none => failPeek eofObject
    | some 125 => eat; return .obj acc
    | some b =>
      if !first then
        if b == 44 then
          eat
          match ← skipBlank with
          | some 34 => pure ()
          | some 125 => failPeek trailingComma
          | some _ => failPeek keyNotString
          | none => failPeek eofValue
        else failPeek expectedObjectEnd
      else if b != 34 then failPeek keyNotString
      eat
      let k ← parseStr
      match ← skipBlank with
      | some 58 => eat
      | some _ => failPeek expectedColon
      | none => failPeek eofObject
      let v ← readValue depth fuel
      readMembers depth (putMember k v acc) false fuel
end

/-- A whole document; only white space may follow it. -/
def read (text : String) : Except Fault Json :=
  let bytes := text.toUTF8
  let act : TextM Json := do
    let v ← readValue depthLimit (2 * bytes.size + 2)
    match ← skipBlank with
    | some _ => failPeek trailingChars
    | none => return v
  (act.run.run ⟨bytes, 0⟩).1

end ThreadPlatform.Json
