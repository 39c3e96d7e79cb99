import ThreadPlatform.Binary64.Shortest

/-!
# JSON values

`Json` is a JSON document as a tree. Integers that fit 64 bits (unsigned, or
signed when negative) are kept exactly (`int`); any other number is a double
(`float`), as a JSON reader makes it. Members of an object stay in the order
they are held.

`render` writes the compact form: no blanks, members in the order held, strings
with `"`, `\` and the control characters escaped and everything else as is.
-/

namespace ThreadPlatform

/-- A JSON document. -/
inductive Json where
  | null
  | bool (b : Bool)
  | int (n : Int)
  /-- A double, by its sign and magnitude. -/
  | float (negative : Bool) (magnitude : Binary64)
  | str (s : String)
  | arr (items : List Json)
  | obj (members : List (String × Json))
  deriving Inhabited, Repr

namespace Json

/-- The member named `key`, the first one when there are several. -/
def get? : Json → String → Option Json
  | .obj members, key => (members.find? (·.1 == key)).map (·.2)
  | _, _ => none

/-- An object from its members. -/
def mk (members : List (String × Json)) : Json := .obj members

/-- A natural number. -/
def nat (n : Nat) : Json := .int n

/-- A natural number, or `null`. -/
def optNat : Option Nat → Json
  | some n => .int n
  | none => .null

/-- Four hexadecimal digits of a code unit. -/
def hex4 (n : Nat) : String :=
  let d (k : Nat) : Char := if k < 10 then Char.ofNat (48 + k) else Char.ofNat (87 + k)
  String.ofList [d (n / 4096 % 16), d (n / 256 % 16), d (n / 16 % 16), d (n % 16)]

/-- One character of a string literal. -/
def escapeChar (c : Char) : String :=
  if c = '"' then "\\\""
  else if c = '\\' then "\\\\"
  else if c = '\n' then "\\n"
  else if c = '\r' then "\\r"
  else if c = '\t' then "\\t"
  else if c.toNat = 8 then "\\b"
  else if c.toNat = 12 then "\\f"
  else if c.toNat < 32 then "\\u" ++ hex4 c.toNat
  else String.singleton c

/-- A string literal. -/
def quote (s : String) : String :=
  "\"" ++ String.join (s.toList.map escapeChar) ++ "\""

mutual
/-- The compact text of a document. -/
def render : Json → String
  | .null => "null"
  | .bool b => if b then "true" else "false"
  | .int n => toString n
  | .float neg x => Binary64.text neg x
  | .str s => quote s
  | .arr items => "[" ++ renderItems items ++ "]"
  | .obj members => "\x7b" ++ renderMembers members ++ "\x7d"

/-- Array items, separated by commas. -/
def renderItems : List Json → String
  | [] => ""
  | [j] => render j
  | j :: rest => render j ++ "," ++ renderItems rest

/-- Object members, separated by commas. -/
def renderMembers : List (String × Json) → String
  | [] => ""
  | [(k, v)] => quote k ++ ":" ++ render v
  | (k, v) :: rest => quote k ++ ":" ++ render v ++ "," ++ renderMembers rest
end

end Json

end ThreadPlatform
