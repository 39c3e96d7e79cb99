/-!
# Console text

The console splits command lines at Unicode white space (the characters with
the `White_Space` property, which include U+0085 and U+00A0) and trims it off
both ends of a line. Numbers are read as unsigned decimal integers with an
optional leading `+`, with the first failure met from left to right reported.
-/

namespace ThreadPlatform.Console

/-- Whether a character has the Unicode `White_Space` property. -/
def isSpace (c : Char) : Bool :=
  let n := c.toNat
  (9 ≤ n && n ≤ 13) || n == 32 || n == 0x85 || n == 0xA0 || n == 0x1680 ||
    (0x2000 ≤ n && n ≤ 0x200A) || n == 0x2028 || n == 0x2029 || n == 0x202F ||
    n == 0x205F || n == 0x3000

/-- The words of a character list, given the word begun so far, reversed. -/
def splitWords (cur : List Char) : List Char → List String
  | [] => if cur.isEmpty then [] else [String.ofList cur.reverse]
  | c :: cs =>
    if isSpace c then
      if cur.isEmpty then splitWords [] cs else String.ofList cur.reverse :: splitWords [] cs
    else splitWords (c :: cur) cs

/-- The words of a line: the runs of characters between white space. -/
def words (s : String) : List String := splitWords [] s.toList

/-- A line without white space at either end. -/
def trim (s : String) : String :=
  String.ofList ((s.toList.dropWhile isSpace).reverse.dropWhile isSpace).reverse

/-- Why a word is not a number. -/
inductive NumberError where
  | empty
  | invalidDigit
  | tooLarge
  deriving DecidableEq, Repr

/-- The message of the failure. -/
def NumberError.message : NumberError → String
  | .empty => "cannot parse integer from empty string"
  | .invalidDigit => "invalid digit found in string"
  | .tooLarge => "number too large to fit in target type"

/-- Decimal digits after `acc`, no larger than `max`. -/
def digitsValue (max : Nat) (acc : Nat) : List Char → Except NumberError Nat
  | [] => .ok acc
  | c :: cs =>
    if c.isDigit then
      let v := acc * 10 + (c.toNat - 48)
      if v ≤ max then digitsValue max v cs else .error .tooLarge
    else .error .invalidDigit

/-- An unsigned decimal number no larger than `max`, with an optional leading `+`. -/
def parseNumber (s : String) (max : Nat) : Except NumberError Nat :=
  match s.toList with
  | [] => .error .empty
  | ['+'] => .error .invalidDigit
  | ['-'] => .error .invalidDigit
  | '+' :: cs => digitsValue max 0 cs
  | cs => digitsValue max 0 cs

theorem words_nil : words "" = [] := rfl

end ThreadPlatform.Console
