import ThreadPlatform.Config.Shape
import ThreadPlatform.Binary64.Shortest

/-!
# Numbers in configuration documents

A JSON number is read as a non-negative integer when it has no fraction or
exponent and fits 64 bits, as a negative integer when it fits 64 bits signed,
and as a double otherwise.

The double is not the one nearest to the decimal: the significand's digits are
gathered into a 64-bit integer (digits past its capacity are dropped, an
integer's shifting the exponent), that integer is rounded to a double, and the
double is multiplied or divided once by the double nearest to the power of ten.
Exponents beyond 308 are brought in range by dividing by `1e308` first. A
product that overflows is out of range; so is a positive exponent that stays
beyond 308 while the value is not zero.
-/

namespace ThreadPlatform.Config

/-- A number as a reader finds it. -/
inductive Number where
  | unsigned (n : Nat)
  | signed (n : Int)
  | float (negative : Bool) (magnitude : Binary64)
  deriving DecidableEq, Repr

/-- The double for significand `sig` and decimal exponent `exp`, or `none`
when it is out of range. `fuel` bounds the divisions by `1e308`; three bring
any 64-bit significand to zero. -/
def fromPartsWith (f : Binary64) (exp : Int) : Nat → Option Binary64
  | 0 => some Binary64.zero
  | fuel + 1 =>
    if exp.natAbs ≤ 308 then
      if 0 ≤ exp then
        let g := f.mul (Binary64.pow10 exp.toNat)
        if g.isInfinite then none else some g
      else some (f.div (Binary64.pow10 exp.natAbs))
    else if f.isZero then some f
    else if 0 ≤ exp then none
    else fromPartsWith (f.div (Binary64.pow10 308)) (exp + 308) fuel

/-- The double a reader makes of significand `sig` and decimal exponent `exp`. -/
def fromParts (sig : Nat) (exp : Int) : Option Binary64 :=
  fromPartsWith (Binary64.ofNat sig) exp 8

/-- How a double is shown in messages. -/
def showFloat (negative : Bool) (x : Binary64) : String := Binary64.text negative x

/-- What a reader of the shape makes of the number. -/
def visitNumber (s : Shape) : Number → Except String Datum
  | .unsigned n => visitUnsigned s n
  | .signed n => visitSigned s n
  | .float neg x => .error (invalidType (.float (showFloat neg x)) s.expecting)

/-- How the number is named when it is not what was expected. -/
def Number.unexpected : Number → Unexpected
  | .unsigned n => .unsigned n
  | .signed n => .signed n
  | .float neg x => .float (showFloat neg x)

end ThreadPlatform.Config
