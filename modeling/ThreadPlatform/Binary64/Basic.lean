/-!
# Binary64 magnitudes

`Binary64` is the magnitude of an IEEE 754 double: a finite value
`mantissa · 2 ^ exponent`, or infinity. Finite values are kept canonical: the
mantissa is below `2 ^ 53`, and either at least `2 ^ 52` (a normal number) or
the exponent is the least one, `-1074` (zero and the subnormal numbers). The
largest exponent of a finite value is `971`.

`ofRatio n d` is the double nearest to `n / d`, a tie going to the even
mantissa, and infinity past the largest finite value: the rounding of every
IEEE operation. Products and quotients of doubles are then their exact values
rounded once, so the arithmetic here is that of the hardware, computed in
natural numbers.
-/

namespace ThreadPlatform

/-- The magnitude of a double. -/
inductive Binary64 where
  | finite (mantissa : Nat) (exponent : Int)
  | infinite
  deriving DecidableEq, Repr, Inhabited

namespace Binary64

/-- The least exponent. -/
def minExponent : Int := -1074

/-- The largest exponent of a finite value. -/
def maxExponent : Int := 971

/-- Zero. -/
def zero : Binary64 := .finite 0 minExponent

/-- `n / d` rounded to the nearest natural number, a tie going to the even one. -/
def roundHalfEven (n d : Nat) : Nat :=
  let q := n / d
  let r := n % d
  if 2 * r > d ∨ (2 * r = d ∧ q % 2 = 1) then q + 1 else q

/-- `n / (d · 2 ^ e)` as a ratio of natural numbers. -/
def scaled (n d : Nat) (e : Int) : Nat × Nat :=
  if 0 ≤ e then (n, d * Nat.pow 2 e.toNat) else (n * Nat.pow 2 (-e).toNat, d)

/-- The double nearest to `n / d`; infinity when `d` is zero. -/
def ofRatio (n d : Nat) : Binary64 :=
  if d = 0 then .infinite
  else if n = 0 then zero
  else
    -- `n / d` lies in `[2 ^ (ln - ld - 1), 2 ^ (ln - ld + 1))`
    let e0 : Int := (Nat.log2 n : Int) - (Nat.log2 d : Int) - 52
    let (a, b) := scaled n d e0
    let e1 := if a / b < Nat.pow 2 52 then e0 - 1 else e0
    let e := max e1 minExponent
    let (a, b) := scaled n d e
    let q := roundHalfEven a b
    let (q, e) := if q = Nat.pow 2 53 then (Nat.pow 2 52, e + 1) else (q, e)
    if maxExponent < e then .infinite else .finite q e

/-- The double nearest to a natural number. -/
def ofNat (n : Nat) : Binary64 := ofRatio n 1

/-- The exact value of a finite double as a ratio. -/
def ratio (mantissa : Nat) (exponent : Int) : Nat × Nat :=
  if 0 ≤ exponent then (mantissa * Nat.pow 2 exponent.toNat, 1)
  else (mantissa, Nat.pow 2 (-exponent).toNat)

/-- Whether the value is zero. -/
def isZero : Binary64 → Bool
  | .finite m _ => m == 0
  | .infinite => false

/-- Whether the value is infinite. -/
def isInfinite : Binary64 → Bool
  | .finite _ _ => false
  | .infinite => true

/-- The rounded product. -/
def mul : Binary64 → Binary64 → Binary64
  | .finite m e, .finite m' e' =>
    let (a, b) := ratio m e
    let (a', b') := ratio m' e'
    ofRatio (a * a') (b * b')
  | x, y => if x.isZero || y.isZero then zero else .infinite

/-- The rounded quotient; a finite value over infinity is zero. -/
def div : Binary64 → Binary64 → Binary64
  | .finite m e, .finite m' e' =>
    let (a, b) := ratio m e
    let (a', b') := ratio m' e'
    ofRatio (a * b') (b * a')
  | .finite _ _, .infinite => zero
  | .infinite, _ => .infinite

/-- The rounded sum. -/
def add : Binary64 → Binary64 → Binary64
  | .finite m e, .finite m' e' =>
    let (a, b) := ratio m e
    let (a', b') := ratio m' e'
    ofRatio (a * b' + a' * b) (b * b')
  | _, _ => .infinite

/-- Whether the first value is below the second. -/
def lt : Binary64 → Binary64 → Bool
  | .finite m e, .finite m' e' =>
    let (a, b) := ratio m e
    let (a', b') := ratio m' e'
    decide (a * b' < a' * b)
  | .finite _ _, .infinite => true
  | .infinite, _ => false

/-- The double nearest to `10 ^ k`. -/
def pow10 (k : Nat) : Binary64 := ofNat (Nat.pow 10 k)

theorem roundHalfEven_exact (q d : Nat) (h : 0 < d) : roundHalfEven (q * d) d = q := by
  unfold roundHalfEven
  rw [Nat.mul_mod_left, Nat.mul_div_cancel _ h]
  simp
  omega

theorem ofRatio_zero (d : Nat) (h : d ≠ 0) : ofRatio 0 d = zero := by
  simp [ofRatio, h]

end Binary64

end ThreadPlatform
