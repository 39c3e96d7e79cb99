import ThreadPlatform.Binary64.Basic

/-!
# Shortest decimal text of a double

Every real number strictly between a double and its neighbours' midpoints reads
back as that double; the midpoints themselves read back as it exactly when its
mantissa is even. `shortest` finds the coarsest power of ten `10 ^ k` with a
multiple in that interval and, of those multiples, takes the one nearest to the
double, a tie going to the even one. It has the fewest significant digits of
all decimals that read back, and of those it is the nearest.

`text` writes such a decimal `c · 10 ^ k` with `n` digits, `kk = n + k`:

* plain digits and `.0` when `k ≥ 0` and `kk ≤ 16`;
* digits split by the point when `0 < kk ≤ 16`;
* `0.` and zeros when `-5 < kk ≤ 0`;
* otherwise scientific notation, the exponent signed (`1e+16`, `1.5e-7`).

Zero is `0.0`; infinity, which no reader produces, is `inf`.
-/

namespace ThreadPlatform.Binary64

/-- The number of decimal digits of `n`, at least one. -/
def decimalLength (n : Nat) : Nat := (Nat.toDigits 10 n).length

/-- The rounding interval of the finite double `m · 2 ^ e`, `m > 0`, scaled by
`2 ^ s` to whole numbers: its value, lower end and upper end, with `s`. -/
def interval (m : Nat) (e : Int) : Nat × Nat × Nat × Nat :=
  let s : Nat := if 2 ≤ e then 0 else (2 - e).toNat
  let v := m * Nat.pow 2 (e + s).toNat
  let up := Nat.pow 2 (e - 1 + s).toNat
  -- below a power of two the gap to the lower neighbour is half as wide
  let down := if m = Nat.pow 2 52 ∧ minExponent < e then Nat.pow 2 (e - 2 + s).toNat else up
  (v, v - down, v + up, s)

/-- The multiples `c` of `10 ^ k` in the interval `[lo, hi] / 2 ^ s` (ends
included when `closed`), as the least and the largest `c`. -/
def multiples (lo hi s : Nat) (closed : Bool) (k : Int) : Nat × Nat :=
  let p := Nat.pow 10 (-k).toNat
  let g := Nat.pow 2 s * Nat.pow 10 k.toNat
  let a := lo * p
  let b := hi * p
  let least := if closed then (a + g - 1) / g else a / g + 1
  let most := if closed then b / g else (b - 1) / g
  (least, most)

/-- The decimal digits and power of ten of the double `m · 2 ^ e`, `m > 0`,
searching from `10 ^ k` down with `fuel` steps. -/
def search (m : Nat) (e : Int) (k : Int) : Nat → Nat × Int
  | 0 => (m, e)
  | fuel + 1 =>
    let (v, lo, hi, s) := interval m e
    let (least, most) := multiples lo hi s (m % 2 = 0) k
    if least ≤ most then
      let near := roundHalfEven (v * Nat.pow 10 (-k).toNat) (Nat.pow 2 s * Nat.pow 10 k.toNat)
      (max least (min most near), k)
    else search m e (k - 1) fuel

/-- The shortest decimal `c · 10 ^ k` that reads back as the finite double
`m · 2 ^ e`, `m > 0`, the nearest of them. -/
def shortest (m : Nat) (e : Int) : Nat × Int :=
  let (_, _, hi, s) := interval m e
  -- `10 ^ top` exceeds the upper end of the interval
  let top : Int := (decimalLength (hi * Nat.pow 10 340 / Nat.pow 2 s) : Int) - 340
  search m e top 40

/-- Writes `c · 10 ^ k` in the format of the module header. -/
def decimalText (c : Nat) (k : Int) : String :=
  let ds := Nat.toDigits 10 c
  let n : Int := ds.length
  let kk := n + k
  if 0 ≤ k ∧ kk ≤ 16 then String.ofList (ds ++ List.replicate k.toNat '0') ++ ".0"
  else if 0 < kk ∧ kk ≤ 16 then
    String.ofList (ds.take kk.toNat) ++ "." ++ String.ofList (ds.drop kk.toNat)
  else if -5 < kk ∧ kk ≤ 0 then "0." ++ String.ofList (List.replicate (-kk).toNat '0' ++ ds)
  else
    let x := kk - 1
    let mant := match ds with
      | [d] => String.singleton d
      | d :: rest => String.singleton d ++ "." ++ String.ofList rest
      | [] => "0"
    let sign := if x < 0 then "-" else "+"
    mant ++ "e" ++ sign ++ toString x.natAbs

/-- The text of a signed double. -/
def text (negative : Bool) (x : Binary64) : String :=
  let sign := if negative then "-" else ""
  match x with
  | .infinite => sign ++ "inf"
  | .finite m e =>
    if m = 0 then sign ++ "0.0"
    else
      let (c, k) := shortest m e
      sign ++ decimalText c k

end ThreadPlatform.Binary64
