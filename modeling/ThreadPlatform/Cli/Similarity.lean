import ThreadPlatform.Binary64.Basic

/-!
# Jaro similarity

The Jaro similarity of two words compares their characters: a character of one
matches an equal, not yet matched character of the other at most
`max(|a|, |b|) / 2 - 1` places away, each matched character of the second word
taken by the first character that reaches it. With `m` matches, of which `t`
pairs appear in swapped order (half the matched positions whose characters
differ, rounded down), the similarity is

  `(m / |a| + m / |b| + (m - t) / m) / 3`,

and zero without matches. The score is computed in doubles, each quotient and
sum rounded as the hardware rounds it, in that order; a candidate counts as
similar when its score is above the double nearest to `0.7`. Rounding decides
cases on the border: `(3/5 + 3/6 + 1) / 3` comes out just above it.
-/

namespace ThreadPlatform.Cli

/-- A similarity, as a double. -/
abbrev Score := Binary64

namespace Score

/-- Whether `x` is at least as high as `y`. -/
def atLeast (x y : Score) : Bool := !x.lt y

/-- Whether the score is above seven tenths. -/
def aboveSevenTenths (x : Score) : Bool := (Binary64.ofRatio 7 10).lt x

end Score

/-- The first unmatched position of `b` in `[lo, hi)` holding `c`. -/
def findMatch (b : List Char) (taken : List Bool) (c : Char) (lo hi : Nat) : Option Nat :=
  (List.range hi).find? fun j => decide (lo ≤ j) && b[j]? == some c && !(taken[j]?.getD true)

/-- Matches of `a` in `b`: which characters of each word found a partner. -/
def matchMarks (a b : List Char) : List Bool × List Bool :=
  let range := max a.length b.length / 2 - 1
  let step (acc : List Bool × List Bool) (ic : Nat × Char) : List Bool × List Bool :=
    let (i, c) := ic
    match findMatch b acc.2 c (i - range) (min b.length (i + range + 1)) with
    | some j => (acc.1 ++ [true], acc.2.set j true)
    | none => (acc.1 ++ [false], acc.2)
  (a.zipIdx.map (fun (c, i) => (i, c))).foldl step ([], List.replicate b.length false)

/-- The characters of a word that found a partner, in order. -/
def matched (w : List Char) (marks : List Bool) : List Char :=
  (w.zip marks).filterMap fun (c, m) => if m then some c else none

/-- The Jaro similarity of two words. -/
def jaro (a b : String) : Score :=
  let a := a.toList
  let b := b.toList
  if a.isEmpty && b.isEmpty then Binary64.ofNat 1
  else if a.isEmpty || b.isEmpty then Binary64.zero
  else
    let (ma, mb) := matchMarks a b
    let xs := matched a ma
    let ys := matched b mb
    let m := xs.length
    if m = 0 then Binary64.zero
    else
      let t := ((xs.zip ys).filter fun (x, y) => x != y).length / 2
      let sum := ((Binary64.ofRatio m a.length).add (Binary64.ofRatio m b.length)).add
        (Binary64.ofRatio (m - t) m)
      sum.div (Binary64.ofNat 3)

/-- The candidate most like `word`, if one is more than seven tenths alike; of
equally alike ones the last. -/
def mostSimilar (word : String) (candidates : List String) : Option String :=
  (candidates.foldl (fun (best : Option (Score × String)) c =>
    let s := jaro word c
    if !s.aboveSevenTenths then best
    else
      match best with
      | some (b, _) => if s.atLeast b then some (s, c) else best
      | none => some (s, c)) none).map (·.2)

end ThreadPlatform.Cli
