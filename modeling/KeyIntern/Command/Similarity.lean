import KeyIntern.Decimal.Binary64

/-! # Similar names

When a command line names something that does not exist, the names that do exist are offered
if they are close enough to it. Closeness is the Jaro similarity of the two character
sequences, computed in binary64 as a machine computes it, and a name is close enough when its
similarity is above `0.7`, itself the binary64 value nearest to seven tenths.

Two characters match when they are equal and at most `max(|a|, |b|) / 2 - 1` positions apart,
each character of `b` matching at most one of `a`, the first unmatched one in the window. With
`m` matches and `t` half the number of matched pairs out of order, the similarity is
`(m/|a| + m/|b| + (m-t)/m) / 3`, each quotient and sum rounded as it is computed.

Main statement: `mismatches_self`, a sequence is never out of order with itself.
-/

namespace KeyIntern.Command

open Decimal

/-- Which positions of `b` the characters of `a` match, in the order of `a`: each entry is the
position matched by that character of `a`, if any. -/
def matchPositions (a b : List Char) : List (Option Nat) :=
  let window := max a.length b.length / 2 - 1
  let step (acc : List (Option Nat) × List Nat) (ic : Nat × Char) :=
    let (i, c) := ic
    let lo := i - window
    let hi := min b.length (i + window + 1)
    let found := (List.range' lo (hi - lo)).find? fun j => b[j]? = some c ∧ j ∉ acc.2
    match found with
    | some j => (acc.1 ++ [some j], j :: acc.2)
    | none => (acc.1 ++ [none], acc.2)
  ((a.zipIdx.map fun (c, i) => (i, c)).foldl step ([], [])).1

/-- The number of positions at which two sequences differ, over the shorter. -/
def mismatches : List Char → List Char → Nat
  | x :: xs, y :: ys => (if x = y then 0 else 1) + mismatches xs ys
  | _, _ => 0

/-- The Jaro similarity of two names, in binary64. -/
def similarity (a b : String) : Magnitude :=
  let a := a.toList
  let b := b.toList
  if a.isEmpty ∧ b.isEmpty then Magnitude.ofNat 1
  else if a.isEmpty ∨ b.isEmpty then Magnitude.ofNat 0
  else
    let positions := matchPositions a b
    let used := positions.filterMap id
    let m := used.length
    if m = 0 then Magnitude.ofNat 0
    else
      -- the matched characters of `a` in its order, against those of `b` in its order
      let fromA := (a.zip positions).filterMap fun (c, p) => p.map fun _ => c
      let fromB := (b.zipIdx.filter fun (_, j) => j ∈ used).map (·.1)
      let t := mismatches fromA fromB / 2
      let sum := ((Magnitude.ofNat m).div (Magnitude.ofNat a.length)).add
        ((Magnitude.ofNat m).div (Magnitude.ofNat b.length)) |>.add
        ((Magnitude.ofNat (m - t)).div (Magnitude.ofNat m))
      sum.div (Magnitude.ofNat 3)

/-- The similarity a name must exceed to be offered. -/
def threshold : Magnitude :=
  (Magnitude.ofNat 7).div (Magnitude.ofNat 10)

/-- The names close enough to `v`, from the least to the most similar, names equally similar
keeping their order. -/
def similarNames (v : String) (names : List String) : List String :=
  let scored := (names.map fun n => (similarity v n, n)).filter fun (s, _) => threshold.lt s
  (scored.mergeSort fun x y => !(y.1.lt x.1)).map (·.2)

/-- The name most similar to `v` among those close enough, the later one of equals. -/
def closestName (v : String) (names : List String) : Option String :=
  (similarNames v names).getLast?

theorem mismatches_self (xs : List Char) : mismatches xs xs = 0 := by
  induction xs with
  | nil => rfl
  | cons x xs ih => simp [mismatches, ih]

example : similarity "jsn" "json" = .finite 8256599316845909 (-53) := by decide +kernel
example : closestName "jsn" ["root", "ignore", "additional-module", "json", "help"] = some "json" := by
  decide +kernel
example : closestName "bogus" ["root", "ignore", "additional-module", "json", "help"] = none := by
  decide +kernel

end KeyIntern.Command
