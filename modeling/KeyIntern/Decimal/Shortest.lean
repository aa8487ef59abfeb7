import KeyIntern.Decimal.Binary64

/-! # Shortest decimal text of a binary64 number

The decimal written for a finite magnitude `m · 2^e` is the one with the fewest significant
digits that still rounds back to it, and of those the nearest to it, an exact tie going to the
even digit string. A decimal rounds back when it lies in the magnitude's rounding interval: the
reals closer to it than to either neighbour, ends included when the mantissa is even (a tie
rounds to the even mantissa). The interval is symmetric, except at a power of two above the
subnormals, where the neighbour below is twice as close.

The search looks at the grids of 1, 2, …, 17 significant digits in turn. On each grid only the
two grid points around the value can lie in the interval, since the interval holds the value and
is connected; the first grid with a point in it gives the digits.

The text then follows one layout: positional with a `.0` when the decimal point falls within
sixteen digits of the front (`1234.5`, `100.0`, `0.00012`), and otherwise one digit, a point and
the rest, then `e` and the signed exponent (`1e+100`, `1.5e-7`).

Main statements: `shortestText` on the examples at the end of the module.
-/

namespace KeyIntern.Decimal

/-- The number of decimal digits of a positive number. -/
def digitCount (n : Nat) : Nat :=
  (Nat.toDigits 10 n).length

/-- `⌊log₁₀ (m · 2^e)⌋` for a positive `m`. -/
def decimalExponent (m : Nat) (e : Int) : Int :=
  if 0 ≤ e then (digitCount (m * Nat.pow 2 e.toNat) : Int) - 1
  else
    let den := Nat.pow 2 (-e).toNat
    if den ≤ m then (digitCount (m / den) : Int) - 1
    else
      -- the least `j` with `m · 10^j ≥ den`
      let t := (den + m - 1) / m
      Int.neg (digitCount (t - 1))

/-- The rounding interval of `m · 2^e` in units of `2^(e-2)`: the value is `4m`, the upper end
`4m + 2`, and the lower end `4m - 2`, or `4m - 1` at a power of two above the subnormals. -/
def lowerGap (m : Nat) (e : Int) : Nat :=
  if m = Nat.pow 2 52 ∧ -1074 < e then 1 else 2

/-- The digits of the point of the grid `10^s` that stands for `m · 2^e`, when one of the two grid
points around it lies in its rounding interval: the nearer one if both do, the even one on a
tie. -/
def gridHit (m : Nat) (e s : Int) : Option Nat :=
  let a := (2 - e).toNat
  let b := (-s).toNat
  -- every quantity is scaled by `2^a · 10^b` to make it a natural number
  let unit := Nat.pow 2 a * Nat.pow 10 (s + b).toNat
  let scale := Nat.pow 2 (e - 2 + a).toNat * Nat.pow 10 b
  let v := 4 * m * scale
  let hi := (4 * m + 2) * scale
  let lo := (4 * m - lowerGap m e) * scale
  let inclusive := m % 2 == 0
  let inside (d : Nat) : Bool :=
    if inclusive then lo ≤ d * unit && d * unit ≤ hi else lo < d * unit && d * unit < hi
  let d0 := v / unit
  let d1 := if v % unit = 0 then d0 else d0 + 1
  match inside d0, inside d1 with
  | true, true =>
    if v - d0 * unit < d1 * unit - v then some d0
    else if d1 * unit - v < v - d0 * unit then some d1
    else if d0 % 2 = 0 then some d0 else some d1
  | true, false => some d0
  | false, true => some d1
  | false, false => none

/-- Drops the trailing zeros of `d · 10^s`, raising the exponent. -/
def dropTrailingZeros : Nat → Nat → Int → Nat × Int
  | 0, d, s => (d, s)
  | fuel + 1, d, s =>
    if d ≠ 0 ∧ d % 10 = 0 then dropTrailingZeros fuel (d / 10) (s + 1) else (d, s)

/-- The first grid of `n`, `n + 1`, … up to 17 significant digits with a hit, as digits and the
exponent of their last place. -/
def firstHit (m : Nat) (e e10 : Int) : Nat → Nat → Option (Nat × Int)
  | 0, _ => none
  | fuel + 1, n =>
    let s := e10 + 1 - n
    match gridHit m e s with
    | some d => some (dropTrailingZeros (digitCount d) d s)
    | none => firstHit m e e10 fuel (n + 1)

/-- The shortest decimal `digits · 10^exponent` that rounds back to the positive `m · 2^e`. -/
def shortest (m : Nat) (e : Int) : Nat × Int :=
  match firstHit m e (decimalExponent m e) 17 1 with
  | some r => r
  | none => (m, 0)

/-- The text of an exponent, always signed. -/
def exponentText (x : Int) : String :=
  if x < 0 then "-" ++ toString x.natAbs else "+" ++ toString x.natAbs

/-- The layout of the decimal `digits · 10^k` with the given digit string. -/
def layout (ds : List Char) (k : Int) : String :=
  let len : Int := ds.length
  let kk := len + k
  if 0 ≤ k ∧ kk ≤ 16 then
    String.ofList ds ++ String.ofList (List.replicate k.toNat '0') ++ ".0"
  else if 0 < kk ∧ kk ≤ 16 then
    String.ofList (ds.take kk.toNat) ++ "." ++ String.ofList (ds.drop kk.toNat)
  else if -5 < kk ∧ kk ≤ 0 then
    "0." ++ String.ofList (List.replicate (-kk).toNat '0') ++ String.ofList ds
  else if ds.length = 1 then
    String.ofList ds ++ "e" ++ exponentText (kk - 1)
  else
    String.ofList (ds.take 1) ++ "." ++ String.ofList (ds.drop 1) ++ "e" ++ exponentText (kk - 1)

/-- The shortest text of a binary64 number. -/
def shortestText (x : Binary64) : String :=
  let sign := if x.negative then "-" else ""
  match x.magnitude with
  | .infinite => sign ++ "inf"
  | .finite 0 _ => sign ++ "0.0"
  | .finite m e =>
    let (d, k) := shortest m e
    sign ++ layout (Nat.toDigits 10 d) k

example : shortestText ⟨false, Magnitude.ofNat 1⟩ = "1.0" := by decide +kernel
example : shortestText ⟨false, (Magnitude.ofNat 1).div (Magnitude.ofNat 10)⟩ = "0.1" := by
  decide +kernel
example : shortestText ⟨true, .finite 0 (-1074)⟩ = "-0.0" := by decide +kernel
example : shortestText ⟨false, .finite 1 (-1074)⟩ = "5e-324" := by decide +kernel

end KeyIntern.Decimal
