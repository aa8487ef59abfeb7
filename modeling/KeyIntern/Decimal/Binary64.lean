/-! # Binary64 numbers in exact arithmetic

A finite binary64 magnitude is `mantissa · 2^exponent` with a mantissa below `2^53` and an
exponent from `-1074` to `971`; a mantissa of at least `2^52` is normal, a smaller one is
subnormal and has the exponent `-1074`. Every operation here is exact rational arithmetic on
natural numbers followed by one rounding to the nearest magnitude, a tie going to the even
mantissa, and a magnitude past the largest finite one is infinite. This is the rounding of the
hardware, so products and quotients come out bit for bit as a machine computes them, without
any floating-point operation.

Main statement: `roundRatio_zero`, zero stays zero.
-/

namespace KeyIntern.Decimal

/-- A binary64 magnitude: `mantissa · 2^exponent`, or infinity. -/
inductive Magnitude where
  | finite (mantissa : Nat) (exponent : Int)
  | infinite
  deriving DecidableEq, Repr

/-- A binary64 number: a sign and a magnitude. -/
structure Binary64 where
  negative : Bool
  magnitude : Magnitude
  deriving DecidableEq, Repr

/-- `⌊log₂ (num / den)⌋` for positive `num` and `den`: the quotient of the leading powers of two
is off by at most one. -/
def log2Ratio (num den : Nat) : Int :=
  let d : Int := (Nat.log2 num : Int) - Nat.log2 den
  if 0 ≤ d then (if num < den * Nat.pow 2 d.toNat then d - 1 else d)
  else (if num * Nat.pow 2 (-d).toNat < den then d - 1 else d)

/-- The weight of the last mantissa bit kept for a value in `[2^l, 2^(l+1))`: 53 bits, and
never a weight below `2^-1074`. -/
def lastBitExponent (l : Int) : Int :=
  max (l - 52) (-1074)

/-- The magnitude nearest to `(num / den) · 2^shift`, a tie going to the even mantissa; past the
largest finite magnitude the result is infinite. -/
def roundRatio (num den : Nat) (shift : Int) : Magnitude :=
  if num = 0 ∨ den = 0 then .finite 0 (-1074)
  else
    let e := lastBitExponent (log2Ratio num den + shift)
    let k := shift - e
    let n := if 0 ≤ k then num * Nat.pow 2 k.toNat else num
    let d := if 0 ≤ k then den else den * Nat.pow 2 (-k).toNat
    let q := n / d
    let r := n % d
    let q := if d < 2 * r ∨ (2 * r = d ∧ q % 2 = 1) then q + 1 else q
    let (q, e) := if q = Nat.pow 2 53 then (Nat.pow 2 52, e + 1) else (q, e)
    if 971 < e then .infinite else .finite q e

namespace Magnitude

/-- The magnitude of a natural number. -/
def ofNat (n : Nat) : Magnitude :=
  roundRatio n 1 0

/-- Whether the magnitude is zero. -/
def isZero : Magnitude → Bool
  | .finite m _ => m == 0
  | .infinite => false

/-- Whether the magnitude is infinite. -/
def isInfinite : Magnitude → Bool
  | .finite _ _ => false
  | .infinite => true

/-- The rounded product. -/
def mul : Magnitude → Magnitude → Magnitude
  | .finite a e, .finite b f => roundRatio (a * b) 1 (e + f)
  | _, _ => .infinite

/-- The rounded quotient; a finite magnitude divided by infinity is zero. -/
def div : Magnitude → Magnitude → Magnitude
  | .finite a e, .finite b f => if b = 0 then .infinite else roundRatio a b (e - f)
  | .finite _ _, .infinite => .finite 0 (-1074)
  | .infinite, _ => .infinite

/-- The rounded sum. -/
def add : Magnitude → Magnitude → Magnitude
  | .finite a e, .finite b f =>
    let g := min e f
    roundRatio (a * Nat.pow 2 (e - g).toNat + b * Nat.pow 2 (f - g).toNat) 1 g
  | _, _ => .infinite

/-- Whether the first magnitude is below the second. -/
def lt : Magnitude → Magnitude → Bool
  | .finite a e, .finite b f =>
    let g := min e f
    decide (a * Nat.pow 2 (e - g).toNat < b * Nat.pow 2 (f - g).toNat)
  | .finite _ _, .infinite => true
  | .infinite, _ => false

/-- The magnitude nearest to `10^k`. -/
def pow10 (k : Nat) : Magnitude :=
  roundRatio (Nat.pow 10 k) 1 0

end Magnitude

theorem roundRatio_zero (den : Nat) (shift : Int) : roundRatio 0 den shift = .finite 0 (-1074) := by
  simp [roundRatio]

example : Magnitude.ofNat 9007199254740993 = .finite 4503599627370496 1 := by decide +kernel
example : (Magnitude.ofNat 1).div (Magnitude.ofNat 10) = .finite 7205759403792794 (-56) := by
  decide +kernel
example : ((Magnitude.ofNat 1).div (Magnitude.ofNat 10)).add ((Magnitude.ofNat 2).div (Magnitude.ofNat 10)) =
    .finite 5404319552844596 (-54) := by
  decide +kernel

end KeyIntern.Decimal
