import HandlePool.Decimal.Binary64
/-!
# Shortest decimal of a double

The decimal a double is written as: among the decimals that read back as the same double
(those strictly inside the rounding interval, or on its ends when the significand is even),
one with the fewest significant digits, and of those the nearest to the double; an exact tie
goes to the even digit string.

The search walks the grids of 1, 2, … 17 significant digits. On each grid only the two
neighbours of the value can be the answer: if any point of the grid lies in the interval,
which is convex and holds the value, so does one of them. The first grid with a neighbour
inside wins.
-/

namespace HandlePool.Decimal

/-- Number of decimal digits of `n` (one for zero). -/
def decimalLength (n : Nat) : Nat := (toString n).length

/-- Compares `a · 10^k` with `b · 2^e`. -/
def compareScaled (a : Nat) (k : Int) (b : Nat) (e : Int) : Ordering :=
  compare (a * Nat.pow 10 k.toNat * Nat.pow 2 (-e).toNat) (b * Nat.pow 2 e.toNat * Nat.pow 10 (-k).toNat)

/-- A finite positive double `m · 2^q` with the bounds of its rounding interval, in units of
`2^(q - 2)`: the value is `4m`, the upper end `4m + 2`, the lower end `4m - 2` (or `4m - 1`
when the gap below is halved); the ends belong to it when `m` is even. -/
structure Interval where
  m : Nat
  q : Int
  lowerHalved : Bool

namespace Interval

/-- Lower end, in units of `2^(q - 2)`. -/
def low (i : Interval) : Nat := if i.lowerHalved then 4 * i.m - 1 else 4 * i.m - 2

/-- Upper end, in units of `2^(q - 2)`. -/
def high (i : Interval) : Nat := 4 * i.m + 2

/-- Whether the ends belong to the interval. -/
def closed (i : Interval) : Bool := i.m % 2 = 0

/-- Whether `d · 10^k` reads back as the double. -/
def holds (i : Interval) (d : Nat) (k : Int) : Bool :=
  let lo := compareScaled d k i.low (i.q - 2)
  let hi := compareScaled d k i.high (i.q - 2)
  if i.closed then lo != .lt && hi != .gt else lo == .gt && hi == .lt

/-- The value as a fraction `num / den`. -/
def fraction (i : Interval) : Nat × Nat := (i.m * Nat.pow 2 i.q.toNat, Nat.pow 2 (-i.q).toNat)

/-- The exponent `e` with `10^e ≤ value < 10^(e+1)`. -/
def decimalExponent (i : Interval) : Int :=
  let (n, d) := i.fraction
  let t : Int := (decimalLength n : Int) - (decimalLength d : Int)
  if n * Nat.pow 10 (-t).toNat ≥ d * Nat.pow 10 t.toNat then t else t - 1

/-- The answer on the grid `10^k`, if one of the value's two neighbours there reads back. -/
def onGrid (i : Interval) (k : Int) : Option Nat :=
  let (n, d) := i.fraction
  let num := n * Nat.pow 10 (-k).toNat
  let den := d * Nat.pow 10 k.toNat
  let below := num / den
  let above := below + 1
  if num % den = 0 then some below
  else
    match i.holds below k, i.holds above k with
    | true, true =>
      let dBelow := num - below * den
      let dAbove := above * den - num
      if dBelow < dAbove then some below
      else if dAbove < dBelow then some above
      else if below % 2 = 0 then some below else some above
    | true, false => some below
    | false, true => some above
    | false, false => none

/-- Tries the grids of `n, n + 1, …` significant digits, `fuel` of them. -/
def search (i : Interval) (e : Int) (n : Nat) : Nat → Nat × Int
  | 0 => (i.m, i.q)
  | fuel + 1 =>
    let k := e + 1 - n
    match i.onGrid k with
    | some d => (d, k)
    | none => search i e (n + 1) fuel

end Interval

/-- Removes trailing zeros from `d · 10^k`, keeping its value. -/
def stripZeros (d : Nat) (k : Int) : Nat × Int :=
  if d ≠ 0 ∧ d % 10 = 0 then stripZeros (d / 10) (k + 1) else (d, k)
termination_by d
decreasing_by omega

/-- The shortest decimal `d · 10^k` of a finite positive double, `d` without trailing zeros. -/
def shortest (x : Binary64) : Nat × Int :=
  let i : Interval := ⟨x.significand, x.exponent, x.lowerGapHalved⟩
  let r := i.search i.decimalExponent 1 17
  stripZeros r.1 r.2

end HandlePool.Decimal
