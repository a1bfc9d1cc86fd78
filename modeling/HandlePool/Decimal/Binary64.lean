/-!
# Binary64 numbers

A double-precision number is a sign, an 11-bit biased exponent and a 52-bit fraction. This
module reads those fields from a `Float`'s bits, gives a finite nonzero value as `m · 2^q`,
and builds the double nearest to a positive fraction `n / d` (ties to an even significand),
which is how a decimal numeral is read.
-/

namespace HandlePool.Decimal

/-- The three fields of a double. -/
structure Binary64 where
  negative : Bool
  biasedExponent : Nat
  fraction : Nat
deriving DecidableEq, Repr

namespace Binary64

/-- The fields of a `Float`. -/
def ofFloat (x : Float) : Binary64 :=
  let b := x.toBits.toNat
  ⟨b / Nat.pow 2 63 % 2 = 1, b / Nat.pow 2 52 % Nat.pow 2 11, b % Nat.pow 2 52⟩

/-- The `Float` with these fields. -/
def toFloat (x : Binary64) : Float :=
  Float.ofBits (UInt64.ofNat
    ((if x.negative then Nat.pow 2 63 else 0) + x.biasedExponent * Nat.pow 2 52 + x.fraction))

/-- Whether the number is infinite or not a number. -/
def isSpecial (x : Binary64) : Bool := x.biasedExponent = 2047

/-- The significand `m` of a finite number whose magnitude is `m · 2^q`. -/
def significand (x : Binary64) : Nat :=
  if x.biasedExponent = 0 then x.fraction else x.fraction + Nat.pow 2 52

/-- The binary exponent `q` of a finite number whose magnitude is `m · 2^q`. -/
def exponent (x : Binary64) : Int :=
  if x.biasedExponent = 0 then -1074 else (x.biasedExponent : Int) - 1075

/-- Whether the gap to the next smaller magnitude is half the gap to the next larger one:
the significand is the smallest normal one and a smaller exponent exists. -/
def lowerGapHalved (x : Binary64) : Bool := x.fraction = 0 && x.biasedExponent > 1

/-- The quotient of `n` by `d`, rounded to the nearest integer, ties to even. -/
def roundHalfEven (n d : Nat) : Nat :=
  let q := n / d
  let r := n % d
  if 2 * r < d then q else if 2 * r > d then q + 1 else if q % 2 = 0 then q else q + 1

/-- The magnitude `n / d · 2^(-e)` as a fraction of naturals. -/
def scaled (n d : Nat) (e : Int) : Nat × Nat :=
  if 0 ≤ e then (n, d * Nat.pow 2 e.toNat) else (n * Nat.pow 2 (-e).toNat, d)

/-- Number of binary digits of `n`. -/
def bitLength (n : Nat) : Nat := if n = 0 then 0 else Nat.log2 n + 1

/-- The double nearest to the positive fraction `n / d`, ties to an even significand;
magnitudes too large for a double become infinity. -/
def nearest (n d : Nat) : Binary64 :=
  if n = 0 || d = 0 then ⟨false, 0, 0⟩ else
  -- pick `e` with 2^52 ≤ n / (d · 2^e) < 2^53, then correct the estimate by one
  let e0 : Int := (bitLength n : Int) - (bitLength d : Int) - 53
  let e1 : Int :=
    let p := scaled n d e0
    if p.1 ≥ Nat.pow 2 53 * p.2 then e0 + 1 else if p.1 < Nat.pow 2 52 * p.2 then e0 - 1 else e0
  let e2 : Int := if e1 < -1074 then -1074 else e1
  let p := scaled n d e2
  let m := roundHalfEven p.1 p.2
  let (m, e) := if m = Nat.pow 2 53 then (Nat.pow 2 52, e2 + 1) else (m, e2)
  if e + 1075 > 2046 then ⟨false, 2047, 0⟩
  else if m < Nat.pow 2 52 then ⟨false, 0, m⟩
  else ⟨false, (e + 1075).toNat, m - Nat.pow 2 52⟩

/-- The double nearest to the natural number `n`. -/
def ofNat (n : Nat) : Binary64 := nearest n 1

/-- Whether the number is an infinity. -/
def isInfinite (x : Binary64) : Bool := x.biasedExponent = 2047 && x.fraction = 0

/-- Whether the number is a zero of either sign. -/
def isZero (x : Binary64) : Bool := x.biasedExponent = 0 && x.fraction = 0

/-- The number with the opposite sign. -/
def neg (x : Binary64) : Binary64 := { x with negative := !x.negative }

/-- The magnitude of a finite number as a fraction of naturals. -/
def magnitude (x : Binary64) : Nat × Nat :=
  if 0 ≤ x.exponent then (x.significand * Nat.pow 2 x.exponent.toNat, 1)
  else (x.significand, Nat.pow 2 (-x.exponent).toNat)

/-- The product of two finite numbers, rounded to nearest. -/
def mul (x y : Binary64) : Binary64 :=
  let (a, b) := x.magnitude
  let (c, d) := y.magnitude
  { nearest (a * c) (b * d) with negative := x.negative != y.negative }

/-- The quotient of a finite number by a finite nonzero one, rounded to nearest. -/
def div (x y : Binary64) : Binary64 :=
  let (a, b) := x.magnitude
  let (c, d) := y.magnitude
  { nearest (a * d) (b * c) with negative := x.negative != y.negative }

/-- The double nearest to `10 ^ k`. -/
def powTen (k : Nat) : Binary64 := nearest (Nat.pow 10 k) 1

end Binary64

end HandlePool.Decimal
