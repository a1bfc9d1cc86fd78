import HandlePool.Decimal.Shortest
/-!
# Writing a double

A double is written with its shortest digits (`Decimal.shortest`). Where the decimal point
falls decides the layout: a number whose point sits at most 16 places after its first digit,
and at most 4 places before it, is written positionally and always with a point (`50.0`,
`0.001`); any other is written as digits and a power of ten (`1.8446744073709552e+19`,
`5e-324`).
-/

namespace HandlePool.Decimal

/-- The choices of a number format. -/
structure Style where
  /-- Point positions (digits before the point) written positionally, from … -/
  positionalFrom : Int
  /-- … to. -/
  positionalTo : Int
  /-- Whether a positive power of ten carries a `+`. -/
  plusExponent : Bool

/-- The style of numbers in documents and diagnostics. -/
def Style.standard : Style := ⟨-4, 16, true⟩

/-- `n` zeros. -/
def zeros (n : Nat) : String := String.ofList (List.replicate n '0')

/-- Writes the positive decimal `d · 10^k` (`d` without trailing zeros) in a style. -/
def layout (st : Style) (d : Nat) (k : Int) : String :=
  let s := toString d
  let len : Int := s.length
  let point := len + k
  if 0 ≤ k ∧ point ≤ st.positionalTo then s ++ zeros k.toNat ++ ".0"
  else if 0 < point ∧ point ≤ st.positionalTo then
    String.ofList (s.toList.take point.toNat) ++ "." ++ String.ofList (s.toList.drop point.toNat)
  else if st.positionalFrom ≤ point ∧ point ≤ 0 then "0." ++ zeros (-point).toNat ++ s
  else
    let e := point - 1
    let exp := if e < 0 then "-" ++ toString e.natAbs
      else (if st.plusExponent then "+" else "") ++ toString e.natAbs
    let mant := match s.toList with
      | [c] => String.ofList [c]
      | c :: rest => String.ofList (c :: '.' :: rest)
      | [] => "0"
    mant ++ "e" ++ exp

/-- The text of a double in a style. -/
def Binary64.render (st : Style) (x : Binary64) : String :=
  let sign := if x.negative then "-" else ""
  if x.isSpecial then
    if x.fraction = 0 then sign ++ "inf" else "NaN"
  else if x.biasedExponent = 0 ∧ x.fraction = 0 then sign ++ "0.0"
  else
    let (d, k) := shortest x
    sign ++ layout st d k

/-- The text of a `Float` in the standard style. -/
def floatText (x : Float) : String := (Binary64.ofFloat x).render Style.standard

end HandlePool.Decimal
