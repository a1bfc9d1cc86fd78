import HandlePool.Json.Failure
/-!
# Numbers in JSON documents

A number is read as an unsigned 64-bit integer when it has no fraction, exponent or sign and
fits; as a signed one when it is negative and fits; and otherwise as a double. The double is
computed the fast way rather than correctly rounded: the significand (at most 64 bits; further
digits only move the exponent) is converted to a double and multiplied or divided by the double
nearest to the power of ten, with a division by `1e308` first while the exponent is below the
table. A result that overflows is a failure, not an infinity.

Skipping a number checks the same syntax without computing a value.
-/

namespace HandlePool.Json

open Decimal

/-- A number as read: unsigned, signed (negative), or a double. -/
inductive Number where
  | unsigned (n : Nat)
  | signed (i : Int)
  | float (x : Binary64)
  deriving Repr

/-- What the number is, named for a message. -/
def Number.found : Number → Found
  | .unsigned n => .unsigned n
  | .signed i => .signed i
  | .float x => .float x

/-- The largest unsigned 64-bit integer. -/
def wordMax : Nat := Nat.pow 2 64 - 1

/-- The largest signed 32-bit integer, the bound of an exponent. -/
def exponentMax : Int := Nat.pow 2 31 - 1

/-- Clamps to the signed 32-bit range. -/
def clampExponent (e : Int) : Int := max (-(Nat.pow 2 31)) (min exponentMax e)

/-- The digit a byte stands for. -/
def digitValue (b : UInt8) : Nat := b.toNat - 48

/-- Divides by `1e308` while the exponent is below the table of powers of ten. -/
def scaleDown (f : Binary64) (e : Int) : Binary64 × Int :=
  if e < -308 ∧ !f.isZero then scaleDown (f.div (Binary64.powTen 308)) (e + 308) else (f, e)
termination_by (-e).toNat
decreasing_by omega

/-- The double `significand · 10 ^ e`, computed the fast way; `none` if it overflows. -/
def fromParts (significand : Nat) (e : Int) : Option Binary64 :=
  let f := Binary64.ofNat significand
  if e > 308 then (if f.isZero then some f else none)
  else
    let (f, e) := scaleDown f e
    if f.isZero ∧ e < -308 then some f
    else if 0 ≤ e then
      let g := f.mul (Binary64.powTen e.toNat)
      if g.isInfinite then none else some g
    else some (f.div (Binary64.powTen (-e).toNat))

/-- The double read, with its sign, or a failure at `rest` if it overflows. -/
def finish (positive : Bool) (significand : Nat) (e : Int) (rest : List UInt8) : Step Number :=
  match fromParts significand e with
  | some f => .ok (.float (if positive then f else f.neg), rest)
  | none => .error (.at .numberOutOfRange rest)

/-- The digits of an exponent after the first; `value` so far. -/
def exponentDigits (positive : Bool) (significand : Nat) (start : Int) (up : Bool)
    (value : Int) : List UInt8 → Step Number
  | d :: rest =>
    if isDigit d then
      let v := value * 10 + digitValue d
      if v > exponentMax then
        if significand ≠ 0 ∧ up then .error (.at .numberOutOfRange rest)
        else
          let rest := rest.dropWhile isDigit
          .ok (.float (if positive then ⟨false, 0, 0⟩ else ⟨true, 0, 0⟩), rest)
      else exponentDigits positive significand start up v rest
    else finish positive significand (clampExponent (if up then start + value else start - value)) (d :: rest)
  | [] => finish positive significand (clampExponent (if up then start + value else start - value)) []

/-- An exponent, from its `e`. -/
def exponentPart (positive : Bool) (significand : Nat) (start : Int) (cs : List UInt8) :
    Step Number :=
  let cs := cs.drop 1
  let (up, cs) := match cs with
    | 43 :: r => (true, r)
    | 45 :: r => (false, r)
    | _ => (true, cs)
  match cs with
  | [] => .error (.at .eofWhileParsingValue [])
  | c :: rest =>
    if isDigit c then exponentDigits positive significand start up (digitValue c) rest
    else .error (.at .invalidNumber rest)

/-- Whether a byte begins an exponent. -/
def isExponentMark (b : UInt8) : Bool := b == 101 || b == 69

/-- After the significand has used all 64 bits: further digits are dropped. -/
def afterOverflow (positive : Bool) (significand : Nat) (e : Int) (cs : List UInt8) :
    Step Number :=
  let cs := cs.dropWhile isDigit
  match cs with
  | b :: _ => if isExponentMark b then exponentPart positive significand e cs
    else finish positive significand e cs
  | [] => finish positive significand e cs

/-- The digits after the decimal point; `places` of them so far. -/
def fractionDigits (positive : Bool) (significand : Nat) (before : Int) (places : Nat) :
    List UInt8 → Step Number
  | d :: rest =>
    if isDigit d then
      let v := significand * 10 + digitValue d
      if v > wordMax then afterOverflow positive significand (before - places) (d :: rest)
      else fractionDigits positive v before (places + 1) rest
    else if places = 0 then .error (.ahead .invalidNumber (d :: rest))
    else if isExponentMark d then exponentPart positive significand (before - places) (d :: rest)
    else finish positive significand (before - places) (d :: rest)
  | [] =>
    if places = 0 then .error (.ahead .eofWhileParsingValue [])
    else finish positive significand (before - places) []

/-- A fraction, from its `.`. -/
def fractionPart (positive : Bool) (significand : Nat) (before : Int) (cs : List UInt8) :
    Step Number :=
  fractionDigits positive significand before 0 (cs.drop 1)

/-- Integer digits beyond 64 bits: each only raises the exponent. -/
def longDigits (positive : Bool) (significand : Nat) (e : Int) : List UInt8 → Step Number
  | d :: rest =>
    if isDigit d then longDigits positive significand (e + 1) rest
    else if d == 46 then fractionPart positive significand e (d :: rest)
    else if isExponentMark d then exponentPart positive significand e (d :: rest)
    else finish positive significand e (d :: rest)
  | [] => finish positive significand e []

/-- What follows the integer digits of a number. -/
def afterInteger (positive : Bool) (significand : Nat) (cs : List UInt8) : Step Number :=
  match cs with
  | d :: _ =>
    if d == 46 then fractionPart positive significand 0 cs
    else if isExponentMark d then exponentPart positive significand 0 cs
    else if positive then .ok (.unsigned significand, cs)
    else if significand = 0 then .ok (.float ⟨true, 0, 0⟩, cs)
    else if significand ≤ Nat.pow 2 63 then .ok (.signed (-(significand : Int)), cs)
    else .ok (.float (Binary64.ofNat significand).neg, cs)
  | [] =>
    if positive then .ok (.unsigned significand, cs)
    else if significand = 0 then .ok (.float ⟨true, 0, 0⟩, cs)
    else if significand ≤ Nat.pow 2 63 then .ok (.signed (-(significand : Int)), cs)
    else .ok (.float (Binary64.ofNat significand).neg, cs)

/-- Integer digits after the first. -/
def integerDigits (positive : Bool) (significand : Nat) : List UInt8 → Step Number
  | d :: rest =>
    if isDigit d then
      let v := significand * 10 + digitValue d
      if v > wordMax then longDigits positive significand 0 (d :: rest)
      else integerDigits positive v rest
    else afterInteger positive significand (d :: rest)
  | [] => afterInteger positive significand []

/-- A number without its sign. -/
def readNumber (positive : Bool) : List UInt8 → Step Number
  | [] => .error (.at .eofWhileParsingValue [])
  | c :: rest =>
    if c == 48 then
      match rest with
      | d :: _ => if isDigit d then .error (.ahead .invalidNumber rest)
        else afterInteger positive 0 rest
      | [] => afterInteger positive 0 rest
    else if isDigit c then integerDigits positive (digitValue c) rest
    else .error (.at .invalidNumber rest)

/-! ## Skipping -/

/-- Skips an exponent after its `e`. -/
def skipExponent (cs : List UInt8) : Except Failure (List UInt8) :=
  let cs := match cs with
    | 43 :: r => r
    | 45 :: r => r
    | _ => cs
  match cs with
  | [] => .error (.at .invalidNumber [])
  | c :: rest => if isDigit c then .ok (rest.dropWhile isDigit) else .error (.at .invalidNumber rest)

/-- Skips what may follow the integer digits. -/
def skipNumberTail (cs : List UInt8) : Except Failure (List UInt8) :=
  match cs with
  | 46 :: rest =>
    let digits := rest.takeWhile isDigit
    if digits.isEmpty then .error (.ahead .invalidNumber rest)
    else
      match rest.drop digits.length with
      | e :: r => if isExponentMark e then skipExponent r else .ok (e :: r)
      | [] => .ok []
  | e :: rest => if isExponentMark e then skipExponent rest else .ok cs
  | [] => .ok []

/-- Skips a number without its sign. -/
def skipNumber : List UInt8 → Except Failure (List UInt8)
  | [] => .error (.at .invalidNumber [])
  | c :: rest =>
    if c == 48 then
      match rest with
      | d :: _ => if isDigit d then .error (.ahead .invalidNumber rest) else skipNumberTail rest
      | [] => .ok []
    else if isDigit c then skipNumberTail (rest.dropWhile isDigit)
    else .error (.at .invalidNumber rest)

end HandlePool.Json
