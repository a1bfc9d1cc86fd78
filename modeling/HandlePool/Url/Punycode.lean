/-!
# Punycode

The bootstring encoding of a domain label: the ASCII characters of the label come first,
then a `-` if there were any, then the other code points in ascending order, each written as
the distance from the previous one as a variable-length number in base 36 whose digit
thresholds follow an adaptive bias.

Decoding works on 32-bit unsigned arithmetic: a step whose value does not fit, or a code point
that is no Unicode scalar value, is a failure. Each loop has its own measure, so none needs
fuel.

* `threshold_pos`: every digit threshold is at least one, so the digits of a number end.
* `readNumber_rest_length`: reading one number consumes input, so decoding ends.
-/

namespace HandlePool.Url.Punycode

/-- The largest value a step of decoding may reach. -/
def wordLimit : Nat := Nat.pow 2 32

/-- The digit for a value: `a` to `z` for 0 to 25, `0` to `9` for 26 to 35. -/
def digitChar (d : Nat) : Char :=
  if d < 26 then Char.ofNat (0x61 + d) else Char.ofNat (0x30 + d - 26)

/-- The value of a digit; capital letters count as their small forms. -/
def digitValue (c : Char) : Option Nat :=
  let n := c.toNat
  if 0x61 ≤ n ∧ n ≤ 0x7A then some (n - 0x61)
  else if 0x41 ≤ n ∧ n ≤ 0x5A then some (n - 0x41)
  else if 0x30 ≤ n ∧ n ≤ 0x39 then some (n - 0x30 + 26)
  else none

/-- The threshold of the digit at position `k`: between 1 and 26, shifted by the bias. -/
def threshold (k bias : Nat) : Nat :=
  if k ≤ bias then 1 else if bias + 26 ≤ k then 26 else k - bias

theorem threshold_pos (k bias : Nat) : 1 ≤ threshold k bias := by
  unfold threshold
  split
  · omega
  · split <;> omega

theorem threshold_le (k bias : Nat) : threshold k bias ≤ 26 := by
  unfold threshold
  split
  · omega
  · split <;> omega

/-- Divides `delta` by 35 until it is at most 455, counting 36 for each division. -/
def adaptLoop (delta k : Nat) : Nat × Nat :=
  if 455 < delta then adaptLoop (delta / 35) (k + 36) else (delta, k)
termination_by delta

/-- The bias after a number `delta` was written, with `points` code points handled. -/
def adapt (delta points : Nat) (first : Bool) : Nat :=
  let d := if first then delta / 700 else delta / 2
  let d := d + d / points
  let (d, k) := adaptLoop d 0
  k + 36 * d / (d + 38)

/-! ## Encoding -/

/-- The digits of the number `q`, least significant first, starting at position `k`. -/
def numberDigits (bias k q : Nat) : List Char :=
  let t := threshold k bias
  if q < t then [digitChar q]
  else digitChar (t + (q - t) % (36 - t)) :: numberDigits bias (k + 36) ((q - t) / (36 - t))
termination_by q
decreasing_by
  have := threshold_pos k bias
  have := threshold_le k bias
  calc (q - threshold k bias) / (36 - threshold k bias)
      ≤ q - threshold k bias := Nat.div_le_self _ _
    _ < q := by omega

/-- The state of encoding: digits written, the pending distance, the bias, and how many code
points are handled. -/
structure Encoder where
  out : List Char
  delta : Nat
  bias : Nat
  handled : Nat

/-- One character of the label, seen while code point `m` is being written. -/
def Encoder.visit (basic m : Nat) (e : Encoder) (c : Char) : Encoder :=
  if c.toNat < m then { e with delta := e.delta + 1 }
  else if c.toNat = m then
    { out := e.out ++ numberDigits e.bias 36 e.delta, delta := 0,
      bias := adapt e.delta (e.handled + 1) (e.handled == basic), handled := e.handled + 1 }
  else e

/-- Writes the code points `ms` (ascending, distinct), the previous one being `n - 1`. -/
def Encoder.run (label : List Char) (basic : Nat) : List Nat → Nat → Encoder → Encoder
  | [], _, e => e
  | m :: rest, n, e =>
    let e := { e with delta := e.delta + (m - n) * (e.handled + 1) }
    let e := label.foldl (Encoder.visit basic m) e
    Encoder.run label basic rest (m + 1) { e with delta := e.delta + 1 }

/-- The distinct code points of `cs` that lie beyond ASCII, in ascending order. -/
def wideCodePoints (cs : List Char) : List Nat :=
  ((cs.filter (·.toNat ≥ 0x80)).map Char.toNat).eraseDups.mergeSort

/-- The encoding of a label, without the `xn--` prefix. -/
def encode (label : List Char) : List Char :=
  let basic := label.filter (·.toNat < 0x80)
  let e := Encoder.run label basic.length (wideCodePoints label) 0x80
    ⟨[], 0, 72, basic.length⟩
  basic ++ (if basic.isEmpty then [] else ['-']) ++ e.out

/-! ## Decoding -/

/-- Reads one number, adding it to `i`; `w` is the weight of the digit at position `k`. -/
def readNumber (bias : Nat) : List Char → Nat → Nat → Nat → Option (Nat × List Char)
  | [], _, _, _ => none
  | c :: rest, k, w, i =>
    match digitValue c with
    | none => none
    | some d =>
      let i := i + d * w
      if i ≥ wordLimit then none
      else
        let t := threshold k bias
        if d < t then some (i, rest)
        else
          let w := w * (36 - t)
          if w ≥ wordLimit then none else readNumber bias rest (k + 36) w i

theorem readNumber_rest_length (bias : Nat) :
    ∀ (cs : List Char) (k w i : Nat) (r : Nat × List Char),
      readNumber bias cs k w i = some r → r.2.length < cs.length
  | [], _, _, _, _, h => by simp [readNumber] at h
  | c :: rest, k, w, i, r, h => by
    rw [readNumber] at h
    split at h
    · simp at h
    · simp only at h
      split at h
      · simp at h
      · split at h
        · rw [← Option.some.inj h]; simp
        · split at h
          · simp at h
          · have := readNumber_rest_length bias rest _ _ _ r h
            simp; omega

/-- Inserts the decoded code points one by one. -/
def insertAll (bias n i : Nat) (out : List Char) : List Char → Option (List Char)
  | [] => some out
  | c :: rest =>
    match h : readNumber bias (c :: rest) 36 1 i with
    | none => none
    | some (i', after) =>
      let points := out.length + 1
      let n' := n + i' / points
      let pos := i' % points
      if n' ≥ wordLimit then none
      else if n' < 0xD800 ∨ (0xDFFF < n' ∧ n' < 0x110000) then
        have : after.length < (c :: rest).length := readNumber_rest_length bias _ _ _ _ _ h
        insertAll (adapt (i' - i) points (i == 0)) n' (pos + 1)
          (out.insertIdx pos (Char.ofNat n')) after
      else none
termination_by cs => cs.length
decreasing_by exact this

/-- The label a Punycode text stands for: the part before the last `-` is kept as it is and
must be ASCII, the part after it holds the other code points. A text whose only `-` is its
first character has no such part. -/
def decode (text : List Char) : Option (List Char) :=
  let (basic, rest) : List Char × List Char :=
    match text.reverse.span (· != '-') with
    | (_, []) => ([], text)
    | (_, [_]) => ([], text)
    | (revTail, _ :: revHead) => (revHead.reverse, revTail.reverse)
  if basic.any (·.toNat ≥ 0x80) then none
  else insertAll 72 0x80 0 basic rest

end HandlePool.Url.Punycode
