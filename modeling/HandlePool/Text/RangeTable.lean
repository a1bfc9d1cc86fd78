/-!
# Tables of code point ranges

Character properties (printable, grapheme extension, case) are kept as sorted lists of
closed ranges of code points, written compactly as hexadecimal `lo-hi` pairs. Lookup is a
binary search; `searchFrom_sound` states that a `true` answer is backed by a range of the
table.
-/

namespace HandlePool.Text

/-- Sorted, disjoint, closed ranges of code points. -/
structure RangeTable where
  ranges : Array (Nat × Nat)

namespace RangeTable

/-- The value of one hexadecimal digit; any other character counts as zero. -/
def hexDigitValue (c : Char) : Nat :=
  if '0' ≤ c ∧ c ≤ '9' then c.toNat - '0'.toNat
  else if 'a' ≤ c ∧ c ≤ 'f' then c.toNat - 'a'.toNat + 10
  else if 'A' ≤ c ∧ c ≤ 'F' then c.toNat - 'A'.toNat + 10
  else 0

/-- The value of a hexadecimal numeral. -/
def hexValue (s : String) : Nat :=
  s.foldl (fun n c => n * 16 + hexDigitValue c) 0

/-- Reads one `lo-hi` pair; a malformed pair becomes the empty range `(1, 0)`. -/
def pairOfHex (part : String) : Nat × Nat :=
  match part.splitOn "-" with
  | [lo, hi] => (hexValue lo, hexValue hi)
  | _ => (1, 0)

/-- Reads a table written as `lo-hi` hexadecimal pairs separated by commas. -/
def ofHex (s : String) : RangeTable :=
  ⟨((s.splitOn ",").map pairOfHex).toArray⟩

/-- Binary search for `c` among the ranges with index in `[lo, hi)`. -/
def searchFrom (t : RangeTable) (c : Nat) (lo hi : Nat) : Bool :=
  if lo < hi then
    let mid := (lo + hi) / 2
    let r := t.ranges.getD mid (1, 0)
    if c < r.1 then searchFrom t c lo mid
    else if r.2 < c then searchFrom t c (mid + 1) hi
    else true
  else false
termination_by hi - lo

/-- Whether the code point `c` lies in one of the ranges. -/
def contains (t : RangeTable) (c : Nat) : Bool :=
  t.searchFrom c 0 t.ranges.size

/-- Whether some range of the table holds `c`, read off the list of ranges. -/
def Holds (t : RangeTable) (c : Nat) : Prop :=
  ∃ r ∈ t.ranges.toList, r.1 ≤ c ∧ c ≤ r.2

/-- A found range really holds the code point: binary search never answers `true` wrongly. -/
theorem searchFrom_sound (t : RangeTable) (c : Nat) :
    ∀ lo hi, t.searchFrom c lo hi = true → t.Holds c := by
  intro lo hi
  induction lo, hi using searchFrom.induct t c with
  | case1 lo hi hlt mid r hc ih =>
    intro h
    rw [searchFrom, if_pos hlt] at h
    simp only [mid, r] at h hc
    rw [if_pos hc] at h
    exact ih h
  | case2 lo hi hlt mid r hc hc2 ih =>
    intro h
    rw [searchFrom, if_pos hlt] at h
    simp only [mid, r] at h hc hc2
    rw [if_neg hc, if_pos hc2] at h
    exact ih h
  | case3 lo hi hlt mid r hc hc2 =>
    intro _
    simp only [mid, r] at hc hc2
    refine ⟨t.ranges.getD ((lo + hi) / 2) (1, 0), ?_, by omega, by omega⟩
    have hmid : (lo + hi) / 2 < t.ranges.size ∨ ¬ (lo + hi) / 2 < t.ranges.size :=
      Classical.em _
    rcases hmid with hm | hm
    · simp [Array.getD, hm]
    · simp [Array.getD, hm] at hc hc2
      omega
  | case4 lo hi hlt =>
    intro h
    rw [searchFrom, if_neg hlt] at h
    exact absurd h (by simp)

end RangeTable

end HandlePool.Text
