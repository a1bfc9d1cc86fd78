/-!
# Blank characters

The characters with the Unicode property White_Space, and trimming of text at both ends.
Settings read from the environment are trimmed this way, so `"　5　"` (ideographic spaces)
reads as `5`.
-/

namespace HandlePool.Text

/-- Whether `c` has the Unicode property White_Space. -/
def isBlank (c : Char) : Bool :=
  let n := c.toNat
  (9 ≤ n && n ≤ 13) || n == 0x20 || n == 0x85 || n == 0xA0 || n == 0x1680 ||
    (0x2000 ≤ n && n ≤ 0x200A) || n == 0x2028 || n == 0x2029 || n == 0x202F ||
    n == 0x205F || n == 0x3000

/-- `cs` without blank characters at either end. -/
def trimBlankList (cs : List Char) : List Char :=
  ((cs.dropWhile isBlank).reverse.dropWhile isBlank).reverse

/-- `s` without blank characters at either end. -/
def trimBlank (s : String) : String := String.ofList (trimBlankList s.toList)

/-- Every ASCII whitespace character of core is blank. -/
theorem isBlank_of_isWhitespace (c : Char) (h : c.isWhitespace = true) : isBlank c = true := by
  simp only [Char.isWhitespace, Bool.or_eq_true, decide_eq_true_eq] at h
  simp only [isBlank, Bool.or_eq_true, Bool.and_eq_true, decide_eq_true_eq, beq_iff_eq]
  rcases h with ((h | h) | h) | h <;> subst h <;> decide

end HandlePool.Text
