import HandlePool.Text.Quoted
/-!
# Credential tokens and token sets

A token is a kind name and opaque material bytes. A token set is a finite set of tokens,
kept as the list of its members in strictly increasing order, and it carries the proof of that
order: so it has no repeats, and two sets are equal exactly when their lists are, the order in
which tokens were added being forgotten.

Tokens are ordered by kind, code point by code point, then by material, byte by byte. That is
the lexicographic order on the pair of code lists (`Token.order_eq_compareLex`), a strict total
order, and inserting into a sorted list keeps it sorted (`Sorted.insertToken`).

Results:
* `Token.order_eq_iff`, `Token.order_lt_trans`, `Token.order_swap`: the order is total and strict.
* `Sorted.nodup`: a sorted list has no repeats.
* `mem_insertToken`, `Sorted.insertToken`: what inserting adds, and that it keeps the order.
* `insert_fst`: adding a token reports whether it was new.
-/

namespace HandlePool

open Std

/-- A credential held by a principal: a kind such as `tgt` and its material. -/
structure Token where
  kind : String
  material : List UInt8
deriving DecidableEq, Repr

/-- Lexicographic comparison of two lists by an ordering of their elements. -/
def lexCompare {α : Type} (cmp : α → α → Ordering) : List α → List α → Ordering
  | [], [] => .eq
  | [], _ :: _ => .lt
  | _ :: _, [] => .gt
  | a :: as, b :: bs =>
    match cmp a b with
    | .eq => lexCompare cmp as bs
    | o => o

namespace Token

/-- Tokens are ordered by kind, code point by code point, then by material, byte by byte. -/
def order (a b : Token) : Ordering :=
  match lexCompare (fun x y : Char => compare x.toNat y.toNat) a.kind.toList b.kind.toList with
  | .eq => lexCompare (fun x y : UInt8 => compare x.toNat y.toNat) a.material b.material
  | o => o

/-- The diagnostic text of a token; the material is never shown, only its length. -/
def describe (t : Token) : String :=
  "CredentialToken \x7b kind: " ++ Text.quoted t.kind ++ ", material: <" ++
    toString t.material.length ++ " bytes redacted> \x7d"

end Token

/-! ## The token order is a strict total order -/

/-- Comparing lists by an ordering of their elements read as numbers is comparing the lists of
numbers. -/
theorem lexCompare_map {α : Type} (f : α → Nat) :
    ∀ xs ys : List α,
      lexCompare (fun x y => compare (f x) (f y)) xs ys = compare (xs.map f) (ys.map f)
  | [], [] => rfl
  | [], _ :: _ => rfl
  | _ :: _, [] => rfl
  | x :: xs, y :: ys => by
    rw [List.map_cons, List.map_cons, List.compare_cons_cons, ← lexCompare_map f xs ys,
      lexCompare]
    cases compare (f x) (f y) <;> rfl

namespace Token

/-- The code points of the kind. -/
def kindCodes (t : Token) : List Nat := t.kind.toList.map Char.toNat

/-- The material bytes as numbers. -/
def materialCodes (t : Token) : List Nat := t.material.map UInt8.toNat

/-- The token order is the lexicographic order on kind codes, then material codes. -/
theorem order_eq_compareLex : order = compareLex (compareOn kindCodes) (compareOn materialCodes) := by
  funext a b
  simp only [order, compareLex, compareOn, kindCodes, materialCodes]
  rw [lexCompare_map Char.toNat, lexCompare_map UInt8.toNat]
  rfl

/-- Tokens with the same codes are equal. -/
theorem eq_of_codes {a b : Token} (hk : a.kindCodes = b.kindCodes)
    (hm : a.materialCodes = b.materialCodes) : a = b := by
  have hk' : a.kind = b.kind :=
    String.toList_injective ((List.map_inj_right fun _ _ => Char.toNat_inj.1).1 hk)
  have hm' : a.material = b.material := (List.map_inj_right fun _ _ => UInt8.toNat_inj.1).1 hm
  cases a
  cases b
  simp_all

instance : TransCmp order := by
  rw [order_eq_compareLex]
  infer_instance

instance : LawfulEqCmp order where
  eq_of_compare {a b} h := by
    rw [order_eq_compareLex, compareLex_eq_eq] at h
    exact eq_of_codes (LawfulEqOrd.eq_of_compare h.1) (LawfulEqOrd.eq_of_compare h.2)

theorem order_eq_iff {a b : Token} : order a b = .eq ↔ a = b := LawfulEqCmp.compare_eq_iff_eq

theorem order_lt_trans {a b c : Token} (hab : order a b = .lt) (hbc : order b c = .lt) :
    order a c = .lt :=
  TransCmp.lt_trans hab hbc

theorem order_swap {a b : Token} : order a b = .gt ↔ order b a = .lt := OrientedCmp.gt_iff_lt

end Token

/-! ## Sorted lists of tokens -/

/-- Inserts `t` into a list sorted by `Token.order`, unless an equal token is there. -/
def insertToken (t : Token) : List Token → List Token
  | [] => [t]
  | u :: us =>
    match t.order u with
    | .lt => t :: u :: us
    | .eq => u :: us
    | .gt => u :: insertToken t us

/-- A list of tokens in strictly increasing order. -/
def Sorted (l : List Token) : Prop := l.Pairwise fun a b => a.order b = .lt

theorem Sorted.nodup {l : List Token} (h : Sorted l) : l.Nodup :=
  h.imp fun hab he => by rw [he, (Token.order_eq_iff).2 rfl] at hab; cases hab

theorem mem_insertToken {t x : Token} {l : List Token} :
    x ∈ insertToken t l ↔ x = t ∨ x ∈ l := by
  induction l with
  | nil => simp [insertToken]
  | cons u us ih =>
    cases h : t.order u with
    | lt => simp [insertToken, h]
    | eq =>
      -- an equal token is already there
      obtain rfl := Token.order_eq_iff.1 h
      simp [insertToken, h]
    | gt => simp [insertToken, h, ih, or_left_comm]

theorem Sorted.insertToken {t : Token} {l : List Token} (hl : Sorted l) :
    Sorted (insertToken t l) := by
  induction l with
  | nil => simp [HandlePool.insertToken, Sorted]
  | cons u us ih =>
    have hu : ∀ v ∈ us, u.order v = .lt := fun _ hv => List.rel_of_pairwise_cons hl hv
    cases h : t.order u with
    | lt =>
      simp only [HandlePool.insertToken, h]
      refine List.Pairwise.cons (fun v hv => ?_) hl
      rcases List.mem_cons.1 hv with rfl | hv
      · exact h
      · exact Token.order_lt_trans h (hu v hv)
    | eq => simpa [HandlePool.insertToken, h] using hl
    | gt =>
      simp only [HandlePool.insertToken, h]
      refine List.Pairwise.cons (fun v hv => ?_) (ih hl.of_cons)
      rcases mem_insertToken.1 hv with rfl | hv
      · exact Token.order_swap.1 h
      · exact hu v hv

/-! ## Token sets -/

/-- A finite set of tokens, as its members in increasing order. -/
structure TokenSet where
  toList : List Token
  sorted : Sorted toList
deriving DecidableEq, Repr

namespace TokenSet

/-- The set without tokens. -/
def empty : TokenSet := ⟨[], List.Pairwise.nil⟩

/-- The set of one token. -/
def single (t : Token) : TokenSet := ⟨[t], List.pairwise_singleton _ t⟩

/-- Adds a token; the flag tells whether it was not yet a member. -/
def insert (s : TokenSet) (t : Token) : Bool × TokenSet :=
  (!s.toList.contains t, ⟨insertToken t s.toList, s.sorted.insertToken⟩)

/-- The set with one more token. -/
def withToken (s : TokenSet) (t : Token) : TokenSet := (s.insert t).2

/-- The set of the given tokens. -/
def ofList (ts : List Token) : TokenSet := ts.foldl withToken empty

/-- Number of members. -/
def size (s : TokenSet) : Nat := s.toList.length

/-- Whether the set has no member. -/
def isEmpty (s : TokenSet) : Bool := s.toList.isEmpty

theorem insert_fst (s : TokenSet) (t : Token) : (s.insert t).1 = !s.toList.contains t := rfl

@[simp] theorem toList_empty : empty.toList = [] := rfl

@[simp] theorem toList_single (t : Token) : (single t).toList = [t] := rfl

theorem nodup (s : TokenSet) : s.toList.Nodup := s.sorted.nodup

end TokenSet

end HandlePool
