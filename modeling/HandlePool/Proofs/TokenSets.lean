import Mathlib.Data.Finset.Card
import HandlePool.Identity.Token
/-!
# Token sets are sets

A token set keeps its members as a list sorted by `Token.order`, a strict total order, and
carries the proof. A sorted list is determined by its members, so two token sets are equal
exactly when they have the same members. Hence a set built by adding tokens one after another
depends only on which tokens were added, neither on their order nor on repeats.

* `TokenSet.eq_iff_mem`: token sets with the same members are equal.
* `TokenSet.mem_ofList`: a built set holds exactly the added tokens.
* `credential_sets_ignore_order_and_repeats`: what `insert` answers, the size, emptiness, and
  equality of built sets.
-/

namespace HandlePool

open Std

/-- Two sorted lists with the same members are equal. -/
theorem Sorted.eq_of_mem_iff {l l' : List Token} (h : Sorted l) (h' : Sorted l')
    (hmem : ∀ t, t ∈ l ↔ t ∈ l') : l = l' :=
  List.Perm.eq_of_pairwise
    (fun a b _ _ (hab : a.order b = .lt) hba => absurd hba (OrientedCmp.not_lt_of_lt hab))
    h h' ((List.perm_ext_iff_of_nodup h.nodup h'.nodup).2 hmem)

namespace TokenSet

theorem toList_inj {s s' : TokenSet} : s.toList = s'.toList ↔ s = s' := by
  cases s
  cases s'
  simp

/-- Token sets with the same members are equal: each keeps them sorted. -/
theorem eq_iff_mem {s s' : TokenSet} : s = s' ↔ ∀ t, t ∈ s.toList ↔ t ∈ s'.toList := by
  constructor
  · rintro rfl t
    rfl
  · intro h
    exact toList_inj.1 (s.sorted.eq_of_mem_iff s'.sorted h)

@[simp] theorem toList_withToken (s : TokenSet) (t : Token) :
    (s.withToken t).toList = insertToken t s.toList := rfl

theorem ofList_append_singleton (ts : List Token) (t : Token) :
    ofList (ts ++ [t]) = (ofList ts).withToken t := by
  simp [ofList, List.foldl_append]

theorem mem_foldl_withToken {x : Token} :
    ∀ (ts : List Token) (s : TokenSet),
      x ∈ (ts.foldl withToken s).toList ↔ x ∈ s.toList ∨ x ∈ ts
  | [], s => by simp
  | t :: ts, s => by
    rw [List.foldl_cons, mem_foldl_withToken ts, toList_withToken, mem_insertToken]
    simp only [List.mem_cons]
    tauto

/-- A built set holds exactly the added tokens. -/
theorem mem_ofList {x : Token} {ts : List Token} : x ∈ (ofList ts).toList ↔ x ∈ ts := by
  simp [ofList, mem_foldl_withToken, empty]

/-- Built sets are equal exactly when the same tokens were added. -/
theorem ofList_eq_iff {ts us : List Token} : ofList ts = ofList us ↔ ∀ t, t ∈ ts ↔ t ∈ us := by
  constructor
  · intro h t
    rw [← mem_ofList, h, mem_ofList]
  · intro h
    exact eq_iff_mem.2 fun t => by rw [mem_ofList, mem_ofList, h]

/-- The size of a built set is the number of distinct tokens added. -/
theorem size_ofList (ts : List Token) : (ofList ts).size = ts.toFinset.card := by
  have hperm : (ofList ts).toList.Perm ts.dedup :=
    (List.perm_ext_iff_of_nodup (ofList ts).nodup (List.nodup_dedup ts)).2 fun t => by
      rw [mem_ofList, List.mem_dedup]
  rw [size, hperm.length_eq, List.card_toFinset]

end TokenSet

open TokenSet in
/-- **Credential sets are sets.** For sets built from the empty set by adding tokens (with
`insert` or `withToken`, which change the set alike):

* adding `t` to the set of the tokens `ts` added so far answers whether `t` is new, that is
  differs from every earlier token in kind or material, and gives the set of `ts ++ [t]`;
* the size is the number of distinct tokens added, and the set is empty exactly when none was;
* two built sets are equal, and the credential check of a lookup finds no change, exactly when
  the same tokens were added, whatever their order and repeats. -/
theorem credential_sets_ignore_order_and_repeats :
    (∀ (ts : List Token) (t : Token),
      (ofList ts).insert t = (decide (t ∉ ts), ofList (ts ++ [t])) ∧
      (ofList ts).withToken t = ofList (ts ++ [t])) ∧
    (∀ ts : List Token, (ofList ts).size = ts.toFinset.card ∧ ((ofList ts).isEmpty ↔ ts = [])) ∧
    (∀ ts us : List Token, (ofList ts = ofList us ↔ ∀ t, t ∈ ts ↔ t ∈ us) ∧
      ((ofList ts != ofList us) = false ↔ ∀ t, t ∈ ts ↔ t ∈ us)) := by
  refine ⟨fun ts t => ⟨?_, (ofList_append_singleton ts t).symm⟩, fun ts => ⟨size_ofList ts, ?_⟩,
    fun ts us => ⟨ofList_eq_iff, by simp [ofList_eq_iff]⟩⟩
  · -- the flag reads membership in the sorted list, which holds the tokens added so far
    have hflag : (!(ofList ts).toList.contains t) = decide (t ∉ ts) := by
      simp [mem_ofList]
    rw [TokenSet.insert, hflag, ofList_append_singleton]
    rfl
  · rw [isEmpty, List.isEmpty_iff, List.eq_nil_iff_forall_not_mem,
      List.eq_nil_iff_forall_not_mem]
    simp only [mem_ofList]

example : TokenSet.ofList [⟨"tgt", [2]⟩, ⟨"tgt", [1]⟩, ⟨"tgt", [2]⟩] =
    TokenSet.ofList [⟨"tgt", [1]⟩, ⟨"tgt", [2]⟩] := by decide

end HandlePool
