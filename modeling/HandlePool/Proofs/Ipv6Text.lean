import HandlePool.Proofs.Ipv4Text
import HandlePool.Proofs.UrlText
/-!
# The text of an IPv6 address

An IPv6 host is written as its eight groups in lowercase hexadecimal, the first longest run of
at least two zero groups replaced by `::`. This module shows that the reader takes that text
back to the same groups, and that every address the reader returns has eight 16-bit groups.

The reader is a scan with three pieces of state (groups, next index, where `::` stood);
`ScanState` and `DotState` are its invariants, kept by each step of the scan and of the dotted
tail.

* `longestZeroRun_spec`: the run the writer compresses is a run of at least two zero groups.
* `parseIpv6_ipv6Text`: an address of eight groups in range comes back from its text.
* `parseIpv6_valid`: every address read has eight groups below `65536`.
* `mem_ipv6Text`: the text holds hexadecimal digits and colons only.
-/

namespace HandlePool.Url

/-! ## The digits of one group -/

theorem digitIn_lt {b d : Nat} {c : Char} (h : digitIn b c = some d) : d < b := by
  unfold digitIn at h
  dsimp only at h
  split at h
  · split_ifs at h with hlt
    cases h
    exact hlt
  · cases h

/-- At most `n` hexadecimal digits, read after `acc`, stay below `(acc + 1) * 16 ^ n`. -/
theorem hexPrefix_value_lt : ∀ (n acc : Nat) (cs : List Char),
    (hexPrefix n acc cs).1 < (acc + 1) * 16 ^ n
  | n, acc, [] => by
    rw [hexPrefix]
    have := Nat.one_le_pow n 16 (by decide)
    have := Nat.le_mul_of_pos_right (acc + 1) this
    simp only
    omega
  | n, acc, c :: rest => by
    cases n with
    | zero =>
      rw [hexPrefix.eq_3 _ _ _ _ (fun k d h => by cases h)]
      simp
    | succ k =>
      cases hd : digitIn 16 c with
      | none =>
        rw [hexPrefix.eq_3 _ _ _ _ (fun k' d h h' => by rw [hd] at h'; cases h')]
        have := Nat.one_le_pow (k + 1) 16 (by decide)
        have := Nat.le_mul_of_pos_right (acc + 1) this
        simp only
        omega
      | some d =>
        rw [hexPrefix.eq_2 _ _ _ _ _ hd]
        have hd16 := digitIn_lt hd
        have ih := hexPrefix_value_lt k (acc * 16 + d) rest
        calc (hexPrefix k (acc * 16 + d) rest).1 < (acc * 16 + d + 1) * 16 ^ k := ih
          _ ≤ (acc + 1) * 16 * 16 ^ k := Nat.mul_le_mul_right _ (by omega)
          _ = (acc + 1) * 16 ^ (k + 1) := by rw [Nat.pow_succ, Nat.mul_assoc, Nat.mul_comm 16]

theorem hexPrefix_append {rest : List Char} (hrest : rest = [] ∨ ∃ r, rest = ':' :: r) :
    ∀ {ds : List Char} {n acc v : Nat},
      ds.foldlM (fun a c => (digitIn 16 c).map (a * 16 + ·)) acc = some v → ds.length ≤ n →
      hexPrefix n acc (ds ++ rest) = (v, ds.length, rest)
  | [], n, acc, v, h, _ => by
    simp only [List.foldlM_nil, pure, Option.some.injEq] at h
    subst h
    rcases hrest with rfl | ⟨r, rfl⟩
    · simp [hexPrefix]
    · cases n <;> simp [hexPrefix, digitIn]
  | d :: ds, n, acc, v, h, hlen => by
    rw [List.foldlM_cons] at h
    cases hd : digitIn 16 d with
    | none => simp [hd] at h
    | some k =>
      simp only [hd, Option.map_some, Option.bind_eq_bind, Option.bind_some] at h
      obtain ⟨n, rfl⟩ : ∃ m, n = m + 1 := ⟨n - 1, by simp at hlen; omega⟩
      rw [List.cons_append, show n + 1 = Nat.succ n from rfl, hexPrefix.eq_2 _ _ _ _ _ hd,
        hexPrefix_append hrest h (by simp at hlen; omega)]
      simp

/-- The digits of a group in range are read back by the scan, up to the colon after them. -/
theorem hexPrefix_group {x : Nat} (hx : x < 65536) {rest : List Char}
    (hrest : rest = [] ∨ ∃ r, rest = ':' :: r) :
    hexPrefix 4 0 (Nat.toDigits 16 x ++ rest) = (x, (Nat.toDigits 16 x).length, rest) :=
  hexPrefix_append hrest (foldlM_toDigits (by decide) digitIn_sixteen_digitChar x)
    ((Nat.length_toDigits_le_iff (by decide) (by decide)).2 (by simpa using hx))

/-- The hexadecimal digits of a number are digit characters. -/
theorem mem_toDigits_sixteen {n : Nat} {c : Char} (h : c ∈ Nat.toDigits 16 n) :
    ∃ k < 16, Nat.digitChar k = c := by
  induction n using Nat.base_induction 16 (by decide) with
  | single m hm =>
    rw [Nat.toDigits_of_lt_base hm, List.mem_singleton] at h
    exact ⟨m, hm, h.symm⟩
  | digit m k hk hm ih =>
    rw [← Nat.toDigits_append_toDigits (by decide) hm hk, List.mem_append] at h
    rcases h with h | h
    · exact ih h
    · rw [Nat.toDigits_of_lt_base hk, List.mem_singleton] at h
      exact ⟨k, hk, h.symm⟩

theorem digitChar_ne_colon : ∀ k < 16, Nat.digitChar k ≠ ':' := by decide

theorem toDigits_sixteen_cons {x : Nat} : ∃ d ds, Nat.toDigits 16 x = d :: ds ∧ d ≠ ':' := by
  obtain ⟨d, ds, hds⟩ := List.exists_cons_of_ne_nil (Nat.toDigits_ne_nil (n := x) (b := 16))
  obtain ⟨k, hk, hkd⟩ := mem_toDigits_sixteen (hds ▸ List.mem_cons_self : d ∈ Nat.toDigits 16 x)
  exact ⟨d, ds, hds, hkd ▸ digitChar_ne_colon k hk⟩

/-! ## Reading the written groups -/

theorem hexGroups_group_append {arr : Array Nat} {index : Nat} {compress : Option Nat} {x : Nat}
    (hx : x < 65536) (hi : index < 8) {after : List Char} (ha : after ≠ []) :
    hexGroups arr index compress (Nat.toDigits 16 x ++ ':' :: after) =
      hexGroups (arr.set! index x) (index + 1) compress after := by
  have hp := hexPrefix_group hx (Or.inr ⟨after, rfl⟩)
  obtain ⟨d, ds, hds, hd⟩ := toDigits_sixteen_cons (x := x)
  rw [hds, List.cons_append] at hp ⊢
  rw [hexGroups, if_neg (by omega), if_neg hd]
  split <;> rename_i heq <;> rw [hp] at heq
  · cases heq
  · cases heq
  · -- the group is followed by the colon and the rest of the text
    simp only [Prod.mk.injEq, List.cons.injEq, true_and] at heq
    obtain ⟨rfl, -, rfl⟩ := heq
    simp [ha]
  · exact (heq _ _ _ rfl).elim

theorem hexGroups_group {arr : Array Nat} {index : Nat} {compress : Option Nat} {x : Nat}
    (hx : x < 65536) (hi : index < 8) :
    hexGroups arr index compress (Nat.toDigits 16 x) =
      some (arr.set! index x, index + 1, compress, []) := by
  have hp := hexPrefix_group hx (Or.inl (rfl : ([] : List Char) = []))
  rw [List.append_nil] at hp
  obtain ⟨d, ds, hds, hd⟩ := toDigits_sixteen_cons (x := x)
  rw [hds] at hp ⊢
  rw [hexGroups, if_neg (by omega), if_neg hd]
  split <;> rename_i heq <;> rw [hp] at heq
  · simp only [Prod.mk.injEq] at heq
    rw [heq.1]
  · cases heq
  · cases heq
  · rename_i hlast _
    exact (hlast _ _ hp).elim

/-- The groups of an address written with colons between them. -/
def groupsText (gs : List Nat) : List Char := [':'].intercalate (gs.map (Nat.toDigits 16))

/-- Writes `gs` into the groups from `index` on, as the scan does. -/
def writeGroups (arr : Array Nat) (index : Nat) : List Nat → Array Nat
  | [] => arr
  | x :: xs => writeGroups (arr.set! index x) (index + 1) xs

theorem groupsText_cons_cons (x y : Nat) (ys : List Nat) :
    groupsText (x :: y :: ys) = Nat.toDigits 16 x ++ ':' :: groupsText (y :: ys) := by
  simp [groupsText, List.intercalate_cons_cons]

theorem groupsText_ne_nil {gs : List Nat} (h : gs ≠ []) : groupsText gs ≠ [] := by
  obtain ⟨x, xs, rfl⟩ := List.exists_cons_of_ne_nil h
  cases xs with
  | nil => simp [groupsText]
  | cons y ys => simp [groupsText_cons_cons]

/-- The scan reads the groups of a written address. -/
theorem hexGroups_groupsText {compress : Option Nat} :
    ∀ {gs : List Nat} {arr : Array Nat} {index : Nat}, (∀ x ∈ gs, x < 65536) →
      index + gs.length ≤ 8 →
      hexGroups arr index compress (groupsText gs) =
        some (writeGroups arr index gs, index + gs.length, compress, [])
  | [], arr, index, _, _ => by simp [groupsText, hexGroups, writeGroups]
  | [x], arr, index, hx, hlen => by
    simp only [groupsText, List.map_cons, List.map_nil, List.intercalate_singleton]
    rw [hexGroups_group (hx x List.mem_cons_self) (by simp at hlen; omega)]
    rfl
  | x :: y :: ys, arr, index, hx, hlen => by
    rw [groupsText_cons_cons, hexGroups_group_append (hx x List.mem_cons_self)
      (by simp at hlen; omega) (groupsText_ne_nil (List.cons_ne_nil y ys)),
      hexGroups_groupsText (fun z hz => hx z (List.mem_cons_of_mem _ hz))
        (by simp at hlen ⊢; omega)]
    have hl : index + 1 + (y :: ys).length = index + (x :: y :: ys).length := by simp; omega
    rw [hl]
    rfl

/-- The scan reads the groups of a written address up to a colon followed by more text. -/
theorem hexGroups_groupsText_append {compress : Option Nat} {after : List Char} (ha : after ≠ []) :
    ∀ {gs : List Nat} {arr : Array Nat} {index : Nat}, gs ≠ [] → (∀ x ∈ gs, x < 65536) →
      index + gs.length ≤ 8 →
      hexGroups arr index compress (groupsText gs ++ ':' :: after) =
        hexGroups (writeGroups arr index gs) (index + gs.length) compress after
  | [x], arr, index, _, hx, hlen => by
    simp only [groupsText, List.map_cons, List.map_nil, List.intercalate_singleton]
    rw [hexGroups_group_append (hx x List.mem_cons_self) (by simp at hlen; omega) ha]
    rfl
  | x :: y :: ys, arr, index, _, hx, hlen => by
    rw [groupsText_cons_cons, List.append_assoc, List.cons_append,
      hexGroups_group_append (hx x List.mem_cons_self) (by simp at hlen; omega)
        (by simp),
      hexGroups_groupsText_append ha (List.cons_ne_nil y ys)
        (fun z hz => hx z (List.mem_cons_of_mem _ hz)) (by simp at hlen ⊢; omega)]
    have hl : index + 1 + (y :: ys).length = index + (x :: y :: ys).length := by simp; omega
    rw [hl]
    rfl

/-- Writing groups over zeros puts them in place. -/
theorem toList_writeGroups :
    ∀ {gs : List Nat} {arr : Array Nat} {index : Nat} {pre post : List Nat},
      arr.toList = pre ++ List.replicate gs.length 0 ++ post → pre.length = index →
      (writeGroups arr index gs).toList = pre ++ gs ++ post
  | [], arr, index, pre, post, h, _ => by simpa [writeGroups] using h
  | x :: xs, arr, index, pre, post, h, hi => by
    have hset : (arr.set! index x).toList = (pre ++ [x]) ++ List.replicate xs.length 0 ++ post := by
      rw [Array.toList_set!, h, ← hi]
      simp [List.replicate_succ, List.set_append_right]
    show (writeGroups (arr.set! index x) (index + 1) xs).toList = _
    rw [toList_writeGroups hset (by simp [hi])]
    simp

theorem hexGroups_colon {arr : Array Nat} {index : Nat} (hi : index ≠ 8) (rest : List Char) :
    hexGroups arr index none (':' :: rest) = hexGroups arr (index + 1) (some (index + 1)) rest := by
  rw [hexGroups]
  simp [hi]

/-! ## The compressed run of zeros -/

/-- The groups `s, …, s + l - 1` of `g` exist and are zero. -/
def IsZeroRun (g : List Nat) (s l : Nat) : Prop :=
  s + l ≤ g.length ∧ ∀ i, s ≤ i → i < s + l → g[i]? = some 0

theorem IsZeroRun.append {g : List Nat} {s l : Nat} (h : IsZeroRun g s l) (x : Nat) :
    IsZeroRun (g ++ [x]) s l :=
  ⟨by have := h.1; simp; omega, fun i h1 h2 => by
    have := h.1
    rw [List.getElem?_append_left (by omega)]
    exact h.2 i h1 h2⟩

theorem IsZeroRun.extend {g : List Nat} {s l : Nat} (h : IsZeroRun g s l) (hend : s + l = g.length) :
    IsZeroRun (g ++ [0]) s (l + 1) := by
  refine ⟨by simp; omega, fun i h1 h2 => ?_⟩
  rcases Nat.lt_or_ge i (s + l) with hi | hi
  · rw [List.getElem?_append_left (by omega)]
    exact h.2 i h1 hi
  · rw [show i = g.length by omega]
    simp

theorem isZeroRun_last (g : List Nat) : IsZeroRun (g ++ [0]) g.length 1 :=
  (show IsZeroRun g g.length 0 from ⟨by omega, fun _ _ _ => by omega⟩).extend (by omega)

/-- What the scan of `longestZeroRun` knows after reading `g`: the best run so far and the
current run are runs of zero groups of `g`, the current one ending at the end of `g`. -/
def ZeroRuns (g : List Nat) (acc : Option (Nat × Nat) × Option (Nat × Nat)) : Prop :=
  (∀ s l, acc.1 = some (s, l) → IsZeroRun g s l) ∧
  (∀ s l, acc.2 = some (s, l) → s + l = g.length ∧ IsZeroRun g s l)

theorem zeroRuns_foldl {f : Option (Nat × Nat) × Option (Nat × Nat) → Nat × Nat →
      Option (Nat × Nat) × Option (Nat × Nat)}
    (hf : ∀ g acc x, ZeroRuns g acc → ZeroRuns (g ++ [x]) (f acc (x, g.length))) (g : List Nat) :
    ZeroRuns g (g.zipIdx.foldl f (none, none)) := by
  induction g using List.reverseRecOn with
  | nil => exact ⟨fun _ _ h => (by cases h), fun _ _ h => (by cases h)⟩
  | append_singleton g x ih =>
    rw [List.zipIdx_append, List.foldl_append, Nat.zero_add, List.zipIdx_singleton,
      List.foldl_cons, List.foldl_nil]
    exact hf g _ x ih

/-- The run the writer compresses is a run of at least two zero groups. -/
theorem longestZeroRun_spec {g : List Nat} {s l : Nat} (h : longestZeroRun g = some (s, l)) :
    2 ≤ l ∧ IsZeroRun g s l := by
  unfold longestZeroRun at h
  dsimp only at h
  split at h
  · rename_i s' l' heq
    split_ifs at h with hl
    cases h
    refine ⟨hl, (zeroRuns_foldl (fun g acc x hacc => ?_) g).1 s l heq⟩
    -- one more group: a zero extends the current run (or starts one), anything else ends it
    obtain ⟨best, cur⟩ := acc
    obtain ⟨hbest, hcur⟩ := hacc
    have hbest' : ∀ s l, best = some (s, l) → IsZeroRun (g ++ [x]) s l :=
      fun s l h => (hbest s l h).append x
    dsimp only
    split_ifs with hx
    · subst hx
      -- the new current run ends at the new end; the best run is it or the old best
      have hfinish : ∀ s0 l0 (best' : Option (Nat × Nat)), s0 + l0 = (g ++ [0]).length →
          IsZeroRun (g ++ [0]) s0 l0 → (best' = some (s0, l0) ∨ best' = best) →
          ZeroRuns (g ++ [0]) (best', some (s0, l0)) := by
        intro s0 l0 best' hend hrun hb
        refine ⟨fun s l h => ?_, fun s l h => ?_⟩
        · rcases hb with rfl | rfl
          · cases h
            exact hrun
          · exact hbest' s l h
        · cases h
          exact ⟨hend, hrun⟩
      cases cur with
      | none =>
        cases best with
        | none => exact hfinish _ _ _ (by simp) (isZeroRun_last g) (Or.inl rfl)
        | some b =>
          dsimp only
          split_ifs
          · exact hfinish _ _ _ (by simp) (isZeroRun_last g) (Or.inl rfl)
          · exact hfinish _ _ _ (by simp) (isZeroRun_last g) (Or.inr rfl)
      | some c =>
        obtain ⟨hend, hrun⟩ := hcur c.1 c.2 rfl
        have hnew := hrun.extend hend
        cases best with
        | none => exact hfinish _ _ _ (by simp; omega) hnew (Or.inl rfl)
        | some b =>
          dsimp only
          split_ifs
          · exact hfinish _ _ _ (by simp; omega) hnew (Or.inl rfl)
          · exact hfinish _ _ _ (by simp; omega) hnew (Or.inr rfl)
    · exact ⟨hbest', fun _ _ h => by cases h⟩
  · cases h

/-- An address is its groups before a run of zeros, the zeros, and the groups after. -/
theorem IsZeroRun.eq_append {g : List Nat} {s l : Nat} (h : IsZeroRun g s l) :
    g = g.take s ++ List.replicate l 0 ++ g.drop (s + l) := by
  obtain ⟨hle, hz⟩ := h
  apply List.ext_getElem?
  intro i
  rcases Nat.lt_or_ge i s with h1 | h1
  · simp [List.getElem?_append_left, show i < min s g.length by omega]
  · rcases Nat.lt_or_ge i (s + l) with h2 | h2
    · rw [hz i h1 h2, List.getElem?_append_left (by simp; omega),
        List.getElem?_append_right (by simp; omega)]
      simp [List.getElem?_replicate]
      omega
    · rw [List.getElem?_append_right (by simp; omega)]
      simp [List.getElem?_drop]
      congr 1
      omega

/-- How the reader lays out the groups of a compressed address: those before `::`, a zero, those
after, and the zeros the scan left, which the run fills in. -/
theorem assemble_compressed (A B : List Nat) {l : Nat} (hl : 1 ≤ l)
    (h8 : A.length + l + B.length = 8) :
    (A ++ [0] ++ B ++ List.replicate (l - 1) 0).take (A.length + 1) ++
        List.replicate (8 - (A.length + 1 + B.length)) 0 ++
        ((A ++ [0] ++ B ++ List.replicate (l - 1) 0).take (A.length + 1 + B.length)).drop
          (A.length + 1) =
      A ++ List.replicate l 0 ++ B := by
  obtain ⟨k, rfl⟩ : ∃ k, l = k + 1 := ⟨l - 1, by omega⟩
  have h1 : (A ++ [0] ++ B ++ List.replicate k 0).take (A.length + 1) = A ++ [0] := by
    rw [List.append_assoc (A ++ [0]) B, List.take_left' (by simp)]
  have h2 : (A ++ [0] ++ B ++ List.replicate k 0).take (A.length + 1 + B.length) =
      A ++ [0] ++ B := List.take_left' (by simp; omega)
  have h3 : (A ++ [0] ++ B).drop (A.length + 1) = B := List.drop_left' (by simp)
  rw [Nat.add_sub_cancel, show 8 - (A.length + 1 + B.length) = k by omega, h1, h2, h3]
  simp [List.replicate_succ]

theorem groupsText_head (x : Nat) (xs : List Nat) :
    ∃ d ds, groupsText (x :: xs) = d :: ds ∧ d ≠ ':' := by
  obtain ⟨d, ds, hds, hd⟩ := toDigits_sixteen_cons (x := x)
  cases xs with
  | nil => exact ⟨d, ds, by simp [groupsText, hds], hd⟩
  | cons y ys => exact ⟨d, ds ++ ':' :: groupsText (y :: ys), by rw [groupsText_cons_cons, hds]; rfl, hd⟩

/-! ## Reading back the text of an address -/

theorem toList_comp_groupText : String.toList ∘ groupText = Nat.toDigits 16 :=
  funext fun x => by simp [groupText]

theorem ipv6Text_toList_none {g : List Nat} (h : longestZeroRun g = none) :
    (ipv6Text g).toList = groupsText g := by
  simp [ipv6Text, h, groupsText, String.toList_intercalate, toList_comp_groupText]

theorem ipv6Text_toList_some {g : List Nat} {s l : Nat} (h : longestZeroRun g = some (s, l)) :
    (ipv6Text g).toList = groupsText (g.take s) ++ ':' :: ':' :: groupsText (g.drop (s + l)) := by
  simp [ipv6Text, h, groupsText, String.toList_intercalate, List.map_take, List.map_drop,
    toList_comp_groupText]

/-- Without a run of zero groups to compress, the eight groups are written out and read back. -/
theorem parseIpv6_uncompressed {g : List Nat} (hlen : g.length = 8) (hlt : ∀ x ∈ g, x < 65536)
    (hrun : longestZeroRun g = none) : parseIpv6 (ipv6Text g).toList = some g := by
  rw [ipv6Text_toList_none hrun]
  have hs : hexGroups (Array.replicate 8 0) 0 none (groupsText g) =
      some (writeGroups (Array.replicate 8 0) 0 g, 0 + g.length, none, []) :=
    hexGroups_groupsText hlt (by omega)
  have hw : (writeGroups (Array.replicate 8 0) 0 g).toList = g := by
    simpa using @toList_writeGroups g (Array.replicate 8 0) 0 [] [] (by simp [hlen]) rfl
  obtain ⟨x, xs, rfl⟩ := List.exists_cons_of_ne_nil (show g ≠ [] by rintro rfl; simp at hlen)
  obtain ⟨d, ds, hds, hd⟩ := groupsText_head x xs
  have hds2 : 1 ≤ ds.length := by
    obtain ⟨y, ys, rfl⟩ := List.exists_cons_of_ne_nil (show xs ≠ [] by rintro rfl; simp at hlen)
    have hl := congrArg List.length hds
    rw [groupsText_cons_cons] at hl
    simp at hl
    have := Nat.length_toDigits_pos (b := 16) (n := x)
    omega
  obtain ⟨e, es, rfl⟩ := List.exists_cons_of_ne_nil (List.ne_nil_of_length_pos hds2)
  rw [hds] at hs ⊢
  simp [parseIpv6, hd, hs, hlen, hw]

/-- The groups around the written `::` are read back, and the run of zeros filled in again. -/
theorem parseIpv6_compressed {g : List Nat} (hlen : g.length = 8) (hlt : ∀ x ∈ g, x < 65536)
    {s l : Nat} (hrun : longestZeroRun g = some (s, l)) :
    parseIpv6 (ipv6Text g).toList = some g := by
  obtain ⟨hl2, hrun'⟩ := longestZeroRun_spec hrun
  have hsl := hrun'.1
  have hg := hrun'.eq_append
  rw [ipv6Text_toList_some hrun]
  generalize hA : g.take s = A at hg
  generalize hB : g.drop (s + l) = B at hg
  have hAlen : A.length = s := by rw [← hA]; simp; omega
  have hBlen : A.length + l + B.length = 8 := by rw [← hlen, hg]; simp; omega
  have hBlt : ∀ x ∈ B, x < 65536 := fun x hx => by
    rw [← hB] at hx
    exact hlt x (List.mem_of_mem_drop hx)
  have hAlt : ∀ x ∈ A, x < 65536 := fun x hx => by
    rw [← hA] at hx
    exact hlt x (List.mem_of_mem_take hx)
  -- after the scan: the groups before `::`, a zero, the groups after, then zeros
  have hafter : ∀ arr : Array Nat,
      arr.toList = A ++ [0] ++ List.replicate B.length 0 ++ List.replicate (l - 1) 0 →
      (writeGroups arr (s + 1) B).toList = A ++ [0] ++ B ++ List.replicate (l - 1) 0 :=
    fun arr harr => toList_writeGroups harr (by simp [hAlen])
  have hscanB : ∀ arr : Array Nat, hexGroups arr (s + 1) (some (s + 1)) (groupsText B) =
      some (writeGroups arr (s + 1) B, s + 1 + B.length, some (s + 1), []) :=
    fun arr => hexGroups_groupsText hBlt (by omega)
  have hresult := assemble_compressed A B (l := l) (by omega) hBlen
  rw [← hg, hAlen] at hresult
  rcases Nat.eq_zero_or_pos s with rfl | hspos
  · -- the text starts with `::`
    have hA0 : A = [] := List.eq_nil_of_length_eq_zero hAlen
    subst hA0
    have harr := hafter (Array.replicate 8 0) (by
      rw [Array.toList_replicate, List.nil_append, ← List.replicate_one, ← List.replicate_add,
        ← List.replicate_add]
      congr 1
      simp at hBlen
      omega)
    simp only [groupsText, List.map_nil, List.intercalate_nil, List.nil_append] at hscanB ⊢
    simpa [parseIpv6, hscanB, harr] using hresult
  · -- the groups before `::`, then the colons
    obtain ⟨x, xs, rfl⟩ := List.exists_cons_of_ne_nil
      (show A ≠ [] by rintro rfl; simp at hAlen; omega)
    obtain ⟨d, ds, hds, hd⟩ := groupsText_head x xs
    have hw := @toList_writeGroups (x :: xs) (Array.replicate 8 0) 0 []
      (List.replicate (8 - s) 0)
      (by rw [Array.toList_replicate, List.nil_append, ← List.replicate_add]; congr 1; omega) rfl
    have harr := hafter (writeGroups (Array.replicate 8 0) 0 (x :: xs)) (by
      rw [hw, List.nil_append, List.append_assoc (x :: xs), List.append_assoc (x :: xs),
        ← List.replicate_one, ← List.replicate_add, ← List.replicate_add]
      congr 2
      omega)
    have hscan : hexGroups (Array.replicate 8 0) 0 none
        (groupsText (x :: xs) ++ ':' :: ':' :: groupsText B) =
          some (writeGroups (writeGroups (Array.replicate 8 0) 0 (x :: xs)) (s + 1) B,
            s + 1 + B.length, some (s + 1), []) := by
      rw [hexGroups_groupsText_append (by simp) (List.cons_ne_nil _ _) hAlt (by omega),
        Nat.zero_add, hAlen, hexGroups_colon (by omega), hscanB]
    rw [hds, List.cons_append] at hscan
    rw [hds, List.cons_append]
    have hshort : ¬(d :: (ds ++ ':' :: ':' :: groupsText B)).length < 2 := by
      simp only [List.length_cons, List.length_append]
      omega
    -- the text starts with a digit, not with a colon
    rw [parseIpv6, if_neg hshort]
    · simp [hscan, harr]
      simpa using hresult
    · intro t ht
      exact hd (List.cons.inj ht).1
    · intro t ht
      exact hd (List.cons.inj ht).1

/-- An address of eight groups in range comes back from its text. -/
theorem parseIpv6_ipv6Text {g : List Nat} (hlen : g.length = 8) (hlt : ∀ x ∈ g, x < 65536) :
    parseIpv6 (ipv6Text g).toList = some g := by
  cases hrun : longestZeroRun g with
  | none => exact parseIpv6_uncompressed hlen hlt hrun
  | some sl => exact parseIpv6_compressed hlen hlt hrun

theorem mem_groupsText {gs : List Nat} {c : Char} (h : c ∈ groupsText gs) :
    c = ':' ∨ ∃ k < 16, Nat.digitChar k = c := by
  rcases mem_intercalate_singleton h with h | ⟨l, hl, hc⟩
  · exact Or.inl h
  · obtain ⟨x, -, rfl⟩ := List.mem_map.1 hl
    exact Or.inr (mem_toDigits_sixteen hc)

/-- The text of an address holds hexadecimal digits and colons only. -/
theorem mem_ipv6Text {g : List Nat} {c : Char} (h : c ∈ (ipv6Text g).toList) :
    c = ':' ∨ ∃ k < 16, Nat.digitChar k = c := by
  cases hrun : longestZeroRun g with
  | none =>
    rw [ipv6Text_toList_none hrun] at h
    exact mem_groupsText h
  | some sl =>
    obtain ⟨s, l⟩ := sl
    rw [ipv6Text_toList_some hrun] at h
    simp only [List.mem_append, List.mem_cons] at h
    rcases h with h | h | h | h
    · exact mem_groupsText h
    · exact Or.inl h
    · exact Or.inl h
    · exact mem_groupsText h

/-! ## Every address read is valid -/

/-- The state of the group scan: eight groups in range, those from `index` on still zero, and
`::`, if it was read, at or before `index`. -/
def ScanState (groups : Array Nat) (index : Nat) (compress : Option Nat) : Prop :=
  groups.size = 8 ∧ (∀ x ∈ groups.toList, x < 65536) ∧ index ≤ 8 ∧
    (∀ x ∈ groups.toList.drop index, x = 0) ∧ ∀ a, compress = some a → a ≤ index

theorem ScanState.set {groups : Array Nat} {index : Nat} {compress : Option Nat}
    (h : ScanState groups index compress) (hi : index < 8) {v : Nat} (hv : v < 65536) :
    ScanState (groups.set! index v) (index + 1) compress := by
  obtain ⟨hsize, hlt, hle, hzero, hc⟩ := h
  refine ⟨by simp [hsize], fun x hx => ?_, by omega, fun x hx => ?_, fun a ha => ?_⟩
  · rw [Array.toList_set!] at hx
    rcases List.mem_or_eq_of_mem_set hx with hx | rfl
    · exact hlt x hx
    · exact hv
  · rw [Array.toList_set!, List.drop_set_of_lt (by omega), ← List.drop_drop] at hx
    exact hzero x (List.mem_of_mem_drop hx)
  · have := hc a ha
    omega

theorem ScanState.skip {groups : Array Nat} {index : Nat} (h : ScanState groups index none)
    (hi : index < 8) : ScanState groups (index + 1) (some (index + 1)) := by
  obtain ⟨hsize, hlt, hle, hzero, -⟩ := h
  refine ⟨hsize, hlt, by omega, fun x hx => ?_, fun a ha => by cases ha; omega⟩
  rw [← List.drop_drop] at hx
  exact hzero x (List.mem_of_mem_drop hx)

theorem hexGroups_scanState {groups : Array Nat} {index : Nat} {compress : Option Nat}
    {cs : List Char} (h : ScanState groups index compress) {groups' : Array Nat} {index' : Nat}
    {compress' : Option Nat} {tail : List Char}
    (hscan : hexGroups groups index compress cs = some (groups', index', compress', tail)) :
    ScanState groups' index' compress' ∧ (tail ≠ [] → index' ≤ 6) := by
  fun_induction hexGroups groups index compress cs with
  | case1 =>
    cases hscan
    exact ⟨h, fun ht => absurd rfl ht⟩
  | case2 => cases hscan
  | case3 => cases hscan
  | case4 groups index compress rest hi hc ih =>
    -- `::`: the next group starts the run of zeros
    simp only [Option.not_isSome_iff_eq_none] at hc
    subst hc
    exact ih (h.skip (by have := h.2.2.1; omega)) hscan
  | case5 groups index compress c rest hi hc _ value count hp =>
    cases hscan
    have hv : value < 65536 := by
      have := hexPrefix_value_lt 4 0 (c :: rest)
      rw [hp] at this
      simpa using this
    exact ⟨h.set (by have := h.2.2.1; omega) hv, fun ht => absurd rfl ht⟩
  | case6 => cases hscan
  | case7 groups index compress c rest _ _ _ _ _ _ _ hnot =>
    cases hscan
    exact ⟨h, fun _ => by omega⟩
  | case8 => cases hscan
  | case9 groups index compress c rest hi hc _ value count after hp _ _ ih =>
    have hv : value < 65536 := by
      have := hexPrefix_value_lt 4 0 (c :: rest)
      rw [hp] at this
      simpa using this
    exact ih (h.set (by have := h.2.2.1; omega) hv) hscan
  | case10 => cases hscan

/-- A byte of a dotted tail is at most 255. -/
theorem dottedByte_le {acc : Option Nat} {cs : List Char} (hacc : ∀ a, acc = some a → a ≤ 255)
    {v : Nat} {r : List Char} (h : dottedByte acc cs = some (v, r)) : v ≤ 255 := by
  fun_induction dottedByte acc cs with
  | case1 acc =>
    cases acc with
    | none => cases h
    | some a =>
      cases h
      exact hacc _ rfl
  | case2 c rest hc d ih =>
    exact ih (fun a ha => by cases ha; have := (isDigit_iff c).1 hc; omega) h
  | case3 => cases h
  | case4 => cases h
  | case5 c rest hc d w _ hle ih => exact ih (fun a ha => by cases ha; omega) h
  | case6 acc c rest _ =>
    cases acc with
    | none => cases h
    | some a =>
      cases h
      exact hacc _ rfl

/-- The state of reading a dotted tail after `seen` bytes: eight groups in range, the group at
`index` holding the bytes read into it so far (nothing after an even number), zeros after it,
and room for the bytes to come. -/
def DotState (groups : Array Nat) (index seen : Nat) : Prop :=
  groups.size = 8 ∧ (∀ x ∈ groups.toList, x < 65536) ∧ seen ≤ 4 ∧ index + (5 - seen) / 2 ≤ 8 ∧
    groups.toList.getD index 0 < 256 ^ (seen % 2) ∧ ∀ x ∈ groups.toList.drop (index + 1), x = 0

theorem DotState.byte {groups : Array Nat} {index seen : Nat} (h : DotState groups index seen)
    (hseen : seen < 4) {v : Nat} (hv : v ≤ 255) :
    DotState (groups.set! index (groups.getD index 0 * 256 + v))
      (if seen + 1 = 2 ∨ seen + 1 = 4 then index + 1 else index) (seen + 1) := by
  obtain ⟨hsize, hlt, -, hroom, hcur, hzero⟩ := h
  have hget : groups.getD index 0 = groups.toList.getD index 0 := by
    simp [Array.getD_eq_getD_getElem?, List.getD_eq_getElem?_getD]
  rw [hget]
  have hidx : index < groups.toList.length := by simp [hsize]; omega
  have hnew : groups.toList.getD index 0 * 256 + v < 65536 := by
    rcases Nat.mod_two_eq_zero_or_one seen with he | ho
    · rw [he, Nat.pow_zero] at hcur
      omega
    · rw [ho, Nat.pow_one] at hcur
      omega
  have hset : ∀ x ∈ (groups.set! index (groups.toList.getD index 0 * 256 + v)).toList,
      x < 65536 := by
    intro x hx
    rw [Array.toList_set!] at hx
    rcases List.mem_or_eq_of_mem_set hx with hx | rfl
    · exact hlt x hx
    · exact hnew
  have hnext : groups.toList.getD (index + 1) 0 = 0 := by
    rw [List.getD_eq_getElem?_getD]
    cases hx : groups.toList[index + 1]? with
    | none => rfl
    | some x =>
      apply hzero x
      rw [List.mem_iff_getElem?]
      exact ⟨0, by simpa using hx⟩
  refine ⟨by simp [hsize], hset, by omega, by split_ifs <;> omega, ?_, fun x hx => ?_⟩
  · -- an odd count leaves the byte in the current group; an even one moves to the next group
    rw [Array.toList_set!]
    split_ifs with h2
    · rw [List.getD_eq_getElem?_getD, List.getElem?_set_ne (by omega),
        ← List.getD_eq_getElem?_getD, hnext]
      exact Nat.pow_pos (by decide)
    · rcases Nat.mod_two_eq_zero_or_one seen with he | ho
      · rw [he, Nat.pow_zero] at hcur
        rw [List.getD_eq_getElem?_getD, List.getElem?_set_self hidx, Option.getD_some,
          show (seen + 1) % 2 = 1 by omega, Nat.pow_one]
        omega
      · omega
  · rw [Array.toList_set!, List.drop_set_of_lt (by split_ifs <;> omega)] at hx
    apply hzero x
    split_ifs at hx
    · rw [← List.drop_drop] at hx
      exact List.mem_of_mem_drop hx
    · exact hx

theorem dottedTail_valid {groups : Array Nat} {index seen : Nat} {cs : List Char}
    (h : DotState groups index seen) {groups' : Array Nat} {index' : Nat}
    (ht : dottedTail groups index seen cs = some (groups', index')) :
    groups'.size = 8 ∧ (∀ x ∈ groups'.toList, x < 65536) ∧ index ≤ index' ∧ index' ≤ 8 := by
  fun_induction dottedTail groups index seen cs with
  | case1 groups index =>
    cases ht
    exact ⟨h.1, h.2.1, Nat.le_refl _, by have := h.2.2.2.1; omega⟩
  | case2 => cases ht
  | case3 => cases ht
  | case4 => cases ht
  | case5 groups index seen c rest body b hbody v after hbyte g' i' hshort ih =>
    -- a byte is read only while fewer than four were
    have hseen : seen < 4 := by
      simp only [body] at hbody
      split at hbody
      · omega
      · split at hbody
        · omega
        · cases hbody
    have hv := dottedByte_le (fun a ha => by cases ha) hbyte
    obtain ⟨hsize, hlt, hle, hle8⟩ := ih (h.byte hseen hv) ht
    refine ⟨hsize, hlt, ?_, hle8⟩
    simp only [i'] at hle
    split at hle <;> omega
  | case6 => cases ht

/-- The groups the reader assembles from the scan: eight, each in range. -/
theorem assembled_valid {groups : Array Nat} {index : Nat} {compress : Option Nat} {g : List Nat}
    (h : (match compress with
      | some at_ =>
        some (groups.toList.take at_ ++ List.replicate (8 - index) 0 ++
          (groups.toList.take index).drop at_)
      | none => if index = 8 then some groups.toList else none) = some g)
    (hsize : groups.size = 8) (hlt : ∀ x ∈ groups.toList, x < 65536) (hi : index ≤ 8)
    (hc : ∀ a, compress = some a → a ≤ index) :
    g.length = 8 ∧ ∀ x ∈ g, x < 65536 := by
  cases compress with
  | none =>
    simp only at h
    split_ifs at h
    cases h
    exact ⟨by simp [hsize], hlt⟩
  | some a =>
    cases h
    have ha := hc a rfl
    refine ⟨by simp [hsize]; omega, fun x hx => ?_⟩
    simp only [List.mem_append, List.mem_replicate] at hx
    rcases hx with (hx | ⟨-, rfl⟩) | hx
    · exact hlt x (List.mem_of_mem_take hx)
    · decide
    · exact hlt x (List.mem_of_mem_take (List.mem_of_mem_drop hx))

/-- Every address the IPv6 reader returns has eight groups of 16 bits. -/
theorem parseIpv6_valid {cs : List Char} {g : List Nat} (h : parseIpv6 cs = some g) :
    g.length = 8 ∧ ∀ x ∈ g, x < 65536 := by
  simp only [parseIpv6, Option.bind_eq_bind] at h
  split at h
  · simp at h
  · obtain ⟨⟨index, compress, body⟩, hstart, h⟩ := Option.bind_eq_some_iff.1 h
    have hs0 : ScanState (Array.replicate 8 0) index compress := by
      have hzero : ∀ x ∈ (Array.replicate 8 0 : Array Nat).toList, x = 0 := by simp
      split at hstart <;> cases hstart
      · exact ⟨by simp, by simp, by omega, fun x hx => hzero x (List.mem_of_mem_drop hx),
          fun a ha => by cases ha; omega⟩
      · exact ⟨by simp, by simp, by omega, fun x hx => hzero x (List.mem_of_mem_drop hx),
          fun a ha => by cases ha⟩
    obtain ⟨⟨groups, index1, compress1, tail⟩, hscan, h⟩ := Option.bind_eq_some_iff.1 h
    obtain ⟨⟨hsize, hlt, hle, hzero, hc⟩, htail⟩ := hexGroups_scanState hs0 hscan
    dsimp only at h
    split at h
    · obtain ⟨⟨groups2, index2⟩, hX, h⟩ := Option.bind_eq_some_iff.1 h
      cases hX
      exact assembled_valid h hsize hlt hle hc
    · -- a dotted tail fills the last two groups
      rename_i hne
      obtain ⟨⟨groups2, index2⟩, hX, h⟩ := Option.bind_eq_some_iff.1 h
      have hi6 := htail (by simpa using hne)
      have hdot : DotState groups index1 0 := by
        refine ⟨hsize, hlt, by omega, by omega, ?_, fun x hx => hzero x ?_⟩
        · rw [List.getD_eq_getElem?_getD]
          cases hx : groups.toList[index1]? with
          | none => simp
          | some x =>
            have := hzero x (by rw [List.mem_iff_getElem?]; exact ⟨0, by simpa using hx⟩)
            simp [this]
        · rw [← List.drop_drop] at hx
          exact List.mem_of_mem_drop hx
      obtain ⟨hsize2, hlt2, hle2, hle82⟩ := dottedTail_valid hdot hX
      exact assembled_valid h hsize2 hlt2 hle82 (fun a ha => by have := hc a ha; omega)

end HandlePool.Url
