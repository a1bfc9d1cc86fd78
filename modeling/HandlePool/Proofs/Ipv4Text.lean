import Mathlib
import HandlePool.Url.Ipv4
/-!
# The dotted decimal text of an IPv4 address

A host of a special URL is written back from its record: an IPv4 address as four decimal
bytes. This module shows that the reader takes that text back to the same address, and that
every address the reader returns fits in 32 bits.

* `foldlM_toDigits`: reading the digits of `n` in base `b` gives `n`.
* `parseIpv4_lt`: every address read has 32 bits.
* `parseIpv4_ipv4Text`: a 32-bit address is read back from its text, which ends in a number
  (`endsInNumber_ipv4Text`) and holds only digits and dots (`mem_ipv4Text`).
-/

namespace HandlePool.Url

/-! ## Numerals -/

theorem digitIn_ten_digitChar : ∀ k < 10, digitIn 10 (Nat.digitChar k) = some k := by decide

theorem digitIn_sixteen_digitChar : ∀ k < 16, digitIn 16 (Nat.digitChar k) = some k := by decide

/-- Reading the digits of `n` in base `b` gives `n` back. -/
theorem foldlM_toDigits {b : Nat} (hb : 1 < b) (hdig : ∀ k < b, digitIn b (Nat.digitChar k) = some k)
    (n : Nat) :
    (Nat.toDigits b n).foldlM (fun acc c => (digitIn b c).map (acc * b + ·)) 0 = some n := by
  induction n using Nat.base_induction b hb with
  | single m hm =>
    rw [Nat.toDigits_of_lt_base hm]
    simp [hdig m hm]
  | digit m k hk hm ih =>
    rw [← Nat.toDigits_append_toDigits hb hm hk, List.foldlM_append, ih, Nat.toDigits_of_lt_base hk]
    simp [hdig k hk, Nat.mul_comm]

theorem numeralValue_toDigits (n : Nat) : numeralValue 10 (Nat.toDigits 10 n) = some n :=
  foldlM_toDigits (by decide) digitIn_ten_digitChar n

/-- The first digit of a positive number is not zero. -/
theorem toDigits_head_ne_zero {b : Nat} (hb : 1 < b) (hb16 : b ≤ 16) {n : Nat} (hn : 0 < n) :
    ∀ t, Nat.toDigits b n ≠ '0' :: t := by
  induction n using Nat.base_induction b hb with
  | single m hm =>
    intro t ht
    rw [Nat.toDigits_of_lt_base hm, List.cons.injEq] at ht
    have hdc : ∀ k < 16, 0 < k → Nat.digitChar k ≠ '0' := by decide
    exact hdc m (by omega) hn ht.1
  | digit m k hk hm ih =>
    intro t ht
    rw [← Nat.toDigits_append_toDigits hb hm hk] at ht
    obtain ⟨d, ds, hds⟩ := List.exists_cons_of_ne_nil (Nat.toDigits_ne_nil (n := m) (b := b))
    rw [hds, List.cons_append, List.cons.injEq] at ht
    exact ih hm ds (by rw [hds, ht.1])

theorem length_mapM_of_eq_some {α β : Type} {f : α → Option β} :
    ∀ {l : List α} {l' : List β}, l.mapM f = some l' → l'.length = l.length
  | [], l', h => by
    rw [List.mapM_nil] at h
    cases h
    rfl
  | a :: l, l', h => by
    rw [List.mapM_cons] at h
    simp only [bind, Option.bind_eq_some_iff, pure, Option.some.injEq] at h
    obtain ⟨b, -, bs, hbs, rfl⟩ := h
    simp [length_mapM_of_eq_some hbs]

/-! ## IPv4 addresses -/

/-- The value `parseIpv4` assembles from its numbers is a 32-bit address when the last number
fills the bytes the others leave and the others are bytes. -/
theorem ipv4_assembly_lt {last : Nat} {revFirst : List Nat} (hlen : revFirst.length ≤ 3)
    (hlast : last < 256 ^ (4 - revFirst.length)) (hbytes : ∀ x ∈ revFirst, x ≤ 255) :
    List.foldl (· + ·) 0
      (List.map (fun x => x.fst * 256 ^ (3 - x.snd)) revFirst.reverse.zipIdx) + last < 2 ^ 32 := by
  match revFirst, hlen with
  | [], _ => simpa using hlast
  | [x], _ =>
    have := hbytes x (by simp)
    simp at hlast ⊢
    omega
  | [y, x], _ =>
    have := hbytes x (by simp)
    have := hbytes y (by simp)
    simp at hlast ⊢
    omega
  | [z, y, x], _ =>
    have := hbytes x (by simp)
    have := hbytes y (by simp)
    have := hbytes z (by simp)
    simp at hlast ⊢
    omega

/-- Every address the IPv4 reader returns has 32 bits. -/
theorem parseIpv4_lt {cs : List Char} {a : Nat} (h : parseIpv4 cs = some a) : a < 2 ^ 32 := by
  simp only [parseIpv4] at h
  generalize (if (dotParts cs).getLast? = some [] then (dotParts cs).dropLast
    else dotParts cs) = parts at h
  split at h
  · simp at h
  · rename_i hlen
    simp only [Option.bind_eq_bind, Option.bind_eq_some_iff] at h
    obtain ⟨nums, hnums, h⟩ := h
    split at h
    · cases h
    · rename_i last revFirst hrev
      simp at h
      obtain ⟨hlast, hbytes, rfl⟩ := h
      -- at most four numbers, so at most three before the last
      have hn : nums.length ≤ 4 := by
        rw [length_mapM_of_eq_some hnums]
        omega
      have hr : revFirst.length ≤ 3 := by
        have := congrArg List.length hrev
        simp at this
        omega
      exact ipv4_assembly_lt hr hlast hbytes

theorem ipv4Text_toList (a : Nat) :
    (ipv4Text a).toList =
      ['.'].intercalate ([3, 2, 1, 0].map fun i => Nat.toDigits 10 (a / 256 ^ i % 256)) := by
  simp [ipv4Text, Nat.toString_eq_repr, Nat.toList_repr]

theorem ipv4Number_toDigits {n : Nat} (hn : n < 2 ^ 32) :
    ipv4Number (Nat.toDigits 10 n) = some (some n) := by
  rcases Nat.eq_zero_or_pos n with rfl | hpos
  · rfl
  · -- the digits of a positive number do not start with `0`, so they are read in base ten
    obtain ⟨d, ds, hds⟩ := List.exists_cons_of_ne_nil (Nat.toDigits_ne_nil (n := n) (b := 10))
    have hd : d ≠ '0' := fun he => toDigits_head_ne_zero (b := 10) (by decide) (by decide) hpos ds
      (he ▸ hds)
    have hval : numeralValue 10 (d :: ds) = some n := hds ▸ numeralValue_toDigits n
    simp [ipv4Number, hds, hd, hval]
    omega

theorem dotParts_ipv4Text (a : Nat) :
    dotParts (ipv4Text a).toList = [3, 2, 1, 0].map fun i => Nat.toDigits 10 (a / 256 ^ i % 256) := by
  rw [dotParts, ipv4Text_toList, List.splitOn_intercalate]
  · intro l hl hdot
    simp only [List.map_cons, List.map_nil, List.mem_cons, List.not_mem_nil, or_false] at hl
    have hnd : ∀ i, '.' ∉ Nat.toDigits 10 i := fun i hm => by
      have := Nat.isDigit_of_mem_toDigits (by decide) (by decide) hm
      exact absurd this (by decide)
    rcases hl with rfl | rfl | rfl | rfl <;> exact hnd _ hdot
  · simp

theorem ipv4Number_byte (n : Nat) : ipv4Number (Nat.toDigits 10 (n % 256)) = some (some (n % 256)) :=
  ipv4Number_toDigits (by omega)

/-- A 32-bit address comes back from its dotted decimal text. -/
theorem parseIpv4_ipv4Text {a : Nat} (ha : a < 2 ^ 32) : parseIpv4 (ipv4Text a).toList = some a := by
  simp [parseIpv4, dotParts_ipv4Text, ipv4Number_byte, Nat.toDigits_ne_nil]
  omega

theorem endsInNumber_ipv4Text (a : Nat) : endsInNumber (ipv4Text a).toList = true := by
  obtain ⟨d, ds, hds⟩ := List.exists_cons_of_ne_nil
    (Nat.toDigits_ne_nil (n := a % 256) (b := 10))
  have hdig : ∀ c ∈ d :: ds, c.isDigit := fun c hc =>
    Nat.isDigit_of_mem_toDigits (by decide) (by decide) (hds ▸ hc)
  simp [endsInNumber, dotParts_ipv4Text, hds]
  exact Or.inl ⟨hdig d List.mem_cons_self, fun x hx => hdig x (List.mem_cons_of_mem _ hx)⟩

theorem mem_intercalate_singleton {α : Type} {x c : α} :
    ∀ {ls : List (List α)}, c ∈ [x].intercalate ls → c = x ∨ ∃ l ∈ ls, c ∈ l
  | [], h => by simp at h
  | [l], h => Or.inr ⟨l, List.mem_singleton_self l, by rwa [List.intercalate_singleton] at h⟩
  | l :: l' :: ls, h => by
    rw [List.intercalate_cons_cons, List.mem_append, List.mem_append, List.mem_singleton] at h
    rcases h with (h | h) | h
    · exact Or.inr ⟨l, List.mem_cons_self, h⟩
    · exact Or.inl h
    · rcases mem_intercalate_singleton h with h | ⟨m, hm, hc⟩
      · exact Or.inl h
      · exact Or.inr ⟨m, List.mem_cons_of_mem _ hm, hc⟩

/-- The text of an address holds digits and dots only. -/
theorem mem_ipv4Text {a : Nat} {c : Char} (h : c ∈ (ipv4Text a).toList) : c.isDigit ∨ c = '.' := by
  rw [ipv4Text_toList] at h
  rcases mem_intercalate_singleton h with h | ⟨l, hl, hc⟩
  · exact Or.inr h
  · obtain ⟨i, -, rfl⟩ := List.mem_map.1 hl
    exact Or.inl (Nat.isDigit_of_mem_toDigits (by decide) (by decide) hc)

end HandlePool.Url
