import Mathlib
import HandlePool.Url.Parser
/-!
# Written URL text

A URL keeps each component as it is written, already percent-encoded, and the writer puts the
components down as they are kept. Reading a written URL back therefore meets only characters
that the component's encode set writes as themselves (`EncodeSet.Keeps`), which is what the
encoder guarantees of its own output (`keeps_of_mem_encode`). This module collects what the
reader's steps do with such text: encoding it again, decoding its bytes, trimming it, and
splitting off the scheme, the credentials and the port.

* `encode_encode`: encoding twice is encoding once, for the encode sets of URL components.
* `hostBytes_ascii`: an ASCII host text without `%` comes back from its decoded bytes as is.
* `clean_append`, `splitScheme_append`: trimming keeps a written prefix, and a scheme as read
  splits off again.
* `splitUserinfo_written`, `parsePort_toDigits`: credentials and a port as written are read
  back.
-/

namespace HandlePool.Url

/-! ## Characters -/

theorem toNat_toLower (c : Char) :
    c.toLower.toNat = if 65 ≤ c.toNat ∧ c.toNat ≤ 90 then c.toNat + 32 else c.toNat := by
  unfold Char.toLower
  split <;> rename_i h
  · rw [if_pos (by simpa [UInt32.le_iff_toNat_le] using h)]
    simp only [Char.toNat]
    simp only [UInt32.le_iff_toNat_le] at h
    have hA : 'A'.val.toNat = 65 := rfl
    have hZ : 'Z'.val.toNat = 90 := rfl
    have ha : ('a'.val - 'A'.val).toNat = 32 := rfl
    rw [hA, hZ] at h
    rw [UInt32.toNat_add, ha]
    omega
  · rw [if_neg (by simpa [UInt32.le_iff_toNat_le] using h)]

theorem isUpper_iff (c : Char) : c.isUpper ↔ 65 ≤ c.toNat ∧ c.toNat ≤ 90 := by
  simp [Char.isUpper, UInt32.le_iff_toNat_le]

theorem isLower_iff (c : Char) : c.isLower ↔ 97 ≤ c.toNat ∧ c.toNat ≤ 122 := by
  simp [Char.isLower, UInt32.le_iff_toNat_le]

theorem isDigit_iff (c : Char) : c.isDigit ↔ 48 ≤ c.toNat ∧ c.toNat ≤ 57 := by
  simp [Char.isDigit, UInt32.le_iff_toNat_le]

theorem isAlpha_iff (c : Char) :
    c.isAlpha ↔ (65 ≤ c.toNat ∧ c.toNat ≤ 90) ∨ (97 ≤ c.toNat ∧ c.toNat ≤ 122) := by
  simp [Char.isAlpha, isUpper_iff, isLower_iff]

theorem toLower_of_not_upper {c : Char} (h : ¬(65 ≤ c.toNat ∧ c.toNat ≤ 90)) : c.toLower = c :=
  Char.toNat_inj.1 (by rw [toNat_toLower, if_neg h])

theorem toLower_toLower (c : Char) : c.toLower.toLower = c.toLower := by
  apply Char.toNat_inj.1
  rw [toNat_toLower c.toLower, toNat_toLower c]
  split_ifs <;> omega

theorem isAlpha_toLower {c : Char} (h : c.isAlpha) : c.toLower.isAlpha := by
  rw [isAlpha_iff] at h ⊢
  rw [toNat_toLower]
  split_ifs <;> omega

theorem isSchemeChar_toLower {c : Char} (h : isSchemeChar c) : isSchemeChar c.toLower := by
  by_cases hu : 65 ≤ c.toNat ∧ c.toNat ≤ 90
  · -- an uppercase letter becomes a lowercase one
    have hl : c.toLower.isAlpha := isAlpha_toLower ((isAlpha_iff c).2 (Or.inl hu))
    simp [isSchemeChar, Char.isAlphanum, hl]
  · rwa [toLower_of_not_upper hu]

/-! ## Percent-encoding -/

namespace EncodeSet

/-- A character that a component with encode set `s` writes as itself: printable ASCII that is
not one of the set's extra characters. -/
def Keeps (s : EncodeSet) (c : Char) : Prop :=
  0x20 ≤ c.toNat ∧ c.toNat < 0x7F ∧ c ∉ s.extra

instance (s : EncodeSet) (c : Char) : Decidable (s.Keeps c) :=
  inferInstanceAs (Decidable (_ ∧ _ ∧ _))

/-- The set writes `%` and the uppercase hexadecimal digits as themselves, so that an escape,
encoded again, stays as it is. -/
def KeepsEscapes (s : EncodeSet) : Prop :=
  s.Keeps '%' ∧ ∀ n < 16, s.Keeps (upperHexDigit n)

instance (s : EncodeSet) : Decidable s.KeepsEscapes := inferInstanceAs (Decidable (_ ∧ _))

theorem keepsEscapes_controls : controls.KeepsEscapes := by decide
theorem keepsEscapes_fragment : fragment.KeepsEscapes := by decide
theorem keepsEscapes_path : path.KeepsEscapes := by decide
theorem keepsEscapes_userinfo : userinfo.KeepsEscapes := by decide

/-- A set that escapes the space keeps no space. -/
theorem Keeps.space_lt {s : EncodeSet} {c : Char} (h : s.Keeps c) (hs : ' ' ∈ s.extra) :
    0x20 < c.toNat := by
  have hne : c ≠ ' ' := fun he => h.2.2 (he ▸ hs)
  have hne' : c.toNat ≠ 0x20 := fun he => hne (Char.toNat_inj.1 he)
  have := h.1
  omega

end EncodeSet

open EncodeSet

theorem encodeChar_of_keeps {s : EncodeSet} {c : Char} (h : s.Keeps c) : encodeChar s c = [c] := by
  obtain ⟨hlo, hhi, hx⟩ := h
  have hbyte : c.val.toUInt8.toNat = c.toNat := by
    rw [UInt32.toNat_toUInt8]
    exact Nat.mod_eq_of_lt (by simp only [Char.toNat] at hhi; omega)
  have hone : c.utf8Size = 1 := by
    rw [Char.utf8Size_eq_one_iff, UInt32.le_iff_toNat_le]
    simp only [Char.toNat] at hhi
    simpa using (by omega : c.val.toNat ≤ 127)
  rw [encodeChar, String.utf8EncodeChar_eq_singleton hone]
  simp only [List.flatMap_cons, List.flatMap_nil, List.append_nil, escapes, hbyte,
    Char.ofNat_toNat]
  rw [if_neg (by simp [hx]; omega)]

theorem encode_of_keeps {s : EncodeSet} {cs : List Char} (h : ∀ c ∈ cs, s.Keeps c) :
    encode s cs = cs := by
  induction cs with
  | nil => rfl
  | cons c cs ih =>
    rw [encode, List.flatMap_cons, encodeChar_of_keeps (h c List.mem_cons_self)]
    exact congrArg (c :: ·) (ih fun x hx => h x (List.mem_cons_of_mem _ hx))

theorem toNat_ofNat_of_lt {n : Nat} (h : n < 0xD800) : (Char.ofNat n).toNat = n := by
  rw [Char.ofNat, dif_pos (Or.inl h)]
  rfl

theorem keeps_of_mem_encodeChar {s : EncodeSet} (hs : s.KeepsEscapes) {c d : Char}
    (h : d ∈ encodeChar s c) : s.Keeps d := by
  obtain ⟨b, -, hb⟩ := List.mem_flatMap.1 h
  have hb256 : b.toNat < 256 := UInt8.toNat_lt_size b
  split at hb
  · -- the byte is written as an escape
    simp only [escapeByte, List.mem_cons, List.not_mem_nil, or_false] at hb
    rcases hb with rfl | rfl | rfl
    · exact hs.1
    · exact hs.2 _ (by omega)
    · exact hs.2 _ (by omega)
  · -- the byte is printable and not in the set, so written as itself
    rename_i hesc
    rw [List.mem_singleton] at hb
    subst hb
    simp only [escapes, Bool.or_eq_true, decide_eq_true_eq, List.contains_iff_mem,
      not_or, not_lt] at hesc
    rw [Keeps, toNat_ofNat_of_lt (by omega)]
    exact ⟨hesc.1.1, by omega, hesc.2⟩

/-- Every character the encoder writes is one the set keeps. -/
theorem keeps_of_mem_encode {s : EncodeSet} (hs : s.KeepsEscapes) {cs : List Char} {d : Char}
    (h : d ∈ encode s cs) : s.Keeps d := by
  obtain ⟨c, -, hc⟩ := List.mem_flatMap.1 h
  exact keeps_of_mem_encodeChar hs hc

/-- Encoding an encoded text changes nothing. -/
theorem encode_encode {s : EncodeSet} (hs : s.KeepsEscapes) (cs : List Char) :
    encode s (encode s cs) = encode s cs :=
  encode_of_keeps fun _ h => keeps_of_mem_encode hs h

/-- A text written with the set `s`: every character stands for itself. -/
def Written (s : EncodeSet) (t : String) : Prop := ∀ c ∈ t.toList, s.Keeps c

theorem written_encode {s : EncodeSet} (hs : s.KeepsEscapes) (cs : List Char) :
    Written s (String.ofList (encode s cs)) := by
  intro c hc
  rw [String.toList_ofList] at hc
  exact keeps_of_mem_encode hs hc

theorem Written.encode_eq {s : EncodeSet} {t : String} (h : Written s t) :
    encode s t.toList = t.toList :=
  encode_of_keeps h

/-! ## Bytes of a host -/

theorem decodeBytes_of_forall_ne : ∀ bs : List UInt8, (∀ b ∈ bs, b.toNat ≠ 0x25) →
    decodeBytes bs = bs
  | [], _ => rfl
  | [b], _ => rfl
  | [b, x], _ => rfl
  | b :: x :: y :: tail, h => by
    have hb : (b.toNat == 0x25) = false := by simpa using h b List.mem_cons_self
    rw [decodeBytes, hb]
    exact congrArg (b :: ·)
      (decodeBytes_of_forall_ne (x :: y :: tail) fun c hc => h c (List.mem_cons_of_mem _ hc))

theorem utf8EncodeChar_of_lt {c : Char} (h : c.toNat < 0x80) :
    String.utf8EncodeChar c = [c.val.toUInt8] := by
  apply String.utf8EncodeChar_eq_singleton
  rw [Char.utf8Size_eq_one_iff, UInt32.le_iff_toNat_le]
  simp only [Char.toNat] at h
  simpa using (by omega : c.val.toNat ≤ 127)

/-- The bytes of any text are valid UTF-8 and decode to that text. -/
theorem fromUTF8?_utf8Encode (cs : List Char) :
    String.fromUTF8? (ByteArray.mk (cs.flatMap String.utf8EncodeChar).toArray) =
      some (String.ofList cs) := by
  have hb : ByteArray.mk (cs.flatMap String.utf8EncodeChar).toArray = cs.utf8Encode := by
    rw [List.utf8Encode, ← List.data_toByteArray]
  rw [hb, String.fromUTF8?, dif_pos ByteArray.isValidUTF8_utf8Encode]
  rfl

/-- A host written in ASCII without `%` decodes to itself. -/
theorem hostBytes_ascii {cs : List Char} (h : ∀ c ∈ cs, c.toNat < 0x80 ∧ c ≠ '%') :
    String.fromUTF8? (ByteArray.mk (decodeBytes (cs.flatMap String.utf8EncodeChar)).toArray) =
      some (String.ofList cs) := by
  rw [decodeBytes_of_forall_ne _ ?_, fromUTF8?_utf8Encode]
  intro b hb
  obtain ⟨c, hc, hbc⟩ := List.mem_flatMap.1 hb
  obtain ⟨hlt, hpct⟩ := h c hc
  rw [utf8EncodeChar_of_lt hlt, List.mem_singleton] at hbc
  subst hbc
  rw [UInt32.toNat_toUInt8]
  intro he
  apply hpct
  apply Char.toNat_inj.1
  simp only [Char.toNat] at hlt ⊢
  rw [Nat.mod_eq_of_lt (by omega)] at he
  exact he

/-! ## Trimming and the scheme -/

/-- Trimming text that starts with visible characters, and has no controls after them, cuts
only trailing spaces. -/
theorem clean_append {a b : List Char} (ha : ∀ c ∈ a, 0x20 < c.toNat) (ha0 : a ≠ [])
    (hb : ∀ c ∈ b, 0x20 ≤ c.toNat) :
    clean (String.ofList (a ++ b)) = a ++ b.rdropWhile (fun c => decide (c.toNat ≤ 0x20)) := by
  obtain ⟨x, a', rfl⟩ := List.exists_cons_of_ne_nil ha0
  have hx : decide (x.toNat ≤ 0x20) = false := by
    simpa using ha x List.mem_cons_self
  have hlast : decide (((x :: a').getLast ha0).toNat ≤ 0x20) = false := by
    simpa using ha _ (List.getLast_mem ha0)
  have hb' : b.rdropWhile (fun c => decide (c.toNat ≤ 0x20)) =
      (b.reverse.dropWhile (fun c => decide (c.toNat ≤ 0x20))).reverse := rfl
  have hkeep : (x :: a').reverse.dropWhile (fun c => decide (c.toNat ≤ 0x20)) =
      (x :: a').reverse :=
    calc (x :: a').reverse.dropWhile (fun c => decide (c.toNat ≤ 0x20))
        = ((x :: a').rdropWhile (fun c => decide (c.toNat ≤ 0x20))).reverse :=
          (List.reverse_reverse _).symm
      _ = (x :: a').reverse := by rw [List.rdropWhile_eq_self_iff.2 (fun _ => by simp [hlast])]
  -- the front stops at the first letter, the back at the last visible character of `a`
  have htrim : ((((x :: a') ++ b).dropWhile (fun c => decide (c.toNat ≤ 0x20))).reverse.dropWhile
      (fun c => decide (c.toNat ≤ 0x20))).reverse =
        (x :: a') ++ b.rdropWhile (fun c => decide (c.toNat ≤ 0x20)) := by
    rw [hb', List.cons_append, List.dropWhile_cons_of_neg (by simp [hx]), ← List.cons_append,
      List.reverse_append, List.dropWhile_append]
    split
    · rename_i hemp
      rw [hkeep, List.reverse_reverse, List.isEmpty_iff.1 hemp, List.reverse_nil,
        List.append_nil]
    · rw [List.reverse_append, List.reverse_reverse]
  rw [clean, String.toList_ofList, htrim, List.filter_eq_self.2]
  intro c hc
  have hc' : 0x20 ≤ c.toNat := by
    rcases List.mem_append.1 hc with hc | hc
    · exact Nat.le_of_lt (ha c hc)
    · exact hb c (List.IsPrefix.subset (List.rdropWhile_prefix _ _) hc)
  have h9 : c ≠ '\t' := fun he => by rw [he] at hc'; exact absurd hc' (by decide)
  have h10 : c ≠ '\n' := fun he => by rw [he] at hc'; exact absurd hc' (by decide)
  have h13 : c ≠ '\r' := fun he => by rw [he] at hc'; exact absurd hc' (by decide)
  simp [h9, h10, h13]

/-- The text of a scheme as the reader keeps it: a letter first, then scheme characters, none
of them uppercase. -/
structure SchemeText (sc : String) : Prop where
  head : ∃ c t, sc.toList = c :: t ∧ c.isAlpha
  isSchemeChar : ∀ c ∈ sc.toList, isSchemeChar c
  lower : ∀ c ∈ sc.toList, c.toLower = c

/-- A scheme that was read is a scheme text. -/
theorem splitScheme_schemeText {cs : List Char} {sc : String} {rest : List Char}
    (h : splitScheme cs = some (sc, rest)) : SchemeText sc := by
  match cs, h with
  | c :: t, h =>
    simp only [splitScheme] at h
    split at h
    · cases h
    · rename_i hc
      split at h
      · cases h
        have hname : isSchemeChar c = true := by
          simp only [Bool.not_eq_eq_eq_not, Bool.not_true, Bool.not_eq_false] at hc
          simp [isSchemeChar, Char.isAlphanum, hc]
        refine ⟨⟨c.toLower, ((c :: t).takeWhile isSchemeChar).tail.map Char.toLower, ?_, ?_⟩,
          fun x hx => ?_, fun x hx => ?_⟩
        · simp [List.takeWhile_cons_of_pos hname]
        · simp only [Bool.not_eq_eq_eq_not, Bool.not_true, Bool.not_eq_false] at hc
          exact isAlpha_toLower hc
        · simp only [String.toList_ofList, List.mem_map] at hx
          obtain ⟨y, hy, rfl⟩ := hx
          exact isSchemeChar_toLower (List.mem_takeWhile_imp hy)
        · simp only [String.toList_ofList, List.mem_map] at hx
          obtain ⟨y, -, rfl⟩ := hx
          exact toLower_toLower y
      · cases h

/-- A scheme text followed by a colon splits off again. -/
theorem splitScheme_append {sc : String} (h : SchemeText sc) (rest : List Char) :
    splitScheme (sc.toList ++ ':' :: rest) = some (sc, rest) := by
  obtain ⟨c, t, hct, hc⟩ := h.head
  have hname : (sc.toList ++ ':' :: rest).takeWhile isSchemeChar = sc.toList := by
    rw [List.takeWhile_append_of_pos h.isSchemeChar, List.takeWhile_cons_of_neg (by decide),
      List.append_nil]
  have hlower : sc.toList.map Char.toLower = sc.toList := by
    conv_rhs => rw [← List.map_id sc.toList]
    exact List.map_congr_left h.lower
  rw [hct, List.cons_append, splitScheme, ← List.cons_append, ← hct]
  simp only [hc, Bool.not_true, Bool.false_eq_true, if_false]
  rw [hname, List.drop_left, hlower, String.ofList_toList]
  rfl

/-! ## Credentials -/

theorem lastIndexOf_step_of_not_mem {x : Char} :
    ∀ (l : List Char) (k : Nat) (acc : Option Nat), x ∉ l →
      (l.zipIdx k).foldl (fun acc (c, i) => if c == x then some i else acc) acc = acc
  | [], _, _, _ => rfl
  | c :: l, k, acc, h => by
    have hc : (c == x) = false := by
      simpa using fun he : c = x => h (he ▸ List.mem_cons_self)
    rw [List.zipIdx_cons, List.foldl_cons]
    simp only [hc, Bool.false_eq_true, if_false]
    exact lastIndexOf_step_of_not_mem l (k + 1) acc fun hm => h (List.mem_cons_of_mem _ hm)

/-- The last `x` in a text is the one after which no `x` follows. -/
theorem lastIndexOf_append {x : Char} {a b : List Char} (hb : x ∉ b) :
    lastIndexOf x (a ++ x :: b) = some a.length := by
  rw [lastIndexOf, List.zipIdx_append, List.foldl_append, List.zipIdx_cons, List.foldl_cons,
    Nat.zero_add]
  simp only [beq_self_eq_true, if_true]
  exact lastIndexOf_step_of_not_mem b _ _ hb

theorem lastIndexOf_of_not_mem {x : Char} {cs : List Char} (h : x ∉ cs) :
    lastIndexOf x cs = none :=
  lastIndexOf_step_of_not_mem cs 0 none h

theorem EncodeSet.Keeps.endsAuthority_userinfo {c : Char} (h : userinfo.Keeps c) (special : Bool) :
    endsAuthority special c = false := by
  have hx := h.2.2
  simp only [userinfo, path, List.cons_append, List.nil_append, List.mem_cons,
    List.not_mem_nil, or_false, not_or] at hx
  simp [endsAuthority, hx]

theorem EncodeSet.Keeps.ne_colon_userinfo {c : Char} (h : userinfo.Keeps c) : c ≠ ':' := by
  have hx := h.2.2
  simp only [userinfo, path, List.cons_append, List.nil_append, List.mem_cons,
    List.not_mem_nil, or_false, not_or] at hx
  exact hx.2.2.2.2.2.2.2.2.2.2.1

/-- The user name and password of a URL as written before its host. -/
theorem userinfoText_toList (u : Url) (h : ¬(u.username.isEmpty && u.password.isEmpty)) :
    u.userinfoText.toList = u.username.toList ++
      (if u.password.isEmpty then [] else ':' :: u.password.toList) ++ ['@'] := by
  rw [Url.userinfoText, if_neg h]
  split <;> simp

/-- Credentials as written, before text whose authority part holds no `@`, are read back. -/
theorem splitUserinfo_written {special : Bool} {u : Url} (hu : Written .userinfo u.username)
    (hp : Written .userinfo u.password) {rest : List Char}
    (hrest : '@' ∉ rest.takeWhile (!endsAuthority special ·)) :
    splitUserinfo special (u.userinfoText.toList ++ rest) = .ok (u.username, u.password, rest) := by
  by_cases hboth : u.username.isEmpty && u.password.isEmpty
  · have hnil : u.userinfoText = "" := by rw [Url.userinfoText, if_pos hboth]
    simp only [Bool.and_eq_true, String.isEmpty_iff] at hboth
    rw [hnil, String.toList_empty, List.nil_append, splitUserinfo, lastIndexOf_of_not_mem hrest,
      hboth.1, hboth.2]
  · -- the written credentials end at their only `@`
    set info := u.username.toList ++ (if u.password.isEmpty then [] else ':' :: u.password.toList)
      with hinfo
    have hinfoKeeps : ∀ c ∈ info, userinfo.Keeps c ∨ c = ':' := by
      intro c hc
      rw [hinfo, List.mem_append] at hc
      rcases hc with hc | hc
      · exact Or.inl (hu c hc)
      · split at hc
        · cases hc
        · rcases List.mem_cons.1 hc with hc | hc
          · exact Or.inr hc
          · exact Or.inl (hp c hc)
    have hpos : info ≠ [] := by
      intro he
      rw [hinfo, List.append_eq_nil_iff] at he
      apply hboth
      have hpw : u.password.isEmpty := by
        by_contra hne
        rw [if_neg hne] at he
        exact List.cons_ne_nil _ _ he.2
      simp [String.isEmpty_iff, ← String.toList_eq_nil_iff, he.1, hpw]
    have htake : (info ++ '@' :: rest).takeWhile (!endsAuthority special ·) =
        info ++ '@' :: rest.takeWhile (!endsAuthority special ·) := by
      rw [List.takeWhile_append_of_pos, List.takeWhile_cons_of_pos (by simp [endsAuthority])]
      intro c hc
      rcases hinfoKeeps c hc with hc | rfl
      · simp [hc.endsAuthority_userinfo]
      · simp [endsAuthority]
    have huser : info.takeWhile (· != ':') = u.username.toList := by
      rw [hinfo, List.takeWhile_append_of_pos (fun c hc => by simpa using (hu c hc).ne_colon_userinfo)]
      split
      · rw [List.takeWhile_nil, List.append_nil]
      · rw [List.takeWhile_cons_of_neg (by simp), List.append_nil]
    have hpass : (info.dropWhile (· != ':')).drop 1 = u.password.toList := by
      rw [hinfo, List.dropWhile_append_of_pos (fun c hc => by simpa using (hu c hc).ne_colon_userinfo)]
      split
      · rename_i hemp
        simp [String.isEmpty_iff.1 hemp]
      · rw [List.dropWhile_cons_of_neg (by simp)]
        rfl
    have hlen := List.length_pos_of_ne_nil hpos
    rw [userinfoText_toList u hboth, List.append_assoc, List.singleton_append, ← hinfo,
      splitUserinfo, htake, lastIndexOf_append hrest]
    obtain ⟨k, hk⟩ : ∃ k, info.length = k + 1 := ⟨info.length - 1, by omega⟩
    simp only [hk]
    rw [← hk, List.take_left, huser, hpass, hu.encode_eq, hp.encode_eq, String.ofList_toList,
      String.ofList_toList]
    simp

/-! ## The port -/

theorem parsePort_digits {rest : List Char}
    (hrest : rest = [] ∨ ∃ c r, rest = c :: r ∧ (c == '/' || c == '\\' || c == '?' || c == '#')) :
    ∀ (ds : List Char) (a : Nat), (∀ c ∈ ds, c.isDigit) → Nat.ofDigitChars 10 ds a ≤ 65535 →
      parsePort (some a) (ds ++ rest) = .ok (some (Nat.ofDigitChars 10 ds a), rest)
  | [], a, _, _ => by
    rcases hrest with rfl | ⟨c, r, rfl, hc⟩
    · rfl
    · have hnd : c.isDigit = false := by
        simp only [Bool.or_eq_true, beq_iff_eq] at hc
        rcases hc with ((rfl | rfl) | rfl) | rfl <;> decide
      simp [parsePort, hnd, hc]
  | d :: ds, a, hd, hle => by
    have hv : Nat.ofDigitChars 10 ds (10 * a + (d.toNat - 48)) ≤ 65535 := by
      rwa [Nat.ofDigitChars_cons] at hle
    have hmono : 10 * a + (d.toNat - 48) ≤ Nat.ofDigitChars 10 ds (10 * a + (d.toNat - 48)) := by
      rw [Nat.ofDigitChars_eq_ofDigitChars_zero]
      have := Nat.le_mul_of_pos_left (10 * a + (d.toNat - 48))
        (Nat.one_le_pow ds.length 10 (by decide))
      omega
    rw [List.cons_append, parsePort, if_pos (hd d List.mem_cons_self)]
    simp only [Option.getD_some]
    rw [if_neg (by omega), Nat.mul_comm a 10, Nat.ofDigitChars_cons]
    exact parsePort_digits hrest ds _ (fun c hc => hd c (List.mem_cons_of_mem _ hc)) hv

/-- A port as written is read back up to the path, query or fragment after it. -/
theorem parsePort_toDigits {p : Nat} (hp : p ≤ 65535) {rest : List Char}
    (hrest : rest = [] ∨ ∃ c r, rest = c :: r ∧ (c == '/' || c == '\\' || c == '?' || c == '#')) :
    parsePort none ((toString p).toList ++ rest) = .ok (some p, rest) := by
  have hdig : ∀ c ∈ Nat.toDigits 10 p, c.isDigit := fun c hc =>
    Nat.isDigit_of_mem_toDigits (by decide) (by decide) hc
  obtain ⟨d, ds, hds⟩ := List.exists_cons_of_ne_nil (Nat.toDigits_ne_nil (n := p) (b := 10))
  have hval : Nat.ofDigitChars 10 ds (10 * 0 + (d.toNat - 48)) = p := by
    have h := Nat.ofDigitChars_ten_toDigits (n := p)
    rw [hds, Nat.ofDigitChars_cons] at h
    exact h
  have hfirst : 0 * 10 + (d.toNat - 48) ≤ 65535 := by
    have h0 : Nat.ofDigitChars 10 ds (10 * 0 + (d.toNat - 48)) =
        10 ^ ds.length * (10 * 0 + (d.toNat - 48)) + Nat.ofDigitChars 10 ds 0 :=
      Nat.ofDigitChars_eq_ofDigitChars_zero
    have := Nat.le_mul_of_pos_left (10 * 0 + (d.toNat - 48))
      (Nat.one_le_pow ds.length 10 (by decide))
    omega
  rw [Nat.toString_eq_repr, Nat.toList_repr, hds, List.cons_append, parsePort,
    if_pos (hdig d (hds ▸ List.mem_cons_self))]
  simp only [Option.getD_none]
  rw [if_neg (by omega), show 0 * 10 + (d.toNat - 48) = 10 * 0 + (d.toNat - 48) by omega,
    parsePort_digits hrest ds _ (fun c hc => hdig c (hds ▸ List.mem_cons_of_mem _ hc))
      (by rw [hval]; exact hp), hval]

end HandlePool.Url
