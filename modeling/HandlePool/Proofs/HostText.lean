import HandlePool.Proofs.Ipv6Text
/-!
# Hosts read back from their text

A URL is written with the text of its host (`Host.text`), and a reader that reads the written
URL again must find the same host there. `Host.ReadsBack` says what that takes: the host
reader stops exactly where the text ends, and reads the host from it.

The IDNA step of a special host is a parameter of the reader. What is used of it is collected in
`IdnaLaws`, as UTS 46 processing (with the options URLs use) provides it: its results are ASCII
without the characters a host may not hold; a result is mapped to itself; a text of digits and
dots is mapped to itself.

* `mem_encode`: an encoded text holds the characters of the text, `%` and hexadecimal digits;
  a byte written as itself is a whole ASCII character (`utf8EncodeChar_ascii`).
* `splitHost_plain`, `splitHost_bracketed`: the host reader stops where a host ends.
* `readsBack_of_parseSpecialHost`, `readsBack_of_parseOpaqueHost`: every host either reader
  returns reads back from its text, for the same kind of scheme.
-/

namespace HandlePool.Url
open EncodeSet

/-! ## Characters of an encoded text -/

/-- Setting the high bit makes a byte at least `0x80`. -/
theorem le_toNat_or {x y : UInt8} (hy : 0x80 ≤ y.toNat) : 0x80 ≤ (x ||| y).toNat := by
  rw [UInt8.toNat_or]
  exact Nat.le_trans hy Nat.right_le_or

/-- A byte below `0x80` in the UTF-8 form of a character is the character itself, which is
ASCII: the bytes of longer forms all have the high bit set. -/
theorem utf8EncodeChar_ascii {c : Char} {b : UInt8} (hb : b ∈ String.utf8EncodeChar c)
    (hlt : b.toNat < 0x80) : c.toNat < 0x80 := by
  have h1 := c.utf8Size_pos
  have h4 := c.utf8Size_le_four
  rcases (by omega : c.utf8Size = 1 ∨ c.utf8Size = 2 ∨ c.utf8Size = 3 ∨ c.utf8Size = 4)
    with h | h | h | h
  · have : c.val.toNat ≤ 127 := by
      simpa [Char.utf8Size_eq_one_iff, UInt32.le_iff_toNat_le] using h
    exact Nat.lt_of_le_of_lt this (by decide)
  · rw [String.utf8EncodeChar_eq_cons_cons h] at hb
    simp only [List.mem_cons, List.not_mem_nil, or_false] at hb
    rcases hb with rfl | rfl <;> exact absurd hlt (Nat.not_lt.2 (le_toNat_or (by decide)))
  · rw [String.utf8EncodeChar_eq_cons_cons_cons h] at hb
    simp only [List.mem_cons, List.not_mem_nil, or_false] at hb
    rcases hb with rfl | rfl | rfl <;> exact absurd hlt (Nat.not_lt.2 (le_toNat_or (by decide)))
  · rw [String.utf8EncodeChar_eq_cons_cons_cons_cons h] at hb
    simp only [List.mem_cons, List.not_mem_nil, or_false] at hb
    rcases hb with rfl | rfl | rfl | rfl <;> exact absurd hlt (Nat.not_lt.2 (le_toNat_or (by decide)))

theorem ofNat_toUInt8 {c : Char} (h : c.toNat < 0x80) : Char.ofNat c.val.toUInt8.toNat = c := by
  apply Char.toNat_inj.1
  rw [UInt32.toNat_toUInt8, toNat_ofNat_of_lt] <;> simp only [Char.toNat] at h ⊢ <;> omega

/-- A character the encoder writes is `%`, an uppercase hexadecimal digit, or a character of
the text. -/
theorem mem_encodeChar {s : EncodeSet} {c d : Char} (h : d ∈ encodeChar s c) :
    d = c ∨ d = '%' ∨ ∃ n < 16, d = upperHexDigit n := by
  obtain ⟨b, hb, hd⟩ := List.mem_flatMap.1 h
  have hb256 : b.toNat < 256 := UInt8.toNat_lt_size b
  split at hd
  · simp only [escapeByte, List.mem_cons, List.not_mem_nil, or_false] at hd
    rcases hd with rfl | rfl | rfl
    · exact Or.inr (Or.inl rfl)
    · exact Or.inr (Or.inr ⟨_, by omega, rfl⟩)
    · exact Or.inr (Or.inr ⟨_, by omega, rfl⟩)
  · -- a byte written as itself is below `0x7F`, so it is the whole character
    rename_i hesc
    rw [List.mem_singleton] at hd
    simp only [escapes, Bool.or_eq_true, decide_eq_true_eq, not_or, not_lt] at hesc
    have hc := utf8EncodeChar_ascii hb (by omega)
    rw [utf8EncodeChar_of_lt hc, List.mem_singleton] at hb
    subst hb
    exact Or.inl (hd.trans (ofNat_toUInt8 hc))

/-- Every character of an encoded text is a character of the text, `%`, or a hexadecimal
digit. -/
theorem mem_encode {s : EncodeSet} {cs : List Char} {d : Char} (h : d ∈ encode s cs) :
    d ∈ cs ∨ d = '%' ∨ ∃ n < 16, d = upperHexDigit n := by
  obtain ⟨c, hc, hd⟩ := List.mem_flatMap.1 h
  rcases mem_encodeChar hd with rfl | h
  · exact Or.inl hc
  · exact Or.inr h

/-! ## Characters of a host -/

/-- A character that may stand in a host outside brackets: visible, and none of the characters
that end a host or its credentials, open brackets, or follow a drive letter. -/
structure PlainHostChar (c : Char) : Prop where
  visible : 0x20 < c.toNat
  ne_at : c ≠ '@'
  ne_colon : c ≠ ':'
  ne_open : c ≠ '['
  ne_bar : c ≠ '|'
  not_ends : endsAuthority true c = false

theorem endsAuthority_of_special {c : Char} (h : endsAuthority true c = false) (special : Bool) :
    endsAuthority special c = false := by
  cases special <;> simp_all [endsAuthority]

/-- A visible character an opaque host may hold. -/
theorem plainHostChar_of_forbidden {c : Char} (h : forbiddenInHost c = false)
    (hc : 0x20 ≤ c.toNat) : PlainHostChar c := by
  simp [forbiddenInHost] at h
  have hsp : c.toNat ≠ 0x20 := fun he => h.2.2.2.2.1 (Char.toNat_inj.1 he)
  exact ⟨by omega, by grind, by grind, by grind, by grind, by simp [endsAuthority]; grind⟩

/-- A character the IDNA step may return. -/
theorem plainHostChar_of_denied {c : Char} (h : deniedInHost c = false) : PlainHostChar c := by
  simp [deniedInHost] at h
  exact ⟨by omega, by grind, by grind, by grind, by grind, by simp [endsAuthority]; grind⟩

/-! ## Where the host reader stops -/

theorem splitHost_cons {special inside : Bool} {c : Char} (rest : List Char)
    (hc : ((c == ':' && !inside) || endsAuthority special c) = false) :
    splitHost special inside (c :: rest) =
      (c :: (splitHost special (if c == '[' then true else if c == ']' then false else inside)
        rest).1,
        (splitHost special (if c == '[' then true else if c == ']' then false else inside)
          rest).2) := by
  rw [splitHost, if_neg (by simp [hc])]

/-- A text that stops the host reader at its start. -/
theorem splitHost_stop {special : Bool} {rest : List Char}
    (h : rest = [] ∨ ∃ c r, rest = c :: r ∧ (c = ':' ∨ endsAuthority special c = true)) :
    splitHost special false rest = ([], rest) := by
  rcases h with rfl | ⟨c, r, rfl, hc⟩
  · rfl
  · rw [splitHost, if_pos ?_]
    rcases hc with rfl | hc
    · rfl
    · simp [hc]

/-- The host reader reads over plain host characters up to a text that stops it. -/
theorem splitHost_plain {special : Bool} {rest : List Char}
    (hr : splitHost special false rest = ([], rest)) :
    ∀ {h : List Char}, (∀ c ∈ h, PlainHostChar c) → splitHost special false (h ++ rest) = (h, rest)
  | [], _ => by simpa using hr
  | c :: h, hh => by
    have hc := hh c List.mem_cons_self
    have hin : (if c == '[' then true else if c == ']' then false else false) = false := by
      simp [hc.ne_open]
    rw [List.cons_append, splitHost_cons _
      (by simp [hc.ne_colon, endsAuthority_of_special hc.not_ends]), hin,
      splitHost_plain hr (fun x hx => hh x (List.mem_cons_of_mem _ hx))]

/-- Inside brackets the host reader reads over colons. -/
theorem splitHost_inside {special : Bool} (rest : List Char) :
    ∀ {h : List Char}, (∀ c ∈ h, c ≠ '[' ∧ c ≠ ']' ∧ endsAuthority special c = false) →
      splitHost special true (h ++ rest) =
        (h ++ (splitHost special true rest).1, (splitHost special true rest).2)
  | [], _ => rfl
  | c :: h, hh => by
    obtain ⟨ho, hcl, he⟩ := hh c List.mem_cons_self
    have hin : (if c == '[' then true else if c == ']' then false else true) = true := by
      simp [ho, hcl]
    rw [List.cons_append, splitHost_cons _ (by simp [he]), hin,
      splitHost_inside rest (fun x hx => hh x (List.mem_cons_of_mem _ hx))]
    rfl

/-- The host reader reads a bracketed text whole. -/
theorem splitHost_bracketed {special : Bool} {rest : List Char}
    (hr : splitHost special false rest = ([], rest)) {x : List Char}
    (hx : ∀ c ∈ x, c ≠ '[' ∧ c ≠ ']' ∧ endsAuthority special c = false) :
    splitHost special false ('[' :: (x ++ [']']) ++ rest) = ('[' :: (x ++ [']']), rest) := by
  have hopen : splitHost special false ('[' :: (x ++ ']' :: rest)) =
      ('[' :: (splitHost special true (x ++ ']' :: rest)).1,
        (splitHost special true (x ++ ']' :: rest)).2) :=
    splitHost_cons _ (by cases special <;> decide)
  have hclose : splitHost special true (']' :: rest) = ([']'], rest) := by
    rw [splitHost_cons _ (by cases special <;> decide)]
    simp [hr]
  rw [List.cons_append, List.append_assoc, List.singleton_append, hopen, splitHost_inside _ hx,
    hclose]

/-! ## Hosts that read back -/

/-- What the reader uses of its IDNA step (see the module doc). -/
structure IdnaLaws (toAscii : List Char → Option String) : Prop where
  ascii : ∀ cs d, toAscii cs = some d → ∀ c ∈ d.toList, c.toNat < 0x80 ∧ deniedInHost c = false
  idempotent : ∀ cs d, toAscii cs = some d → toAscii d.toList = some d
  dotted : ∀ cs : List Char, (∀ c ∈ cs, c.isDigit ∨ c = '.') → toAscii cs = some (String.ofList cs)

@[simp] theorem Host.text_domain (d : String) : (Host.domain d).text = d := rfl

/-- A host that its text gives back: the host reader of a URL of the scheme's kind (`special`)
stops where the text ends, reads the host from it, and does not take it for a drive letter;
the text is visible and holds no `@` and nothing that ends an authority. -/
structure Host.ReadsBack (toAscii : List Char → Option String) (special : Bool) (h : Host) :
    Prop where
  visible : ∀ c ∈ h.text.toList, 0x20 < c.toNat
  ne_at : ∀ c ∈ h.text.toList, c ≠ '@'
  not_ends : ∀ c ∈ h.text.toList, endsAuthority special c = false
  split : ∀ rest, splitHost special false rest = ([], rest) →
    splitHost special false (h.text.toList ++ rest) = (h.text.toList, rest)
  nonempty : special = true → h.text.toList ≠ []
  parse : (if special then parseSpecialHost toAscii h.text.toList
    else parseOpaqueHost h.text.toList) = .ok h
  notDrive : isDriveLetter h.text = false

theorem isDriveLetter_of_plain {s : String} (h : ∀ c ∈ s.toList, PlainHostChar c) :
    isDriveLetter s = false := by
  unfold isDriveLetter
  split
  · rename_i d c hs
    have hc := h c (by simp [hs])
    simp [hc.ne_colon, hc.ne_bar]
  · rfl

/-- A host written in plain host characters reads back as soon as its reader returns it. -/
theorem Host.ReadsBack.of_plain {toAscii : List Char → Option String} {special : Bool} {h : Host}
    (hc : ∀ c ∈ h.text.toList, PlainHostChar c) (hne : special = true → h.text.toList ≠ [])
    (hp : (if special then parseSpecialHost toAscii h.text.toList
      else parseOpaqueHost h.text.toList) = .ok h) :
    h.ReadsBack toAscii special where
  visible c hm := (hc c hm).visible
  ne_at c hm := (hc c hm).ne_at
  not_ends c hm := endsAuthority_of_special (hc c hm).not_ends special
  split _ hr := splitHost_plain hr hc
  nonempty := hne
  parse := hp
  notDrive := isDriveLetter_of_plain hc

theorem text_ipv6_toList (g : List Nat) :
    (Host.ipv6 g).text.toList = '[' :: ((ipv6Text g).toList ++ [']']) := by
  simp [Host.text, String.toList_append]

theorem bracketedHost_ipv6Text {g : List Nat} (hlen : g.length = 8) (hlt : ∀ x ∈ g, x < 65536) :
    bracketedHost ('[' :: ((ipv6Text g).toList ++ [']'])) = .ok (.ipv6 g) := by
  have hlast : ('[' :: ((ipv6Text g).toList ++ [']'])).getLast? = some ']' := by
    rw [← List.cons_append, List.getLast?_concat]
  simp [bracketedHost, hlast, parseIpv6_ipv6Text hlen hlt]

/-- An address of eight 16-bit groups reads back, in a URL of either kind. -/
theorem readsBack_ipv6 {toAscii : List Char → Option String} {special : Bool} {g : List Nat}
    (hlen : g.length = 8) (hlt : ∀ x ∈ g, x < 65536) : (Host.ipv6 g).ReadsBack toAscii special := by
  have hdig : ∀ k < 16, 0x20 < (Nat.digitChar k).toNat ∧ Nat.digitChar k ≠ '@' ∧
      Nat.digitChar k ≠ '[' ∧ Nat.digitChar k ≠ ']' ∧ endsAuthority true (Nat.digitChar k) = false := by
    decide
  -- the characters inside the brackets: digits and colons
  have hin : ∀ c ∈ (ipv6Text g).toList, 0x20 < c.toNat ∧ c ≠ '@' ∧ c ≠ '[' ∧ c ≠ ']' ∧
      endsAuthority special c = false := by
    intro c hc
    rcases mem_ipv6Text hc with rfl | ⟨k, hk, rfl⟩
    · cases special <;> decide
    · obtain ⟨h1, h2, h3, h4, h5⟩ := hdig k hk
      exact ⟨h1, h2, h3, h4, endsAuthority_of_special h5 special⟩
  have hall : ∀ c ∈ (Host.ipv6 g).text.toList, 0x20 < c.toNat ∧ c ≠ '@' ∧
      endsAuthority special c = false := by
    intro c hc
    rw [text_ipv6_toList] at hc
    simp only [List.mem_cons, List.mem_append, List.not_mem_nil, or_false] at hc
    rcases hc with rfl | hc | rfl
    · cases special <;> decide
    · obtain ⟨h1, h2, -, -, h5⟩ := hin c hc
      exact ⟨h1, h2, h5⟩
    · cases special <;> decide
  refine ⟨fun c hc => (hall c hc).1, fun c hc => (hall c hc).2.1, fun c hc => (hall c hc).2.2,
    fun rest hr => ?_, fun _ => by simp [text_ipv6_toList], ?_, ?_⟩
  · rw [text_ipv6_toList]
    exact splitHost_bracketed hr fun c hc => ⟨(hin c hc).2.2.1, (hin c hc).2.2.2⟩
  · rw [text_ipv6_toList]
    cases special <;> simp [parseSpecialHost, parseOpaqueHost, bracketedHost_ipv6Text hlen hlt]
  · unfold isDriveLetter
    rw [text_ipv6_toList]
    split
    · rename_i d c hs
      simp only [List.cons.injEq] at hs
      rw [← hs.1]
      rfl
    · rfl

theorem deniedInHost_digit {c : Char} (h : c.isDigit ∨ c = '.') : deniedInHost c = false := by
  rcases h with h | rfl
  · have := (isDigit_iff c).1 h
    simp [deniedInHost]
    refine ⟨by omega, ?_⟩
    repeat' constructor
    all_goals rintro rfl; simp at this
  · decide

/-- A special host in ASCII, without `%` and not bracketed, goes to the IDNA step as it is. -/
theorem parseSpecialHost_ascii {toAscii : List Char → Option String} {cs : List Char}
    (hc : ∀ c ∈ cs, c.toNat < 0x80 ∧ deniedInHost c = false) :
    parseSpecialHost toAscii cs =
      match toAscii cs with
      | none => .error .idnaError
      | some d =>
        if d.isEmpty then .error .emptyHost
        else if endsInNumber d.toList then
          match parseIpv4 d.toList with
          | some a => .ok (.ipv4 a)
          | none => .error .invalidIpv4Address
        else .ok (.domain d) := by
  have hpct : ∀ c ∈ cs, c.toNat < 0x80 ∧ c ≠ '%' := fun c hm =>
    ⟨(hc c hm).1, fun he => by have := (hc c hm).2; rw [he] at this; exact absurd this (by decide)⟩
  -- the unfolding leaves the side condition that the host is not bracketed
  rw [parseSpecialHost, hostBytes_ascii hpct]
  · dsimp only
    rewrite [String.toList_ofList]
    rfl
  intro t he
  exact absurd (hc '[' (he ▸ List.mem_cons_self)).2 (by decide)

/-- A 32-bit address reads back through the IDNA step, which keeps its digits and dots. -/
theorem readsBack_ipv4 {toAscii : List Char → Option String} (hl : IdnaLaws toAscii) {a : Nat}
    (ha : a < 2 ^ 32) : (Host.ipv4 a).ReadsBack toAscii true := by
  have hchar : ∀ c ∈ (ipv4Text a).toList, c.isDigit ∨ c = '.' := fun c hc => mem_ipv4Text hc
  have hne : (ipv4Text a).toList ≠ [] := by
    rw [ipv4Text_toList]
    simp [List.intercalate_cons_cons, Nat.toDigits_ne_nil]
  refine .of_plain (fun c hc => plainHostChar_of_denied (deniedInHost_digit (hchar c hc)))
    (fun _ => hne) ?_
  rw [if_pos rfl]
  show parseSpecialHost toAscii (ipv4Text a).toList = .ok (.ipv4 a)
  rw [parseSpecialHost_ascii fun c hc => ⟨?_, deniedInHost_digit (hchar c hc)⟩,
    hl.dotted _ hchar, String.ofList_toList]
  · have hempty : (ipv4Text a).isEmpty = false := by
      simpa [String.isEmpty_iff, ← String.toList_eq_nil_iff] using hne
    simp [hempty, endsInNumber_ipv4Text, parseIpv4_ipv4Text ha]
  · rcases hchar c hc with h | rfl
    · have := (isDigit_iff c).1 h
      omega
    · decide

/-- A domain the IDNA step returned reads back, unless it is empty or ends in a number. -/
theorem readsBack_domain {toAscii : List Char → Option String} (hl : IdnaLaws toAscii)
    {cs : List Char} {d : String} (hd : toAscii cs = some d) (hne : d.isEmpty = false)
    (hnum : endsInNumber d.toList = false) : (Host.domain d).ReadsBack toAscii true := by
  have hchar := hl.ascii cs d hd
  refine .of_plain (fun c hc => plainHostChar_of_denied (hchar c hc).2)
    (fun _ => by simpa [String.isEmpty_iff, ← String.toList_eq_nil_iff] using hne) ?_
  rw [if_pos rfl, Host.text_domain, parseSpecialHost_ascii hchar, hl.idempotent cs d hd]
  simp [hne, hnum]

/-- The encoded text of an opaque host without forbidden characters reads back. -/
theorem readsBack_opaque {toAscii : List Char → Option String} {cs : List Char}
    (hcs : cs.any forbiddenInHost = false) :
    (Host.domain (String.ofList (encode .controls cs))).ReadsBack toAscii false := by
  have hdig : ∀ n < 16, forbiddenInHost (upperHexDigit n) = false := by decide
  -- every character written is one of the host's, or part of an escape
  have hforb : ∀ c ∈ encode .controls cs, forbiddenInHost c = false := by
    intro c hc
    rcases mem_encode hc with hm | rfl | ⟨n, hn, rfl⟩
    · simpa using (List.any_eq_false.1 hcs) c hm
    · decide
    · exact hdig n hn
  have hchar : ∀ c ∈ encode .controls cs, PlainHostChar c := fun c hc =>
    plainHostChar_of_forbidden (hforb c hc) (keeps_of_mem_encode keepsEscapes_controls hc).1
  refine .of_plain (by simpa using hchar) (fun h => by cases h) ?_
  rw [if_neg (by decide), Host.text_domain, String.toList_ofList, parseOpaqueHost,
    if_neg (by simpa using hforb), encode_encode keepsEscapes_controls]
  intro t he
  exact (hchar '[' (he ▸ List.mem_cons_self)).ne_open rfl

theorem readsBack_of_bracketedHost {toAscii : List Char → Option String} {cs : List Char}
    {h : Host} (hb : bracketedHost cs = .ok h) (special : Bool) : h.ReadsBack toAscii special := by
  unfold bracketedHost at hb
  split at hb
  · cases hb
  · split at hb
    · rename_i g hg
      cases hb
      obtain ⟨hlen, hlt⟩ := parseIpv6_valid hg
      exact readsBack_ipv6 hlen hlt
    · cases hb

/-- Every host the reader of a special scheme returns reads back from its text. -/
theorem readsBack_of_parseSpecialHost {toAscii : List Char → Option String}
    (hl : IdnaLaws toAscii) {cs : List Char} {h : Host} (hp : parseSpecialHost toAscii cs = .ok h) :
    h.ReadsBack toAscii true := by
  unfold parseSpecialHost at hp
  split at hp
  · exact readsBack_of_bracketedHost hp true
  · dsimp only at hp
    split at hp
    · cases hp
    · split at hp
      · cases hp
      · rename_i d hd
        split at hp
        · cases hp
        · rename_i hne
          split at hp
          · split at hp
            · rename_i a ha
              cases hp
              exact readsBack_ipv4 hl (parseIpv4_lt ha)
            · cases hp
          · rename_i hnum
            cases hp
            exact readsBack_domain hl hd (by simpa using hne) (by simpa using hnum)

/-- Every host the reader of another scheme returns reads back from its text. -/
theorem readsBack_of_parseOpaqueHost {toAscii : List Char → Option String} {cs : List Char}
    {h : Host} (hp : parseOpaqueHost cs = .ok h) : h.ReadsBack toAscii false := by
  unfold parseOpaqueHost at hp
  split at hp
  · exact readsBack_of_bracketedHost hp false
  · split at hp
    · cases hp
    · rename_i hany
      cases hp
      exact readsBack_opaque (by simpa using hany)

end HandlePool.Url
