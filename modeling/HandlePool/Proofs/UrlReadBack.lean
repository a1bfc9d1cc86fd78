import HandlePool.Proofs.ParsedUrl
/-!
# Reading the text of a URL again

The text a URL is written as, read again, gives back the URL's scheme and authority: the same
credentials, host and port. The one exception is a file URL whose path starts with a drive
letter: read again, the drive letter takes the place of the host, which comes back empty. The
reader drops the host itself when the drive letter is the first segment it reads, but not when
empty segments come before it and are trimmed only at the end (`file://[::1]//C:/x` is written
`file://[::1]/C:/x`, read again as a file URL with the empty host).

The text is taken apart as the scheme, `//` and the authority when there is a host, and the
path, query and fragment after it (`Url.tailText`). Each form of URL the reader returns
(`Url.Parsed`) is then read again on its own:

* `Url.AuthorityForm.reread`: a URL read with an authority, through the reader's own steps
  (`parseWithAuthority_of`), each given the written part it reads;
* `Url.FileForm.reread`: a file URL, whose first path segment decides whether the host stays
  (`readPath_dropsHost`);
* `Url.BareForm.reread`: a URL without an authority, whose text after the scheme never starts
  with `//`.

`Url.Parsed.reread` puts the three together.
-/

namespace HandlePool.Url
open EncodeSet

variable {toAscii : List Char → Option String} {u : Url}

/-! ## The text of a URL, in parts -/

/-- The port as written after the host, with its colon. -/
def portText : Option Nat → List Char
  | some p => ':' :: (toString p).toList
  | none => []

/-- The query and the fragment as written, each after its mark. -/
def queryText (u : Url) : List Char :=
  (match u.query with | some q => '?' :: q.toList | none => []) ++
    (match u.fragment with | some f => '#' :: f.toList | none => [])

/-- What a URL's text holds after its authority: the path, the query and the fragment. -/
def tailText (u : Url) : List Char := u.pathText.toList ++ u.queryText

theorem serialize_toList_some {h : Host} (hh : u.host = some h) :
    u.serialize.toList = u.scheme.toList ++ ':' :: '/' :: '/' ::
      (u.userinfoText.toList ++ (h.text.toList ++ (portText u.port ++ u.tailText))) := by
  simp only [Url.serialize, hh, Url.tailText, Url.queryText]
  cases u.port <;> cases u.query <;> cases u.fragment <;> simp [portText]

theorem serialize_toList_none (hh : u.host = none) :
    u.serialize.toList = u.scheme.toList ++ ':' :: u.tailText := by
  simp only [Url.serialize, hh, Url.tailText, Url.queryText]
  cases u.query <;> cases u.fragment <;> simp

/-- With a host, the path is written as its segments, each after a slash. -/
theorem pathText_toList_of_host {segs : List String} (hh : u.host.isSome)
    (hp : u.path = .segments segs) :
    u.pathText.toList = (segs.map fun s => '/' :: s.toList).flatten := by
  obtain ⟨h, hh⟩ := Option.isSome_iff_exists.1 hh
  simp [Url.pathText, hp, hh, String.toList_join, List.flatMap_def, Function.comp_def]

/-- Where a character of the path's text comes from: a separator, the `.` written before a
first empty segment when there is no host, a segment, or the opaque text. -/
theorem mem_pathText {c : Char} (h : c ∈ u.pathText.toList) :
    c = '/' ∨ c = '.' ∨ (∃ segs, u.path = .segments segs ∧ ∃ s ∈ segs, c ∈ s.toList) ∨
      ∃ t, u.path = .plain t ∧ c ∈ t.toList := by
  unfold Url.pathText at h
  split at h
  · rename_i t ht
    exact Or.inr (Or.inr (Or.inr ⟨t, ht, h⟩))
  · rename_i segs hp
    rw [String.toList_append, List.mem_append] at h
    rcases h with h | h
    · -- the lead is `/.` or nothing
      split at h
      · rw [show "/.".toList = ['/', '.'] by decide, List.mem_pair] at h
        exact h.elim Or.inl (fun h => Or.inr (Or.inl h))
      · cases h
    · simp only [String.toList_join, List.mem_flatMap, List.mem_map] at h
      obtain ⟨_, ⟨s, hs, rfl⟩, hc⟩ := h
      rw [String.toList_append, List.mem_append] at hc
      rcases hc with hc | hc
      · exact Or.inl (by simpa using hc)
      · exact Or.inr (Or.inr (Or.inl ⟨segs, hp, s, hs, hc⟩))

theorem queryText_head (u : Url) :
    u.queryText = [] ∨ ∃ c r, u.queryText = c :: r ∧ (c = '?' ∨ c = '#') := by
  unfold Url.queryText
  cases u.query with
  | some q => exact Or.inr ⟨'?', _, rfl, Or.inl rfl⟩
  | none =>
    cases u.fragment with
    | some f => exact Or.inr ⟨'#', _, rfl, Or.inr rfl⟩
    | none => exact Or.inl rfl

theorem mem_queryText {c : Char} (h : c ∈ u.queryText) :
    c = '?' ∨ c = '#' ∨ (∃ q, u.query = some q ∧ c ∈ q.toList) ∨
      ∃ f, u.fragment = some f ∧ c ∈ f.toList := by
  unfold Url.queryText at h
  rw [List.mem_append] at h
  rcases h with h | h
  · split at h
    · rename_i q hq
      rcases List.mem_cons.1 h with h | h
      · exact Or.inl h
      · exact Or.inr (Or.inr (Or.inl ⟨q, hq, h⟩))
    · cases h
  · split at h
    · rename_i f hf
      rcases List.mem_cons.1 h with h | h
      · exact Or.inr (Or.inl h)
      · exact Or.inr (Or.inr (Or.inr ⟨f, hf, h⟩))
    · cases h

/-! ## Characters of the text -/

/-- The path of a URL the reader returns is made of proper segments, or is an opaque text
written with the control set. -/
theorem Parsed.path_cases (hu : u.Parsed toAscii) :
    (∃ special segs, u.path = .segments segs ∧ ∀ s ∈ segs, Segment special s) ∨
      ∃ t, u.path = .plain t ∧ Written .controls t := by
  rcases hu.form with hf | ha | hb
  · obtain ⟨segs, hp, -, hs⟩ := hf.path
    exact Or.inl ⟨true, segs, hp, hs⟩
  · obtain ⟨segs, hp, hs⟩ := ha.path
    exact Or.inl ⟨_, segs, hp, hs⟩
  · rcases hb.path with ⟨segs, hp, hs⟩ | ⟨t, hp, ht, -⟩
    · exact Or.inl ⟨false, segs, hp, hs⟩
    · exact Or.inr ⟨t, hp, ht⟩

theorem Parsed.segments_written
    (hu : u.Parsed toAscii) {segs : List String} (hp : u.path = .segments segs) :
    ∀ s ∈ segs, Written .path s := by
  rcases hu.path_cases with ⟨special, segs', hp', hs⟩ | ⟨t, hp', -⟩
  · rw [hp] at hp'
    cases hp'
    exact fun s h => (hs s h).written
  · rw [hp] at hp'
    cases hp'

theorem Parsed.plain_written
    (hu : u.Parsed toAscii) {t : String} (hp : u.path = .plain t) : Written .controls t := by
  rcases hu.path_cases with ⟨special, segs, hp', -⟩ | ⟨t', hp', ht⟩
  · rw [hp] at hp'
    cases hp'
  · rw [hp] at hp'
    cases hp'
    exact ht

/-- Every character after the authority is visible, except for the spaces that an opaque
path may hold. -/
theorem Parsed.visible_of_mem_tailText
    (hu : u.Parsed toAscii) {c : Char} (hc : c ∈ u.tailText) :
    (∃ t, u.path = .plain t ∧ c ∈ t.toList) ∨ 0x20 < c.toNat := by
  rcases List.mem_append.1 hc with hc | hc
  · rcases mem_pathText hc with rfl | rfl | ⟨segs, hp, s, hs, hc⟩ | hplain
    · exact Or.inr (by decide)
    · exact Or.inr (by decide)
    · exact Or.inr ((hu.segments_written hp s hs c hc).space_lt (by decide))
    · exact Or.inl hplain
  · refine Or.inr ?_
    rcases mem_queryText hc with rfl | rfl | ⟨q, hq, hc⟩ | ⟨f, hf, hc⟩
    · decide
    · decide
    · refine (hu.query q hq c hc).space_lt ?_
      split <;> decide
    · exact (hu.fragment f hf c hc).space_lt (by decide)

theorem Parsed.tailText_le (hu : u.Parsed toAscii) : ∀ c ∈ u.tailText, 0x20 ≤ c.toNat := by
  intro c hc
  rcases hu.visible_of_mem_tailText hc with ⟨t, hp, hct⟩ | hlt
  · exact (hu.plain_written hp c hct).1
  · exact Nat.le_of_lt hlt

theorem Parsed.tailText_lt
    (hu : u.Parsed toAscii) {segs : List String} (hp : u.path = .segments segs) :
    ∀ c ∈ u.tailText, 0x20 < c.toNat := by
  intro c hc
  rcases hu.visible_of_mem_tailText hc with ⟨t, hp', -⟩ | hlt
  · rw [hp] at hp'
    cases hp'
  · exact hlt

theorem userinfoText_visible (hu : Written .userinfo u.username)
    (hp : Written .userinfo u.password) :
    ∀ c ∈ u.userinfoText.toList, 0x20 < c.toNat ∧ isSlash c = false := by
  have hkept : ∀ c, userinfo.Keeps c → 0x20 < c.toNat ∧ isSlash c = false := fun c hc => by
    have hends := hc.endsAuthority_userinfo true
    simp only [endsAuthority, Bool.or_eq_false_iff, beq_eq_false_iff_ne, Bool.true_and] at hends
    exact ⟨hc.space_lt (by decide), by simp [isSlash, hends.1.1.1, hends.2]⟩
  intro c hc
  by_cases hboth : u.username.isEmpty && u.password.isEmpty
  · rw [Url.userinfoText, if_pos hboth] at hc
    cases hc
  · rw [userinfoText_toList u hboth, List.mem_append, List.mem_append] at hc
    rcases hc with (hc | hc) | hc
    · exact hkept c (hu c hc)
    · split at hc
      · cases hc
      · rcases List.mem_cons.1 hc with rfl | hc
        · decide
        · exact hkept c (hp c hc)
    · rw [List.mem_singleton.1 hc]
      decide

theorem mem_portText {port : Option Nat} {c : Char} (h : c ∈ portText port) :
    c = ':' ∨ c.isDigit := by
  cases port with
  | none => cases h
  | some p =>
    rcases List.mem_cons.1 h with rfl | h
    · exact Or.inl rfl
    · rw [Nat.toString_eq_repr, Nat.toList_repr] at h
      exact Or.inr (Nat.isDigit_of_mem_toDigits (by decide) (by decide) h)

theorem schemeText_visible {sc : String} (h : SchemeText sc) : ∀ c ∈ sc.toList, 0x20 < c.toNat := by
  intro c hc
  have hs := h.isSchemeChar c hc
  simp only [isSchemeChar, Char.isAlphanum, Char.isAlpha, Bool.or_eq_true, beq_iff_eq,
    isUpper_iff, isLower_iff, isDigit_iff] at hs
  rcases hs with ((((hs | hs) | hs) | rfl) | rfl) | rfl
  · omega
  · omega
  · omega
  all_goals decide

theorem isDigit_visible {c : Char} (hd : c.isDigit) : 0x20 < c.toNat := by
  have := (isDigit_iff c).1 hd
  omega

theorem isDigit_inside_authority {c : Char} (hd : c.isDigit) (special : Bool) :
    c ≠ '@' ∧ endsAuthority special c = false := by
  have hn := (isDigit_iff c).1 hd
  have hne : c ≠ '@' ∧ c ≠ '/' ∧ c ≠ '?' ∧ c ≠ '#' ∧ c ≠ '\\' := by
    refine ⟨?_, ?_, ?_, ?_, ?_⟩ <;> rintro rfl <;> exact absurd hn (by decide)
  exact ⟨hne.1, by simp [endsAuthority, hne.2.1, hne.2.2.1, hne.2.2.2.1, hne.2.2.2.2]⟩

theorem clean_of_visible {s : String} (hne : s.toList ≠ []) (h : ∀ c ∈ s.toList, 0x20 < c.toNat) :
    clean s = s.toList := by
  have := clean_append h hne (b := []) (fun c hc => by cases hc)
  rw [List.append_nil, String.ofList_toList] at this
  simpa using this

/-- With a host, every character of a URL's text is visible, so the reader takes all of it. -/
theorem Parsed.clean_serialize
    (hu : u.Parsed toAscii) {h : Host} (hh : u.host = some h) (huser : Written .userinfo u.username)
    (hpass : Written .userinfo u.password) (hvis : ∀ c ∈ h.text.toList, 0x20 < c.toNat)
    {segs : List String} (hp : u.path = .segments segs) :
    clean u.serialize = u.serialize.toList := by
  apply clean_of_visible (by simp [serialize_toList_some hh])
  rw [serialize_toList_some hh]
  intro c hc
  simp only [List.mem_append, List.mem_cons] at hc
  rcases hc with hc | rfl | rfl | rfl | hc | hc | hc | hc
  · exact schemeText_visible hu.scheme c hc
  · decide
  · decide
  · decide
  · exact (userinfoText_visible huser hpass c hc).1
  · exact hvis c hc
  · rcases mem_portText hc with rfl | hd
    · decide
    · exact isDigit_visible hd
  · exact hu.tailText_lt hp c hc

/-! ## Where the authority ends -/

/-- Text that starts where an authority ends: nothing, or a path, a query or a fragment. -/
def AfterAuthority (cs : List Char) : Prop :=
  cs = [] ∨ ∃ c r, cs = c :: r ∧ (c = '/' ∨ c = '?' ∨ c = '#')

theorem tailText_afterAuthority (hh : u.host.isSome) {segs : List String}
    (hp : u.path = .segments segs) : AfterAuthority u.tailText := by
  unfold Url.tailText
  rw [pathText_toList_of_host hh hp]
  cases segs with
  | cons s ss => exact Or.inr ⟨'/', _, rfl, Or.inl rfl⟩
  | nil =>
    rw [List.map_nil, List.flatten_nil, List.nil_append]
    rcases queryText_head u with h | ⟨c, r, h, hc⟩
    · exact Or.inl h
    · exact Or.inr ⟨c, r, h, Or.inr hc⟩

theorem AfterAuthority.takeWhile_eq_nil {cs : List Char} (h : AfterAuthority cs) {p : Char → Bool}
    (hp : p '/' = false ∧ p '?' = false ∧ p '#' = false) : cs.takeWhile p = [] := by
  rcases h with rfl | ⟨c, r, rfl, hc⟩
  · rfl
  · rw [List.takeWhile_cons_of_neg]
    rcases hc with rfl | rfl | rfl <;> simp [hp]

theorem AfterAuthority.head_ne_colon {cs : List Char} (h : AfterAuthority cs) :
    cs.head? ≠ some ':' := by
  rcases h with rfl | ⟨c, r, rfl, hc⟩
  · simp
  · rcases hc with rfl | rfl | rfl <;> simp

theorem AfterAuthority.ends {cs : List Char} (h : AfterAuthority cs) (special : Bool) :
    cs = [] ∨ ∃ c r, cs = c :: r ∧ (c = ':' ∨ endsAuthority special c = true) := by
  rcases h with rfl | ⟨c, r, rfl, hc⟩
  · exact Or.inl rfl
  · refine Or.inr ⟨c, r, rfl, Or.inr ?_⟩
    rcases hc with rfl | rfl | rfl <;> simp [endsAuthority]

theorem AfterAuthority.endsPort {cs : List Char} (h : AfterAuthority cs) :
    cs = [] ∨ ∃ c r, cs = c :: r ∧ (c == '/' || c == '\\' || c == '?' || c == '#') := by
  rcases h with rfl | ⟨c, r, rfl, hc⟩
  · exact Or.inl rfl
  · refine Or.inr ⟨c, r, rfl, ?_⟩
    rcases hc with rfl | rfl | rfl <;> decide

/-! ## URLs with an authority read again -/

/-- A port as written, before the end of the authority, is read back: a URL keeps no default
port. -/
theorem portAfterHost_portText {scheme : String} {port : Option Nat} {cs : List Char}
    (hp : ∀ p, port = some p → p ≤ 65535 ∧ defaultPort scheme ≠ some p) (h : AfterAuthority cs) :
    portAfterHost scheme (portText port ++ cs) = .ok (port, cs) := by
  cases port with
  | none => exact portAfterHost_of_head h.head_ne_colon
  | some p =>
    obtain ⟨hle, hdef⟩ := hp p rfl
    have hne : (some p == defaultPort scheme) = false := by
      rw [beq_eq_false_iff_ne]
      exact fun he => hdef he.symm
    rw [portText, List.cons_append, portAfterHost, parsePort_toDigits hle h.endsPort, ok_bind]
    dsimp only
    rw [hne]
    rfl

theorem splitHost_portText {special : Bool} (port : Option Nat) {cs : List Char}
    (h : AfterAuthority cs) :
    splitHost special false (portText port ++ cs) = ([], portText port ++ cs) := by
  apply splitHost_stop
  cases port with
  | none => exact h.ends special
  | some p => exact Or.inr ⟨':', _, rfl, Or.inl rfl⟩

/-- No `@` stands between a host that reads back and the end of the authority. -/
theorem at_not_mem_authority {special : Bool} {h : Host}
    (hrb : h.ReadsBack toAscii special) (port : Option Nat) {cs : List Char}
    (hc : AfterAuthority cs) :
    '@' ∉ (h.text.toList ++ (portText port ++ cs)).takeWhile (!endsAuthority special ·) := by
  have hport : ∀ c ∈ portText port, c ≠ '@' ∧ endsAuthority special c = false := by
    intro c hc
    rcases mem_portText hc with rfl | hd
    · exact ⟨by decide, by simp [endsAuthority]⟩
    · exact isDigit_inside_authority hd special
  rw [List.takeWhile_append_of_pos (fun c hc => by simp [hrb.not_ends c hc]),
    List.takeWhile_append_of_pos (fun c hc => by simp [(hport c hc).2]),
    hc.takeWhile_eq_nil (by simp [endsAuthority]), List.append_nil, List.mem_append]
  rintro (hm | hm)
  · exact hrb.ne_at _ hm rfl
  · exact (hport _ hm).1 rfl

/-- The authority of a URL read with one is read back, as written, with the same credentials,
host and port. -/
theorem parseWithAuthority_authorityForm
    (ha : u.AuthorityForm toAscii) {h : Host} (hh : u.host = some h) {cs : List Char}
    (hc : AfterAuthority cs) :
    ∃ w, parseWithAuthority toAscii u.scheme (isSpecial u.scheme)
        (u.userinfoText.toList ++ (h.text.toList ++ (portText u.port ++ cs))) = .ok w ∧
      w.scheme = u.scheme ∧ w.username = u.username ∧ w.host = u.host ∧ w.port = u.port := by
  obtain ⟨h', hh', hrb⟩ := ha.host
  rw [hh, Option.some.injEq] at hh'
  subst hh'
  have hsplit := splitUserinfo_written ha.username ha.password (at_not_mem_authority hrb u.port hc)
  have hhost := hrb.split _ (splitHost_portText u.port hc)
  have hport : portAfterHost u.scheme
      (splitHost (isSpecial u.scheme) false (h.text.toList ++ (portText u.port ++ cs))).2 =
        .ok (u.port, cs) := by
    rw [hhost]
    exact portAfterHost_portText ha.port hc
  refine ⟨_, parseWithAuthority_of hsplit ?_ ?_ ?_ hport, rfl, rfl, hh.symm, rfl⟩
  · rw [hhost]
    exact hrb.nonempty
  · rw [hhost]
    exact hrb.parse
  · intro he
    obtain ⟨hu, hp, hnone⟩ := ha.empty (by rw [hh, he])
    rw [hhost, hnone]
    exact ⟨hc.head_ne_colon, hu, hp⟩

theorem isSlash_of_endsAuthority {c : Char} (h : endsAuthority true c = false) :
    isSlash c = false := by
  simp only [endsAuthority, Bool.or_eq_false_iff, Bool.true_and] at h
  simp [isSlash, h.1.1.1, h.2]

/-- After `scheme://` the reader reads an authority, whether or not the scheme is special: for a
special one, once the slashes are skipped. -/
theorem parseWith_authority {input sc : String}
    {R : List Char} (hsc : SchemeText sc) (hfile : sc ≠ "file")
    (h : clean input = sc.toList ++ ':' :: '/' :: '/' :: R)
    (hR : isSpecial sc = true → ∃ c r, R = c :: r ∧ isSlash c = false) :
    parseWith toAscii input = parseWithAuthority toAscii sc (isSpecial sc) R := by
  rw [parseWith, h, splitScheme_append hsc]
  dsimp only
  rw [if_neg (by simpa using hfile)]
  cases hs : isSpecial sc
  · rfl
  · obtain ⟨c, r, rfl, hc⟩ := hR hs
    rw [if_pos rfl, List.dropWhile_cons_of_pos (by decide), List.dropWhile_cons_of_pos (by decide),
      List.dropWhile_cons_of_neg (by simp [hc])]

/-- A URL read with an authority is read back from its text with the same scheme, credentials,
host and port. -/
theorem AuthorityForm.reread (hu : u.Parsed toAscii) (ha : u.AuthorityForm toAscii) :
    ∃ w, parseWith toAscii u.serialize = .ok w ∧ w.scheme = u.scheme ∧
      w.username = u.username ∧ w.host = u.host ∧ w.port = u.port := by
  obtain ⟨h, hh, hrb⟩ := ha.host
  obtain ⟨segs, hp, -⟩ := ha.path
  have htail := tailText_afterAuthority (by simp [hh]) hp
  have hclean := (hu.clean_serialize hh ha.username ha.password hrb.visible hp).trans
    (serialize_toList_some hh)
  rw [parseWith_authority hu.scheme ha.not_file hclean ?_]
  · exact parseWithAuthority_authorityForm ha hh htail
  · -- a special scheme has a host, so the credentials or the host come first: no slash
    intro hs
    have hne : u.userinfoText.toList ++ h.text.toList ≠ [] := by
      simp [hrb.nonempty hs]
    obtain ⟨c, r, hcr⟩ := List.exists_cons_of_ne_nil hne
    refine ⟨c, r ++ (portText u.port ++ u.tailText), ?_, ?_⟩
    · rw [← List.append_assoc, hcr, List.cons_append]
    · rcases List.mem_append.1 (hcr ▸ List.mem_cons_self : c ∈ _) with hc | hc
      · exact (userinfoText_visible ha.username ha.password c hc).2
      · exact isSlash_of_endsAuthority (hs ▸ hrb.not_ends c hc)

/-! ## Paths read again -/

theorem rawSegments_append_slash {special : Bool} {a : List Char}
    (ha : ∀ c ∈ a, c ≠ '/' ∧ (special = true → c ≠ '\\')) (b : List Char) :
    rawSegments special (a ++ '/' :: b) = a :: rawSegments special b := by
  induction a with
  | nil => rfl
  | cons x a ih =>
    have hx := ha x List.mem_cons_self
    rw [List.cons_append, rawSegments_cons, ih (fun c hc => ha c (List.mem_cons_of_mem x hc)),
      if_neg (by cases special <;> simp [hx.1, hx.2])]

theorem rawSegments_of_sepFree {special : Bool} {a : List Char}
    (ha : ∀ c ∈ a, c ≠ '/' ∧ (special = true → c ≠ '\\')) : rawSegments special a = [a] := by
  induction a with
  | nil => rfl
  | cons x a ih =>
    have hx := ha x List.mem_cons_self
    rw [rawSegments_cons, ih (fun c hc => ha c (List.mem_cons_of_mem x hc)),
      if_neg (by cases special <;> simp [hx.1, hx.2])]

/-- Segments joined by slashes are read back as the same segments. -/
theorem rawSegments_join {special : Bool} :
    ∀ (s : String) (ss : List String), (∀ x ∈ s :: ss, Segment special x) →
      rawSegments special (s.toList ++ (ss.map fun x => '/' :: x.toList).flatten) =
        (s :: ss).map String.toList
  | s, [], h => by
    rw [List.map_nil, List.flatten_nil, List.append_nil, rawSegments_of_sepFree (h s List.mem_cons_self).sep]
    rfl
  | s, t :: ss, h => by
    rw [List.map_cons, List.flatten_cons, List.cons_append,
      rawSegments_append_slash (h s List.mem_cons_self).sep,
      rawSegments_join t ss (fun x hx => h x (List.mem_cons_of_mem s hx))]
    rfl

/-- Once a path has a segment, a further proper segment is only appended to it. -/
theorem PathState.add_of_segs_ne_nil {file final : Bool} {st : PathState} {seg : String}
    (hne : st.segs ≠ []) (hs : isSingleDot seg = false) (hd : isDoubleDot seg = false) :
    st.add file seg final = { st with segs := st.segs ++ [seg] } := by
  have he : st.segs.isEmpty = false := by simpa using hne
  unfold PathState.add
  simp only [hd, hs, he, Bool.false_eq_true, if_false, Bool.and_false, Bool.false_and]

theorem PathState.add_first (final : Bool) {seg : String}
    (hs : isSingleDot seg = false) (hd : isDoubleDot seg = false) :
    ((⟨[], false⟩ : PathState).add true seg final).dropsHost = isDriveLetter seg ∧
      ((⟨[], false⟩ : PathState).add true seg final).segs ≠ [] := by
  unfold PathState.add
  simp only [hd, hs, Bool.false_eq_true, if_false, List.isEmpty_nil, Bool.true_and]
  by_cases hdl : isDriveLetter seg = true
  · rw [if_pos hdl]
    exact ⟨hdl.symm, List.cons_ne_nil _ _⟩
  · rw [if_neg hdl, Bool.eq_false_iff.2 hdl]
    exact ⟨rfl, by simp⟩

theorem foldl_add_keeps {file : Bool} {final : List Char × Nat → Bool} :
    ∀ (l : List (List Char × Nat)) (st : PathState), st.segs ≠ [] →
      (∀ p ∈ l, isSingleDot (String.ofList (encode .path p.1)) = false ∧
        isDoubleDot (String.ofList (encode .path p.1)) = false) →
      (l.foldl (fun st x => st.add file (String.ofList (encode .path x.1)) (final x)) st).dropsHost =
        st.dropsHost
  | [], _, _, _ => rfl
  | p :: l, st, hne, hl => by
    have hp := hl p List.mem_cons_self
    rw [List.foldl_cons, PathState.add_of_segs_ne_nil hne hp.1 hp.2]
    exact foldl_add_keeps l _ (by simp) (fun q hq => hl q (List.mem_cons_of_mem p hq))

theorem Written.path_ne {s : String} (h : Written .path s) :
    ∀ c ∈ s.toList, c ≠ '?' ∧ c ≠ '#' := by
  intro c hc
  have hx := (h c hc).2.2
  refine ⟨fun he => hx ?_, fun he => hx ?_⟩ <;> subst he <;> decide

/-- Read again, the segments of a file path drop the host exactly when the first is a drive
letter. -/
theorem readPath_dropsHost {s : String} {ss : List String} (hseg : ∀ x ∈ s :: ss, Segment true x)
    {rest : List Char} (hrest : rest = [] ∨ ∃ c r, rest = c :: r ∧ (c = '?' ∨ c = '#')) :
    (readPath true true ⟨[], false⟩
      (s.toList ++ ((ss.map fun x => '/' :: x.toList).flatten ++ rest))).1.dropsHost =
      isDriveLetter s := by
  have hchars : ∀ c ∈ s.toList ++ (ss.map fun x => '/' :: x.toList).flatten,
      (c != '?' && c != '#') = true := by
    intro c hc
    have hne : c ≠ '?' ∧ c ≠ '#' := by
      simp only [List.mem_append, List.mem_flatten, List.mem_map] at hc
      rcases hc with hc | ⟨_, ⟨x, hx, rfl⟩, hc⟩
      · exact (hseg s List.mem_cons_self).written.path_ne c hc
      · rcases List.mem_cons.1 hc with rfl | hc
        · decide
        · exact (hseg x (List.mem_cons_of_mem s hx)).written.path_ne c hc
    simp [hne.1, hne.2]
  have hstop : rest.takeWhile (fun c => c != '?' && c != '#') = [] := by
    rcases hrest with rfl | ⟨c, r, rfl, hc⟩
    · rfl
    · rw [List.takeWhile_cons_of_neg]
      rcases hc with rfl | rfl <;> decide
  have htake : (s.toList ++ ((ss.map fun x => '/' :: x.toList).flatten ++ rest)).takeWhile
      (fun c => c != '?' && c != '#') = s.toList ++ (ss.map fun x => '/' :: x.toList).flatten := by
    rw [← List.append_assoc, List.takeWhile_append_of_pos hchars, hstop, List.append_nil]
  unfold readPath
  dsimp only
  rw [htake, rawSegments_join s ss hseg, List.map_cons, List.zipIdx_cons, List.foldl_cons]
  dsimp only
  rw [(hseg s List.mem_cons_self).written.encode_eq, String.ofList_toList]
  -- the first segment decides; the others are only appended
  have h1 := (hseg s List.mem_cons_self).single
  have h2 := (hseg s List.mem_cons_self).double
  rw [foldl_add_keeps _ _ (PathState.add_first _ h1 h2).2, (PathState.add_first _ h1 h2).1]
  intro p hp
  obtain ⟨x, hx, hpx⟩ := List.mem_map.1 (List.fst_mem_of_mem_zipIdx hp)
  have hxs := hseg x (List.mem_cons_of_mem s hx)
  rw [← hpx, hxs.written.encode_eq, String.ofList_toList]
  exact ⟨hxs.single, hxs.double⟩

/-! ## File URLs read again -/

/-- Whether a path starts with a drive letter. -/
def Path.leadingDrive : Path → Bool
  | .segments (s :: _) => isDriveLetter s
  | _ => false

theorem parseWith_file {input : String} {rest : List Char}
    (h : clean input = "file".toList ++ ':' :: rest) :
    parseWith toAscii input = parseFile toAscii rest := by
  rw [parseWith, h, splitScheme_append schemeText_file]
  rfl

/-- After `file://` and no host, the reader keeps the empty host. -/
theorem parseFile_emptyHost (body : List Char) :
    parseFile toAscii ('/' :: '/' :: '/' :: body) =
      .ok (fileUrl (.domain "") (readPath true true ⟨[], false⟩ ('/' :: body)).1
        (readPath true true ⟨[], false⟩ ('/' :: body)).2) := by
  have hdrive : isDriveLetter (String.ofList []) = false := by decide
  unfold parseFile
  dsimp only
  rw [if_pos (by decide), List.takeWhile_cons_of_neg (by decide), hdrive]
  rfl

/-- After `file://`, a host that reads back and is not `localhost` is kept, and the path is read
from after the slash that follows it. -/
theorem parseFile_host {h : Host}
    (hrb : h.ReadsBack toAscii true) (hloc : h ≠ .domain "localhost") (body : List Char) :
    parseFile toAscii ('/' :: '/' :: (h.text.toList ++ '/' :: body)) =
      .ok (fileUrl h (readPath true true ⟨[], false⟩ body).1 (readPath true true ⟨[], false⟩ body).2) := by
  have hbuf : (h.text.toList ++ '/' :: body).takeWhile
      (fun c => !(isSlash c || c == '?' || c == '#')) = h.text.toList := by
    rw [List.takeWhile_append_of_pos, List.takeWhile_cons_of_neg (by decide), List.append_nil]
    intro c hc
    have := hrb.not_ends c hc
    simp only [endsAuthority, Bool.or_eq_false_iff, Bool.true_and] at this
    simp [isSlash, this.1.1.1, this.1.1.2, this.1.2, this.2]
  have hparse : parseSpecialHost toAscii h.text.toList = .ok h := by
    simpa using hrb.parse
  unfold parseFile
  dsimp only
  rw [if_pos (by decide), hbuf, List.drop_left, String.ofList_toList, hrb.notDrive,
    if_neg (by decide), if_neg (by simpa using hrb.nonempty rfl), hparse, ok_bind]
  dsimp only
  rw [if_neg (by simpa using hloc)]
  rfl

theorem written_empty (s : EncodeSet) : Written s "" := fun c hc => by simp at hc

/-- A file URL is read back from its text with its host, unless its path starts with a drive
letter, which then takes the host's place. -/
theorem FileForm.reread (hu : u.Parsed toAscii) (hf : u.FileForm toAscii) :
    ∃ w, parseWith toAscii u.serialize = .ok w ∧ w.scheme = u.scheme ∧ w.username = "" ∧
      w.port = none ∧ w.host = if u.path.leadingDrive then some (.domain "") else u.host := by
  obtain ⟨segs, hp, hne, hsegs⟩ := hf.path
  obtain ⟨s, ss, rfl⟩ := List.exists_cons_of_ne_nil hne
  have hhost : u.host.isSome := by
    rcases hf.host with hh | ⟨h, hh, -⟩ <;> simp [hh]
  have htail : u.tailText =
      '/' :: (s.toList ++ ((ss.map fun x => '/' :: x.toList).flatten ++ u.queryText)) := by
    rw [Url.tailText, pathText_toList_of_host hhost hp, List.map_cons, List.flatten_cons,
      List.cons_append, List.cons_append, List.append_assoc]
  have huser : u.userinfoText = "" := by
    simp [Url.userinfoText, hf.username, hf.password]
  have hcred : Written .userinfo u.username ∧ Written .userinfo u.password := by
    rw [hf.username, hf.password]
    exact ⟨written_empty _, written_empty _⟩
  have hdrive : u.path.leadingDrive = isDriveLetter s := by
    rw [hp]
    rfl
  rcases hf.host with hh | ⟨h, hh, hrb, hloc⟩
  · -- the empty host: the path follows `file://` at once
    have hclean := (hu.clean_serialize hh hcred.1 hcred.2 (fun c hc => by simp at hc) hp).trans
      (serialize_toList_some hh)
    rw [hf.scheme, huser, hf.port, htail] at hclean
    simp only [String.toList_empty, Host.text_domain, portText, List.nil_append] at hclean
    rw [parseWith_file hclean, parseFile_emptyHost]
    refine ⟨_, rfl, hf.scheme.symm, rfl, rfl, ?_⟩
    rw [fileUrl_host, hh, ite_self, ite_self]
  · have hclean := (hu.clean_serialize hh hcred.1 hcred.2 hrb.visible hp).trans
      (serialize_toList_some hh)
    rw [hf.scheme, huser, hf.port, htail] at hclean
    simp only [String.toList_empty, portText, List.nil_append] at hclean
    rw [parseWith_file hclean, parseFile_host hrb hloc]
    refine ⟨_, rfl, hf.scheme.symm, rfl, rfl, ?_⟩
    rw [fileUrl_host, readPath_dropsHost hsegs (queryText_head u), hdrive, hh]
    cases isDriveLetter s <;> rfl

/-! ## URLs without an authority read again -/

/-- Text after the scheme of a scheme that is not special, not starting with `//`, is read as
a URL with no authority. -/
theorem parseWith_bare {input sc : String}
    {rest : List Char} (hsc : SchemeText sc) (hs : isSpecial sc = false)
    (h : clean input = sc.toList ++ ':' :: rest) (hr : ∀ r, rest ≠ '/' :: '/' :: r) :
    ∃ w, parseWith toAscii input = .ok w ∧
      w.scheme = sc ∧ w.username = "" ∧ w.host = none ∧ w.port = none := by
  have hfile : sc ≠ "file" := by
    rintro rfl
    exact absurd hs (by decide)
  rw [parseWith, h, splitScheme_append hsc]
  dsimp only
  rw [if_neg (by simpa using hfile), if_neg (by simp [hs])]
  split
  · rename_i r
    exact absurd rfl (hr r)
  · exact ⟨_, rfl, rfl, rfl, rfl, rfl⟩
  · exact ⟨_, rfl, rfl, rfl, rfl, rfl⟩

theorem queryText_ne_slash (u : Url) (r : List Char) : u.queryText ≠ '/' :: r := by
  intro h
  rcases queryText_head u with h' | ⟨c, r', h', hc⟩
  · rw [h'] at h
    cases h
  · rw [h', List.cons.injEq] at h
    rw [h.1] at hc
    rcases hc with hc | hc <;> exact absurd hc (by decide)

/-- Without a host, the text after the scheme never starts with `//`, so it is not read as an
authority. -/
theorem BareForm.tailText_ne (hb : u.BareForm) (r : List Char) :
    u.tailText ≠ '/' :: '/' :: r := by
  intro h
  rcases hb.path with ⟨segs, hp, hsegs⟩ | ⟨t, hp, -, ht⟩
  · simp only [Url.tailText, Url.pathText, hp, hb.host] at h
    cases segs with
    | nil =>
      simp at h
      exact queryText_ne_slash u _ h
    | cons s ss =>
      by_cases hs : s = ""
      · subst hs
        cases ss with
        | nil =>
          simp at h
          exact queryText_ne_slash u _ h
        | cons t ts =>
          -- the text starts with the `/.` written before an empty first segment
          simp at h
      · simp [hs] at h
        obtain ⟨c, cs, hc⟩ := List.exists_cons_of_ne_nil (by simpa using hs : s.toList ≠ [])
        rw [hc, List.cons_append, List.cons.injEq] at h
        exact ((hsegs s List.mem_cons_self).sep c (hc ▸ List.mem_cons_self)).1 h.1
  · simp only [Url.tailText, Url.pathText, hp] at h
    cases htl : t.toList with
    | nil =>
      rw [htl, List.nil_append] at h
      exact queryText_ne_slash u _ h
    | cons c cs =>
      rw [htl, List.cons_append, List.cons.injEq] at h
      rw [htl, h.1] at ht
      exact ht rfl

/-- A URL without an authority is read back from its text as one without an authority: the
text after its scheme does not start with `//`, however much trailing blank the reader trims. -/
theorem BareForm.reread (hu : u.Parsed toAscii) (hb : u.BareForm) :
    ∃ w, parseWith toAscii u.serialize = .ok w ∧ w.scheme = u.scheme ∧ w.username = "" ∧
      w.host = none ∧ w.port = none := by
  have hsc : ∀ c ∈ u.scheme.toList ++ [':'], 0x20 < c.toNat := by
    intro c hc
    rcases List.mem_append.1 hc with hc | hc
    · exact schemeText_visible hu.scheme c hc
    · rw [List.mem_singleton.1 hc]
      decide
  have hclean : clean u.serialize =
      u.scheme.toList ++ ':' :: u.tailText.rdropWhile (fun c => decide (c.toNat ≤ 0x20)) := by
    have := clean_append hsc (by simp) hu.tailText_le
    rw [List.append_assoc, List.singleton_append, ← serialize_toList_none hb.host,
      String.ofList_toList] at this
    rw [this, List.append_assoc, List.singleton_append]
  apply parseWith_bare hu.scheme hb.not_special hclean
  intro r hr
  obtain ⟨t, ht⟩ := List.rdropWhile_prefix (fun c : Char => decide (c.toNat ≤ 0x20)) u.tailText
  rw [hr, List.cons_append, List.cons_append] at ht
  exact hb.tailText_ne (r ++ t) ht.symm

/-! ## Every URL the reader returns -/

/-- Every URL the reader returns is read back from its text with the same scheme and the same
credentials, host and port, except a file URL whose path starts with a drive letter: that one
comes back with the empty host in place of its own. -/
theorem Parsed.reread (hu : u.Parsed toAscii) :
    ∃ w, parseWith toAscii u.serialize = .ok w ∧ w.scheme = u.scheme ∧
      (w.username, w.host, w.port) =
        if u.scheme = "file" ∧ u.path.leadingDrive = true then ("", some (.domain ""), none)
        else (u.username, u.host, u.port) := by
  rcases hu.form with hf | ha | hb
  · obtain ⟨w, hw, hs, hwu, hwp, hwh⟩ := hf.reread hu
    refine ⟨w, hw, hs, ?_⟩
    rw [hwu, hwp, hwh, hf.username, hf.port]
    by_cases hd : u.path.leadingDrive = true
    · simp [hd, hf.scheme]
    · simp [hd]
  · obtain ⟨w, hw, hs, hwu, hwh, hwp⟩ := ha.reread hu
    refine ⟨w, hw, hs, ?_⟩
    rw [if_neg (fun h => ha.not_file h.1), hwu, hwh, hwp]
  · obtain ⟨w, hw, hs, hwu, hwh, hwp⟩ := hb.reread hu
    refine ⟨w, hw, hs, ?_⟩
    have hfile : u.scheme ≠ "file" := by
      intro h
      have hns := hb.not_special
      rw [h] at hns
      exact absurd hns (by decide)
    rw [if_neg (fun h => hfile h.1), hwu, hwh, hwp, hb.username, hb.host, hb.port]

end HandlePool.Url
