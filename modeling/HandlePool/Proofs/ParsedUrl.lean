import HandlePool.Error
import HandlePool.Proofs.HostText
/-!
# What the URL reader returns

Every URL the reader returns has one of three forms, each with what a second reading of its
text needs:

* a `file` URL: no credentials and no port, the empty host or one that reads back and is not
  `localhost`, and at least one path segment (`Url.FileForm`);
* a URL read with an authority: credentials written with the user-info set, a host that reads
  back, no credentials or port with an empty host, a port in range that is not the scheme's
  default (`Url.AuthorityForm`);
* a URL of another scheme written without `//`: no authority, and a path that does not start
  with `//` (`Url.BareForm`).

Path segments are proper ones (`Segment`): written with the path set, with no separator in
them, and no dot segment, since the reader resolves those as it reads.

* `readPath_segment`: the path reader only ever adds proper segments.
* `parseWithAuthority_ok`, `parseWithAuthority_of`: the reader with an authority succeeds exactly
  through its steps, and builds the URL from their results.
* `parseWith_parsed`: every URL the reader returns is of one of the three forms.
-/

namespace HandlePool.Url
open EncodeSet

/-! ## Path segments -/

/-- A path segment as the reader leaves it, in a URL whose scheme is of the kind `special`:
written with the path set, holding no separator, and no dot segment in any spelling. -/
structure Segment (special : Bool) (s : String) : Prop where
  written : Written .path s
  sep : ∀ c ∈ s.toList, c ≠ '/' ∧ (special = true → c ≠ '\\')
  single : isSingleDot s = false
  double : isDoubleDot s = false

theorem isSingleDot_empty : isSingleDot "" = false := by decide +kernel
theorem isDoubleDot_empty : isDoubleDot "" = false := by decide +kernel

theorem segment_empty (special : Bool) : Segment special "" :=
  ⟨fun _ h => by simp at h, fun _ h => by simp at h, isSingleDot_empty, isDoubleDot_empty⟩

/-- A text with a colon in it is no dot segment, in any spelling. -/
theorem notDot_of_colon {s : String} (h : ':' ∈ s.toList) :
    isSingleDot s = false ∧ isDoubleDot s = false := by
  have hl : ':' ∈ s.toLower.toList := by
    rw [String.toLower, String.toList_map]
    exact List.mem_map.2 ⟨':', h, rfl⟩
  have hne : ∀ t : String, ':' ∉ t.toList → ∀ s : String, ':' ∈ s.toList → s ≠ t :=
    fun t ht s hs he => ht (he ▸ hs)
  constructor
  · simp only [isSingleDot, Bool.or_eq_false_iff, beq_eq_false_iff_ne]
    exact ⟨hne "." (by decide) s h, hne "%2e" (by decide) _ hl⟩
  · simp only [isDoubleDot, Bool.or_eq_false_iff, beq_eq_false_iff_ne]
    exact ⟨⟨⟨hne ".." (by decide) _ hl, hne ".%2e" (by decide) _ hl⟩, hne "%2e." (by decide) _ hl⟩,
      hne "%2e%2e" (by decide) _ hl⟩

theorem segment_drive {special : Bool} {d : Char} (hd : d.isAlpha) :
    Segment special (String.ofList [d, ':']) := by
  have hdn := (isAlpha_iff d).1 hd
  have hw : Written .path (String.ofList [d, ':']) := by
    intro c hc
    simp only [String.toList_ofList, List.mem_cons, List.not_mem_nil, or_false] at hc
    rcases hc with rfl | rfl
    · refine ⟨by omega, by omega, ?_⟩
      simp only [EncodeSet.path, List.mem_cons, List.not_mem_nil, or_false]
      rintro (h | h | h | h | h | h | h | h | h) <;> (subst h; simp at hdn)
    · decide
  refine ⟨hw, fun c hc => ?_, (notDot_of_colon (by simp)).1, (notDot_of_colon (by simp)).2⟩
  simp only [String.toList_ofList, List.mem_cons, List.not_mem_nil, or_false] at hc
  rcases hc with rfl | rfl
  · exact ⟨fun h => by subst h; simp at hdn, fun _ h => by subst h; simp at hdn⟩
  · exact ⟨by decide, fun _ => by decide⟩

theorem mem_shorten {file : Bool} {segs : List String} {s : String} (h : s ∈ shorten file segs) :
    s ∈ segs := by
  unfold shorten at h
  split at h
  · cases h
  · split_ifs at h
    · exact h
    · exact List.dropLast_subset _ h

theorem front_of_toList {s : String} {d : Char} {t : List Char} (h : s.toList = d :: t) :
    s.front = d := by
  rw [String.front_eq, String.front?_eq, h]
  rfl

theorem isDriveLetter_spec {s : String} (h : isDriveLetter s = true) :
    ∃ d c, s.toList = [d, c] ∧ d.isAlpha ∧ (c = ':' ∨ c = '|') := by
  unfold isDriveLetter at h
  split at h
  · rename_i d c hs
    simp only [Bool.and_eq_true, Bool.or_eq_true, beq_iff_eq] at h
    exact ⟨d, c, hs, h⟩
  · cases h

/-- Adding a segment keeps every segment a proper one. -/
theorem add_segment {special file final : Bool} {st : PathState} {seg : String}
    (hst : ∀ s ∈ st.segs, Segment special s) (hw : Written .path seg)
    (hsep : ∀ c ∈ seg.toList, c ≠ '/' ∧ (special = true → c ≠ '\\')) :
    ∀ s ∈ (st.add file seg final).segs, Segment special s := by
  unfold PathState.add
  dsimp only
  -- what the step may add: the empty segment, a drive or the segment itself
  generalize htl : (if final = true then [""] else []) = tail
  have htail : ∀ s ∈ tail, Segment special s := by
    intro s hs
    rw [← htl] at hs
    split at hs
    · rw [List.mem_singleton] at hs
      subst hs
      exact segment_empty special
    · cases hs
  have happ : ∀ l, (∀ s ∈ l, Segment special s) → ∀ s ∈ l ++ tail, Segment special s :=
    fun l hl s hs => (List.mem_append.1 hs).elim (hl s) (htail s)
  have hshort : ∀ s ∈ shorten file st.segs, Segment special s := fun s hs => hst s (mem_shorten hs)
  intro s hs
  split at hs
  · exact happ _ hshort s hs
  · rename_i hdd
    split at hs
    · exact happ _ hst s hs
    · rename_i hsd
      split at hs
      · -- a drive letter takes the place of the host
        rename_i hdrive
        simp only [List.mem_singleton] at hs
        subst hs
        have hdl : isDriveLetter seg = true := by
          simp only [Bool.and_eq_true] at hdrive
          exact hdrive.2
        obtain ⟨d, c, hdc, hd, -⟩ := isDriveLetter_spec hdl
        rw [front_of_toList hdc]
        exact segment_drive hd
      · have hseg : Segment special seg :=
          ⟨hw, hsep, by simpa using hsd, by simpa using hdd⟩
        rcases List.mem_append.1 hs with hs | hs
        · exact hst s hs
        · rw [List.mem_singleton.1 hs]
          exact hseg

theorem rawSegments_cons (special : Bool) (x : Char) (xs : List Char) :
    rawSegments special (x :: xs) =
      if (x == '/' || (special && x == '\\')) then [] :: rawSegments special xs
      else match rawSegments special xs with
        | g :: rest => (x :: g) :: rest
        | [] => [[x]] := rfl

/-- The raw segments hold characters of the text, and no separator. -/
theorem mem_rawSegments {special : Bool} {cs r : List Char} (hr : r ∈ rawSegments special cs)
    {c : Char} (hc : c ∈ r) : c ∈ cs ∧ c ≠ '/' ∧ (special = true → c ≠ '\\') := by
  induction cs generalizing r with
  | nil =>
    simp only [rawSegments, List.foldr_nil, List.mem_singleton] at hr
    subst hr
    cases hc
  | cons x xs ih =>
    rw [rawSegments_cons] at hr
    split at hr
    · rcases List.mem_cons.1 hr with rfl | hr
      · cases hc
      · exact (ih hr hc).imp_left (List.mem_cons_of_mem x)
    · rename_i hsep
      simp only [Bool.or_eq_true, beq_iff_eq, Bool.and_eq_true, not_or, not_and] at hsep
      -- the character joins the first raw segment
      split at hr
      · rename_i g rest heq
        rcases List.mem_cons.1 hr with rfl | hr
        · rcases List.mem_cons.1 hc with rfl | hc
          · exact ⟨List.mem_cons_self, hsep.1, hsep.2⟩
          · exact (ih (heq ▸ List.mem_cons_self) hc).imp_left (List.mem_cons_of_mem x)
        · exact (ih (heq ▸ List.mem_cons_of_mem g hr) hc).imp_left (List.mem_cons_of_mem x)
      · rw [List.mem_singleton] at hr
        subst hr
        rw [List.mem_singleton] at hc
        subst hc
        exact ⟨List.mem_cons_self, hsep.1, hsep.2⟩

theorem encode_path_sep {special : Bool} {raw : List Char}
    (h : ∀ c ∈ raw, c ≠ '/' ∧ (special = true → c ≠ '\\')) :
    ∀ c ∈ (String.ofList (encode .path raw)).toList, c ≠ '/' ∧ (special = true → c ≠ '\\') := by
  have hdig : ∀ n < 16, upperHexDigit n ≠ '/' ∧ upperHexDigit n ≠ '\\' := by decide
  intro c hc
  rw [String.toList_ofList] at hc
  rcases mem_encode hc with hc | rfl | ⟨n, hn, rfl⟩
  · exact h c hc
  · exact ⟨by decide, fun _ => by decide⟩
  · exact ⟨(hdig n hn).1, fun _ => (hdig n hn).2⟩

theorem foldl_add_segment {special file : Bool} {final : List Char × Nat → Bool} :
    ∀ (l : List (List Char × Nat)) (st : PathState),
      (∀ p ∈ l, ∀ c ∈ p.1, c ≠ '/' ∧ (special = true → c ≠ '\\')) →
      (∀ s ∈ st.segs, Segment special s) →
      ∀ s ∈ (l.foldl (fun st x => st.add file (String.ofList (encode .path x.1)) (final x)) st).segs,
        Segment special s
  | [], st, _, hst => hst
  | p :: l, st, hl, hst => by
    rw [List.foldl_cons]
    exact foldl_add_segment l _ (fun p hp => hl p (List.mem_cons_of_mem _ hp))
      (add_segment hst (written_encode keepsEscapes_path p.1)
        (encode_path_sep (hl p List.mem_cons_self)))

/-- Every segment the path reader adds is a proper one. -/
theorem readPath_segment {special file : Bool} {st : PathState}
    (hst : ∀ s ∈ st.segs, Segment special s) (cs : List Char) :
    ∀ s ∈ (readPath special file st cs).1.segs, Segment special s := by
  unfold readPath
  dsimp only
  apply foldl_add_segment _ _ _ hst
  intro p hp c hc
  have := mem_rawSegments (List.fst_mem_of_mem_zipIdx hp) hc
  exact this.2

/-- A file path keeps at least one segment, each empty or one of the segments read. -/
theorem trimFileSegments_spec (segs : List String) :
    trimFileSegments segs ≠ [] ∧ ∀ s ∈ trimFileSegments segs, s = "" ∨ s ∈ segs := by
  unfold trimFileSegments
  split
  · exact ⟨by simp, fun s hs => Or.inl (by simpa using hs)⟩
  · rename_i hrest
    exact ⟨hrest, fun s hs => Or.inr ((List.dropWhile_sublist _).subset hs)⟩

/-! ## The steps of the reader -/

theorem parseWithAuthority_ok {toAscii : List Char → Option String} {scheme : String}
    {special : Bool} {cs : List Char} {u : Url}
    (h : parseWithAuthority toAscii scheme special cs = .ok u) :
    ∃ rest host rest',
      splitUserinfo special cs = .ok (u.username, u.password, rest) ∧
      (special = true → (splitHost special false rest).1 ≠ []) ∧
      parseHost toAscii special (splitHost special false rest).1 = .ok host ∧
      (host = .domain "" → (splitHost special false rest).2.head? ≠ some ':' ∧
        u.username = "" ∧ u.password = "") ∧
      portAfterHost scheme (splitHost special false rest).2 = .ok (u.port, rest') ∧
      u.scheme = scheme ∧ u.host = some host ∧
      u.path = .segments (authorityPath special rest').1 ∧
      (u.query, u.fragment) = queryAndFragment special (authorityPath special rest').2 := by
  unfold parseWithAuthority at h
  obtain ⟨⟨user, pass, rest⟩, hsplit, h⟩ := bind_eq_ok h
  dsimp only at h
  split at h
  · cases h
  · rename_i hne
    obtain ⟨host, hhost, h⟩ := bind_eq_ok h
    split at h
    · cases h
    · rename_i hcolon
      obtain ⟨⟨port, rest'⟩, hport, h⟩ := bind_eq_ok h
      dsimp only at h
      split at h
      · cases h
      · rename_i hcred
        cases h
        refine ⟨rest, host, rest', hsplit, fun hs => by simpa [hs] using hne, hhost,
          fun he => ?_, hport, rfl, rfl, rfl, rfl⟩
        subst he
        simp at hcolon hcred
        exact ⟨hcolon, hcred⟩

theorem ok_bind {ε α β : Type} (a : α) (f : α → Except ε β) : (Except.ok a >>= f) = f a := rfl

theorem parseWithAuthority_of {toAscii : List Char → Option String} {scheme : String}
    {special : Bool} {cs : List Char} {user pass : String} {rest : List Char} {host : Host}
    {port : Option Nat} {rest' : List Char}
    (hsplit : splitUserinfo special cs = .ok (user, pass, rest))
    (hne : special = true → (splitHost special false rest).1 ≠ [])
    (hhost : parseHost toAscii special (splitHost special false rest).1 = .ok host)
    (hempty : host = .domain "" → (splitHost special false rest).2.head? ≠ some ':' ∧
      user = "" ∧ pass = "")
    (hport : portAfterHost scheme (splitHost special false rest).2 = .ok (port, rest')) :
    parseWithAuthority toAscii scheme special cs =
      .ok { scheme, username := user, password := pass, host := some host, port,
            path := .segments (authorityPath special rest').1,
            query := (queryAndFragment special (authorityPath special rest').2).1,
            fragment := (queryAndFragment special (authorityPath special rest').2).2 } := by
  -- the three guards fail
  have h1 : (special && (splitHost special false rest).1.isEmpty) = false := by
    cases special
    · rfl
    · simpa using hne rfl
  have h2 : (host == .domain "" && (splitHost special false rest).2.head? == some ':') = false ∧
      (host == .domain "" && !(user.isEmpty && pass.isEmpty)) = false := by
    by_cases he : host = .domain ""
    · obtain ⟨hc, rfl, rfl⟩ := hempty he
      simpa [he] using hc
    · simp [he]
  unfold parseWithAuthority
  simp only [hsplit, ok_bind, h1, hhost, h2.1, hport, h2.2]
  rfl

/-- The credentials the reader splits off are written with the user-info set. -/
theorem splitUserinfo_written_parts {special : Bool} {cs : List Char} {user pass : String}
    {rest : List Char} (h : splitUserinfo special cs = .ok (user, pass, rest)) :
    Written .userinfo user ∧ Written .userinfo pass := by
  have hempty : Written .userinfo "" := fun c hc => by simp at hc
  unfold splitUserinfo at h
  split at h
  · cases h
    exact ⟨hempty, hempty⟩
  · split at h
    · split at h
      · cases h
      · cases h
        exact ⟨hempty, hempty⟩
    · cases h
      exact ⟨hempty, hempty⟩
  · cases h
    exact ⟨written_encode keepsEscapes_userinfo _, written_encode keepsEscapes_userinfo _⟩

/-- A port read is at most `65535`. -/
theorem parsePort_le {acc : Option Nat} (hacc : ∀ a, acc = some a → a ≤ 65535) {cs : List Char}
    {p : Nat} {r : List Char} (h : parsePort acc cs = .ok (some p, r)) : p ≤ 65535 := by
  fun_induction parsePort acc cs with
  | case1 acc =>
    cases h
    exact hacc p rfl
  | case2 acc c rest hc v hv => cases h
  | case3 acc c rest hc v hv ih => exact ih (fun a ha => by cases ha; omega) h
  | case4 acc c rest hc hend =>
    cases h
    exact hacc p rfl
  | case5 => cases h

/-- The port after a host is at most `65535` and never the scheme's default. -/
theorem portAfterHost_some {scheme : String} {rest r : List Char} {p : Nat}
    (h : portAfterHost scheme rest = .ok (some p, r)) : p ≤ 65535 ∧ defaultPort scheme ≠ some p := by
  unfold portAfterHost at h
  split at h
  · obtain ⟨⟨q, r'⟩, hq, h⟩ := bind_eq_ok h
    simp only [pure, Except.pure, Except.ok.injEq, Prod.mk.injEq] at h
    obtain ⟨hp, -⟩ := h
    split at hp
    · cases hp
    · rename_i hne
      subst hp
      exact ⟨parsePort_le (fun a ha => by cases ha) hq, fun he => hne (by simp [he])⟩
  · cases h

theorem portAfterHost_of_head {scheme : String} {rest : List Char} (h : rest.head? ≠ some ':') :
    portAfterHost scheme rest = .ok (none, rest) := by
  unfold portAfterHost
  split
  · simp at h
  · rfl

/-- The segments of a URL with an authority are proper ones. -/
theorem authorityPath_segment (special : Bool) (rest : List Char) :
    ∀ s ∈ (authorityPath special rest).1, Segment special s := by
  have h0 : ∀ s ∈ ({ segs := [] } : PathState).segs, Segment special s := fun _ h => by cases h
  have hnil : ∀ s ∈ ([] : List String), Segment special s := fun _ h => by cases h
  unfold authorityPath
  cases special with
  | false =>
    simp only [Bool.false_eq_true, if_false]
    split
    · exact hnil
    · exact hnil
    · exact hnil
    · exact readPath_segment h0 _
    · exact readPath_segment h0 _
  | true => exact readPath_segment h0 _

/-- The query and fragment are written with their encode sets. -/
theorem queryAndFragment_written (special : Bool) (cs : List Char) :
    (∀ q, (queryAndFragment special cs).1 = some q →
      Written (if special then .specialQuery else .query) q) ∧
    (∀ f, (queryAndFragment special cs).2 = some f → Written .fragment f) := by
  unfold queryAndFragment
  split
  · dsimp only
    refine ⟨fun q hq => ?_, fun f hf => ?_⟩
    · cases hq
      cases special <;> exact written_encode (by decide) _
    · split at hf
      · cases hf
        exact written_encode keepsEscapes_fragment _
      · cases hf
  · refine ⟨fun q hq => (by cases hq), fun f hf => ?_⟩
    cases hf
    exact written_encode keepsEscapes_fragment _
  · exact ⟨fun q hq => (by cases hq), fun f hf => (by cases hf)⟩

theorem encodeChar_ne_nil (s : EncodeSet) (c : Char) : encodeChar s c ≠ [] := by
  obtain ⟨b, bs, hb⟩ := List.exists_cons_of_ne_nil (List.ne_nil_of_length_pos
    (by rw [String.length_utf8EncodeChar]; exact c.utf8Size_pos))
  rw [encodeChar, hb, List.flatMap_cons]
  split <;> simp [escapeByte]

/-- An encoded text starts with a character other than `%` and the digits only if the text
does. -/
theorem head_encode_ne {s : EncodeSet} {cs : List Char} {x : Char}
    (h : cs.head? ≠ some x) (hx : x ≠ '%' ∧ ∀ n < 16, upperHexDigit n ≠ x) :
    (encode s cs).head? ≠ some x := by
  cases cs with
  | nil => simp [encode]
  | cons c cs =>
    obtain ⟨d, ds, hd⟩ := List.exists_cons_of_ne_nil (encodeChar_ne_nil s c)
    rw [encode, List.flatMap_cons, hd, List.cons_append, List.head?_cons]
    intro he
    rw [Option.some.injEq] at he
    subst he
    -- the first character written stands for `c`, or starts its escape
    rcases mem_encodeChar (hd ▸ List.mem_cons_self : d ∈ encodeChar s c) with hdc | hdc | ⟨n, hn, hdc⟩
    · exact h (by simp [hdc])
    · exact hx.1 hdc
    · exact hx.2 n hn hdc.symm

/-! ## What the reader returns -/

/-- A URL of the `file` scheme as the reader returns it: no credentials or port, the empty
host or one that reads back and is not `localhost`, and at least one proper segment. -/
structure FileForm (toAscii : List Char → Option String) (u : Url) : Prop where
  scheme : u.scheme = "file"
  username : u.username = ""
  password : u.password = ""
  port : u.port = none
  host : u.host = some (.domain "") ∨
    ∃ h, u.host = some h ∧ h.ReadsBack toAscii true ∧ h ≠ .domain "localhost"
  path : ∃ segs, u.path = .segments segs ∧ segs ≠ [] ∧ ∀ s ∈ segs, Segment true s

/-- A URL read with an authority, of another scheme than `file`: written credentials, a host
that reads back, nothing else with an empty host, a port in range that is not the default,
and proper segments. -/
structure AuthorityForm (toAscii : List Char → Option String) (u : Url) : Prop where
  not_file : u.scheme ≠ "file"
  username : Written .userinfo u.username
  password : Written .userinfo u.password
  host : ∃ h, u.host = some h ∧ h.ReadsBack toAscii (isSpecial u.scheme)
  empty : u.host = some (.domain "") → u.username = "" ∧ u.password = "" ∧ u.port = none
  port : ∀ p, u.port = some p → p ≤ 65535 ∧ defaultPort u.scheme ≠ some p
  path : ∃ segs, u.path = .segments segs ∧ ∀ s ∈ segs, Segment (isSpecial u.scheme) s

/-- A URL of a scheme that is not special, written without `//`: no authority, and a path of
proper segments or a text that does not start with `/`. -/
structure BareForm (u : Url) : Prop where
  not_special : isSpecial u.scheme = false
  username : u.username = ""
  password : u.password = ""
  host : u.host = none
  port : u.port = none
  path : (∃ segs, u.path = .segments segs ∧ ∀ s ∈ segs, Segment false s) ∨
    ∃ t, u.path = .plain t ∧ Written .controls t ∧ t.toList.head? ≠ some '/'

/-- What every URL the reader returns satisfies. -/
structure Parsed (toAscii : List Char → Option String) (u : Url) : Prop where
  scheme : SchemeText u.scheme
  query : ∀ q, u.query = some q → Written (if isSpecial u.scheme then .specialQuery else .query) q
  fragment : ∀ f, u.fragment = some f → Written .fragment f
  form : u.FileForm toAscii ∨ u.AuthorityForm toAscii ∨ u.BareForm

theorem schemeText_file : SchemeText "file" := by
  have h : "file".toList = ['f', 'i', 'l', 'e'] := rfl
  refine ⟨⟨'f', ['i', 'l', 'e'], h, rfl⟩, fun c hc => ?_, fun c hc => ?_⟩
  all_goals
    rw [h] at hc
    simp only [List.mem_cons, List.not_mem_nil, or_false] at hc
    rcases hc with rfl | rfl | rfl | rfl <;> decide

@[simp] theorem fileUrl_host (host : Host) (st : PathState) (rest : List Char) :
    (fileUrl host st rest).host = some (if st.dropsHost then .domain "" else host) := rfl

theorem fileUrl_parsed {toAscii : List Char → Option String} {host : Host} {st : PathState}
    {rest : List Char}
    (hhost : host = .domain "" ∨ (host.ReadsBack toAscii true ∧ host ≠ .domain "localhost"))
    (hsegs : ∀ s ∈ st.segs, Segment true s) : (fileUrl host st rest).Parsed toAscii := by
  have hqf := queryAndFragment_written true rest
  obtain ⟨hne, htrim⟩ := trimFileSegments_spec st.segs
  refine ⟨schemeText_file, hqf.1, hqf.2, Or.inl ⟨rfl, rfl, rfl, rfl, ?_, ?_⟩⟩
  · -- a drive letter drops the host
    rw [fileUrl_host]
    split
    · exact Or.inl rfl
    · rcases hhost with rfl | ⟨hr, hloc⟩
      · exact Or.inl rfl
      · exact Or.inr ⟨host, rfl, hr, hloc⟩
  · refine ⟨_, rfl, hne, fun s hs => ?_⟩
    rcases htrim s hs with rfl | hs
    · exact segment_empty true
    · exact hsegs s hs

theorem parseFile_parsed {toAscii : List Char → Option String} (hl : IdnaLaws toAscii)
    {cs : List Char} {u : Url} (h : parseFile toAscii cs = .ok u) : u.Parsed toAscii := by
  have h0 : ∀ s ∈ ({ segs := [] } : PathState).segs, Segment true s := fun _ h => by cases h
  -- every branch builds a file URL from a path read from nothing
  have hempty : ∀ cs : List Char, (fileUrl (.domain "") (readPath true true { segs := [] } cs).1
      (readPath true true { segs := [] } cs).2).Parsed toAscii :=
    fun cs => fileUrl_parsed (Or.inl rfl) (readPath_segment h0 cs)
  unfold parseFile at h
  split at h
  · split at h
    · dsimp only at h
      split at h
      · cases h
        exact hempty _
      · split at h
        · cases h
          exact hempty _
        · obtain ⟨host, hhost, h⟩ := bind_eq_ok h
          split at h
          · cases h
            exact hempty _
          · rename_i hloc
            cases h
            exact fileUrl_parsed (Or.inr ⟨readsBack_of_parseSpecialHost hl hhost,
              fun he => hloc (by simp [he])⟩) (readPath_segment h0 _)
    · split at h
      · cases h
        exact hempty _
      · cases h
        exact hempty _
  · cases h
    exact hempty _
  · cases h
    exact hempty _

/-- A URL read with an authority has the authority form. -/
theorem parseWithAuthority_parsed {toAscii : List Char → Option String} (hl : IdnaLaws toAscii)
    {scheme : String} {special : Bool} {cs : List Char} {u : Url} (hsc : SchemeText scheme)
    (hfile : scheme ≠ "file") (hspecial : isSpecial scheme = special)
    (h : parseWithAuthority toAscii scheme special cs = .ok u) : u.Parsed toAscii := by
  obtain ⟨rest, host, rest', hsplit, -, hhost, hempty, hport, hscheme, hu, hpath, hqf⟩ :=
    parseWithAuthority_ok h
  obtain ⟨huser, hpass⟩ := splitUserinfo_written_parts hsplit
  have hq := queryAndFragment_written special (authorityPath special rest').2
  rw [← hqf] at hq
  subst hscheme
  subst hspecial
  have hread : host.ReadsBack toAscii (isSpecial u.scheme) := by
    unfold parseHost at hhost
    split at hhost
    · rename_i hs
      rw [hs]
      exact readsBack_of_parseSpecialHost hl hhost
    · rename_i hs
      rw [Bool.not_eq_true] at hs
      rw [hs]
      exact readsBack_of_parseOpaqueHost hhost
  refine ⟨hsc, hq.1, hq.2, Or.inr (Or.inl ⟨hfile, huser, hpass, ⟨host, hu, hread⟩, ?_, ?_,
    ⟨_, hpath, authorityPath_segment _ _⟩⟩)⟩
  · -- nothing but the host with an empty host: no credentials, and no colon for a port
    intro he
    rw [hu, Option.some.injEq] at he
    obtain ⟨hcolon, hu', hp'⟩ := hempty he
    rw [portAfterHost_of_head hcolon, Except.ok.injEq, Prod.mk.injEq] at hport
    exact ⟨hu', hp', hport.1.symm⟩
  · intro p hp
    rw [hp] at hport
    exact portAfterHost_some hport

/-- A URL without an authority, from its scheme, path and the text after the path. -/
theorem bareUrl_parsed {toAscii : List Char → Option String} {scheme : String}
    (hsc : SchemeText scheme) (hs : isSpecial scheme = false) {path : Path}
    (hpath : (∃ segs, path = .segments segs ∧ ∀ s ∈ segs, Segment false s) ∨
      ∃ t, path = .plain t ∧ Written .controls t ∧ t.toList.head? ≠ some '/')
    (cs : List Char) :
    ({ scheme, path, query := (queryAndFragment false cs).1,
       fragment := (queryAndFragment false cs).2 } : Url).Parsed toAscii := by
  have hq := queryAndFragment_written false cs
  refine ⟨hsc, fun q h => ?_, hq.2, Or.inr (Or.inr ⟨hs, rfl, rfl, rfl, rfl, hpath⟩)⟩
  simp only [hs]
  exact hq.1 q h

/-- Every URL the reader returns is of one of the three forms. -/
theorem parseWith_parsed {toAscii : List Char → Option String} (hl : IdnaLaws toAscii)
    {input : String} {u : Url} (h : parseWith toAscii input = .ok u) : u.Parsed toAscii := by
  unfold parseWith at h
  split at h
  · cases h
  · rename_i scheme rest hsplit
    have hsc := splitScheme_schemeText hsplit
    split at h
    · rename_i hfile
      rw [beq_iff_eq] at hfile
      exact parseFile_parsed hl h
    · rename_i hfile
      have hfile' : scheme ≠ "file" := by simpa using hfile
      split at h
      · rename_i hs
        exact parseWithAuthority_parsed hl hsc hfile' hs h
      · rename_i hs
        have hs' : isSpecial scheme = false := by simpa using hs
        split at h
        · exact parseWithAuthority_parsed hl hsc hfile' hs' h
        · -- a path of segments after one slash
          cases h
          exact bareUrl_parsed hsc hs'
            (Or.inl ⟨_, rfl, readPath_segment (fun _ h => by cases h) _⟩) _
        · -- a text with no hierarchy, which does not start with a slash
          rename_i hslash1 hslash2
          cases h
          refine bareUrl_parsed hsc hs'
            (Or.inr ⟨_, rfl, written_encode keepsEscapes_controls _, ?_⟩) _
          rw [String.toList_ofList]
          apply head_encode_ne _ (by decide)
          cases rest with
          | nil => simp
          | cons c r =>
            have hc : c ≠ '/' := fun he => hslash2 r (by rw [he])
            rw [List.takeWhile_cons]
            split <;> simp [hc]

end HandlePool.Url
