import HandlePool.Url.Basic
import HandlePool.Url.Percent
import HandlePool.Url.Idna
/-!
# Reading a URL

An absolute URL is read in the order it is written: scheme, then (for URLs written with `//`
and for the special schemes) credentials, host and port, then the path, query and fragment.
Spaces and controls around the text are dropped, and tabs and line breaks anywhere in it.

Special schemes (`http`, `https`, `ws`, `wss`, `ftp`, `file`) accept backslashes for slashes,
need a host, map it through IDNA and read a numeric host as an IPv4 address. Other schemes
keep their host as percent-encoded text. Path segments `.` and `..` (also as `%2e`) are
resolved as they are read.

The IDNA step (domain to ASCII) is a parameter `toAscii` of the reader, `parseWith`; `parse`
reads with `domainToAscii`.
-/

namespace HandlePool.Url

/-- The input without leading or trailing controls and spaces, and without tabs and line
breaks. -/
def clean (s : String) : List Char :=
  let trimmed := ((s.toList.dropWhile (·.toNat ≤ 0x20)).reverse.dropWhile (·.toNat ≤ 0x20)).reverse
  trimmed.filter fun c => c != '\t' && c != '\n' && c != '\r'

/-- Characters that may follow the first letter of a scheme. -/
def isSchemeChar (c : Char) : Bool :=
  c.isAlphanum || c == '+' || c == '-' || c == '.'

/-- The scheme, lowercased, and the text after its colon. -/
def splitScheme (cs : List Char) : Option (String × List Char) :=
  match cs with
  | c :: _ =>
    if !c.isAlpha then none
    else
      let name := cs.takeWhile isSchemeChar
      match cs.drop name.length with
      | ':' :: rest => some (String.ofList (name.map Char.toLower), rest)
      | _ => none
  | [] => none

/-- Characters that end the authority of a URL. -/
def endsAuthority (special : Bool) (c : Char) : Bool :=
  c == '/' || c == '?' || c == '#' || (special && c == '\\')

/-- The position of the last occurrence of `x` in `cs`. -/
def lastIndexOf (x : Char) (cs : List Char) : Option Nat :=
  cs.zipIdx.foldl (fun acc (c, i) => if c == x then some i else acc) none

/-- Splits off the credentials before the last `@` of the authority: user name, password
(both encoded) and the rest. -/
def splitUserinfo (special : Bool) (cs : List Char) :
    Except ParseError (String × String × List Char) :=
  match lastIndexOf '@' (cs.takeWhile (!endsAuthority special ·)) with
  | none => .ok ("", "", cs)
  | some 0 =>
    match cs.drop 1 with
    | c :: rest => if endsAuthority special c then .error .emptyHost else .ok ("", "", c :: rest)
    | [] => .ok ("", "", [])
  | some k =>
    let info := cs.take k
    let user := info.takeWhile (· != ':')
    let pass := (info.dropWhile (· != ':')).drop 1
    .ok (String.ofList (encode .userinfo user), String.ofList (encode .userinfo pass),
      cs.drop (k + 1))

/-- Splits off the host: up to a colon outside brackets, a slash, `?`, `#`, or (special) a
backslash. -/
def splitHost (special : Bool) (inside : Bool) : List Char → List Char × List Char
  | [] => ([], [])
  | c :: rest =>
    if (c == ':' && !inside) || endsAuthority special c then ([], c :: rest)
    else
      let inside := if c == '[' then true else if c == ']' then false else inside
      let (h, r) := splitHost special inside rest
      (c :: h, r)

/-- Characters an opaque host may not hold. -/
def forbiddenInHost (c : Char) : Bool :=
  "\x00\t\n\r #/:<>?@[\\]^|".toList.contains c

/-- A bracketed IPv6 host. -/
def bracketedHost (cs : List Char) : Except ParseError Host :=
  if cs.getLast? != some ']' then .error .invalidIpv6Address
  else
    match parseIpv6 ((cs.drop 1).dropLast) with
    | some groups => .ok (.ipv6 groups)
    | none => .error .invalidIpv6Address

/-- The host of a URL whose scheme is not special. -/
def parseOpaqueHost (cs : List Char) : Except ParseError Host :=
  match cs with
  | '[' :: _ => bracketedHost cs
  | _ =>
    if cs.any forbiddenInHost then .error .invalidDomainCharacter
    else .ok (.domain (String.ofList (encode .controls cs)))

/-- The host of a URL with a special scheme: percent-decoded, mapped through IDNA (`toAscii`),
and read as an IPv4 address when its last label is a number. -/
def parseSpecialHost (toAscii : List Char → Option String) (cs : List Char) :
    Except ParseError Host :=
  match cs with
  | '[' :: _ => bracketedHost cs
  | _ =>
    let bytes := decodeBytes (cs.flatMap String.utf8EncodeChar)
    match String.fromUTF8? (ByteArray.mk bytes.toArray) with
    | none => .error .idnaError
    | some text =>
      match toAscii text.toList with
      | none => .error .idnaError
      | some d =>
        if d.isEmpty then .error .emptyHost
        else if endsInNumber d.toList then
          match parseIpv4 d.toList with
          | some a => .ok (.ipv4 a)
          | none => .error .invalidIpv4Address
        else .ok (.domain d)

/-- Reads the digits of a port up to a slash, backslash, `?` or `#`. -/
def parsePort (acc : Option Nat) : List Char → Except ParseError (Option Nat × List Char)
  | [] => .ok (acc, [])
  | c :: rest =>
    if c.isDigit then
      let v := acc.getD 0 * 10 + (c.toNat - 48)
      if v > 65535 then .error .invalidPort else parsePort (some v) rest
    else if c == '/' || c == '\\' || c == '?' || c == '#' then .ok (acc, c :: rest)
    else .error .invalidPort

/-! ## Paths -/

/-- `.` or its encoded form. -/
def isSingleDot (s : String) : Bool :=
  s == "." || s.toLower == "%2e"

/-- `..` or one of its encoded forms. -/
def isDoubleDot (s : String) : Bool :=
  let l := s.toLower
  l == ".." || l == ".%2e" || l == "%2e." || l == "%2e%2e"

/-- A letter followed by `:` or `|`, as a segment naming a drive. -/
def isDriveLetter (s : String) : Bool :=
  match s.toList with
  | [d, c] => d.isAlpha && (c == ':' || c == '|')
  | _ => false

/-- A letter followed by `:`. -/
def isNormalizedDriveLetter (s : String) : Bool :=
  match s.toList with
  | [d, ':'] => d.isAlpha
  | _ => false

/-- The path without its last segment; a file path keeps a drive letter. -/
def shorten (file : Bool) (segs : List String) : List String :=
  match segs.getLast? with
  | none => []
  | some last => if file && isNormalizedDriveLetter last then segs else segs.dropLast

/-- The state of reading a path: its segments so far, and whether a drive letter has taken
the place of the host. -/
structure PathState where
  segs : List String
  dropsHost : Bool := false

/-- Adds one segment as read (already encoded); `final` tells whether it ends the path. -/
def PathState.add (file : Bool) (st : PathState) (seg : String) (final : Bool) : PathState :=
  let tail := if final then [""] else []
  if isDoubleDot seg then { st with segs := shorten file st.segs ++ tail }
  else if isSingleDot seg then { st with segs := st.segs ++ tail }
  else if file && st.segs.isEmpty && isDriveLetter seg then
    { segs := [String.ofList [seg.front, ':']], dropsHost := true }
  else { st with segs := st.segs ++ [seg] }

/-- The raw segments of a path text: the pieces between separators. -/
def rawSegments (special : Bool) (cs : List Char) : List (List Char) :=
  let isSep := fun c => c == '/' || (special && c == '\\')
  (cs.foldr (fun c acc =>
    if isSep c then [] :: acc
    else match acc with
      | g :: rest => (c :: g) :: rest
      | [] => [[c]]) [[]])

/-- Reads path segments up to `?` or `#`; returns the path state and the rest. -/
def readPath (special file : Bool) (st : PathState) (cs : List Char) : PathState × List Char :=
  let body := cs.takeWhile fun c => c != '?' && c != '#'
  let raws := rawSegments special body
  let n := raws.length
  let st := raws.zipIdx.foldl (fun st (raw, i) =>
    st.add file (String.ofList (encode .path raw)) (i + 1 == n)) st
  (st, cs.drop body.length)

/-- A file path drops its leading empty segments, keeping one if nothing else remains. -/
def trimFileSegments (segs : List String) : List String :=
  match segs.dropWhile (· == "") with
  | [] => [""]
  | rest => rest

/-- The query and fragment, from the text after the path. -/
def queryAndFragment (special : Bool) (cs : List Char) : Option String × Option String :=
  let fragmentOf := fun (f : List Char) => String.ofList (encode .fragment f)
  match cs with
  | '?' :: r =>
    let q := r.takeWhile (· != '#')
    let set := if special then EncodeSet.specialQuery else EncodeSet.query
    let f := match r.drop q.length with
      | '#' :: f => some (fragmentOf f)
      | _ => none
    (some (String.ofList (encode set q)), f)
  | '#' :: f => (none, some (fragmentOf f))
  | _ => (none, none)

/-- Whether a character separates path segments in a special URL. -/
def isSlash (c : Char) : Bool := c == '/' || c == '\\'

/-! ## Whole URLs -/

/-- The host of a URL: read as a special host for the special schemes, as an opaque one
otherwise. -/
def parseHost (toAscii : List Char → Option String) (special : Bool) (cs : List Char) :
    Except ParseError Host :=
  if special then parseSpecialHost toAscii cs else parseOpaqueHost cs

/-- The port after a host, absent when it is the scheme's default, and the text after it. -/
def portAfterHost (scheme : String) : List Char → Except ParseError (Option Nat × List Char)
  | ':' :: r => do
    let (p, r) ← parsePort none r
    pure (if p == defaultPort scheme then none else p, r)
  | rest => pure (none, rest)

/-- The path segments of a URL with an authority, read from the text after its port, and the
text after them. -/
def authorityPath (special : Bool) (rest : List Char) : List String × List Char :=
  if special then
    let (st, r) := readPath true false ⟨[], false⟩ (match rest with
      | c :: r => if isSlash c then r else rest
      | [] => [])
    (st.segs, r)
  else
    match rest with
    | [] => ([], [])
    | '?' :: _ => ([], rest)
    | '#' :: _ => ([], rest)
    | '/' :: r => let (st, r) := readPath false false ⟨[], false⟩ r; (st.segs, r)
    | _ => let (st, r) := readPath false false ⟨[], false⟩ rest; (st.segs, r)

/-- A URL whose host follows `//` (or, for special schemes, any run of slashes). -/
def parseWithAuthority (toAscii : List Char → Option String) (scheme : String) (special : Bool)
    (cs : List Char) : Except ParseError Url := do
  let (user, pass, rest) ← splitUserinfo special cs
  let (hostChars, rest) := splitHost special false rest
  if special && hostChars.isEmpty then throw .emptyHost
  let host ← parseHost toAscii special hostChars
  let emptyHost := host == .domain ""
  if emptyHost && rest.head? == some ':' then throw .emptyHost
  let (port, rest) ← portAfterHost scheme rest
  if emptyHost && !(user.isEmpty && pass.isEmpty) then throw .emptyHost
  let (segs, rest) := authorityPath special rest
  let (query, fragment) := queryAndFragment special rest
  pure { scheme, username := user, password := pass, host := some host, port,
         path := .segments segs, query, fragment }

/-- A file URL from its path text, with the host it has so far. -/
def fileUrl (host : Host) (st : PathState) (rest : List Char) : Url :=
  let (query, fragment) := queryAndFragment true rest
  { scheme := "file", host := some (if st.dropsHost then .domain "" else host),
    path := .segments (trimFileSegments st.segs), query, fragment }

/-- A URL of the `file` scheme. -/
def parseFile (toAscii : List Char → Option String) (cs : List Char) : Except ParseError Url :=
  match cs with
  | s1 :: s2 :: r =>
    if isSlash s1 && isSlash s2 then
      let buf := r.takeWhile fun c => !(isSlash c || c == '?' || c == '#')
      let after := r.drop buf.length
      if isDriveLetter (String.ofList buf) then
        let (st, rest) := readPath true true ⟨[], false⟩ r
        .ok (fileUrl (.domain "") st rest)
      else if buf.isEmpty then
        let (st, rest) := readPath true true ⟨[], false⟩ after
        .ok (fileUrl (.domain "") st rest)
      else do
        let host ← parseSpecialHost toAscii buf
        if host == .domain "localhost" then
          let (st, rest) := readPath true true ⟨[], false⟩ after
          pure (fileUrl (.domain "") st rest)
        else
          let body := match after with
            | c :: r => if isSlash c then r else after
            | [] => []
          let (st, rest) := readPath true true ⟨[], false⟩ body
          pure (fileUrl host st rest)
    else if isSlash s1 then
      let (st, rest) := readPath true true ⟨[], false⟩ (s2 :: r)
      .ok (fileUrl (.domain "") st rest)
    else
      let (st, rest) := readPath true true ⟨[], false⟩ cs
      .ok (fileUrl (.domain "") st rest)
  | [s1] =>
    let (st, rest) := readPath true true ⟨[], false⟩ (if isSlash s1 then [] else [s1])
    .ok (fileUrl (.domain "") st rest)
  | [] =>
    let (st, rest) := readPath true true ⟨[], false⟩ []
    .ok (fileUrl (.domain "") st rest)

/-- Reads an absolute URL, with `toAscii` as the IDNA step. -/
def parseWith (toAscii : List Char → Option String) (input : String) : Except ParseError Url :=
  match splitScheme (clean input) with
  | none => .error .relativeUrlWithoutBase
  | some (scheme, rest) =>
    if scheme == "file" then parseFile toAscii rest
    else if isSpecial scheme then parseWithAuthority toAscii scheme true (rest.dropWhile isSlash)
    else
      match rest with
      | '/' :: '/' :: r => parseWithAuthority toAscii scheme false r
      | '/' :: r =>
        let (st, rest) := readPath false false ⟨[], false⟩ r
        let (query, fragment) := queryAndFragment false rest
        .ok { scheme, path := .segments st.segs, query, fragment }
      | _ =>
        let body := rest.takeWhile fun c => c != '?' && c != '#'
        let (query, fragment) := queryAndFragment false (rest.drop body.length)
        .ok { scheme, path := .plain (String.ofList (encode .controls body)), query, fragment }

/-- Reads an absolute URL. -/
def parse (input : String) : Except ParseError Url := parseWith domainToAscii input

/-! ## Changing a URL -/

/-- The URL with its password replaced, written with the user-info encode set; `none` for a URL
that cannot have credentials: one without a host, with an empty host, or of the `file`
scheme. -/
def setPassword (u : Url) (p : String) : Option Url :=
  if u.host.isNone || u.host == some (.domain "") || u.scheme == "file" then none
  else some { u with password := String.ofList (encode .userinfo p.toList) }

end HandlePool.Url
