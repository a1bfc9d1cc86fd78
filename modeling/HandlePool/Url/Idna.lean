import HandlePool.Text.RangeTable
import HandlePool.Text.Mark
import HandlePool.Url.IdnaTable
import HandlePool.Url.Punycode
/-!
# Domain names to ASCII

A host of a special URL is prepared for the DNS by Unicode IDNA compatibility processing,
nontransitional, without hyphen or length checks, and refusing the ASCII characters that a
URL host may not hold:

1. every code point is mapped by the table of `IdnaTable` (kept, replaced, dropped, or
   refused);
2. the result is split into labels at dots;
3. a label written `xn--…` must decode, as Punycode, to a label that is not pure ASCII and
   whose code points the table keeps;
4. no label may begin with a combining mark, and a zero-width joiner or non-joiner must
   follow a virama;
5. a label with code points beyond ASCII is written `xn--` and its Punycode encoding.

* `status_of_uncovered`: a code point no entry of the table covers is kept.
-/

namespace HandlePool.Url

/-- What the mapping table does with a span of code points. -/
inductive IdnaAction where
  /-- The code points are refused. -/
  | refused
  /-- The code points are dropped. -/
  | ignored
  /-- The code points are kept (they differ only under transitional processing). -/
  | deviation
  /-- The code points `lo, lo + stride, …` map to the code point `delta` further; the others
  of the span are kept. -/
  | shift (stride : Nat) (delta : Int)
  /-- Every code point of the span maps to this text. -/
  | replace (text : List Nat)
  deriving Repr, Inhabited

/-- One entry of the table: a span of code points and what is done with them. -/
structure IdnaEntry where
  lo : Nat
  hi : Nat
  action : IdnaAction
  deriving Repr, Inhabited

/-- The value of a hexadecimal numeral, possibly negative. -/
def signedHex (s : String) : Int :=
  match s.toList with
  | '-' :: rest => -(Text.RangeTable.hexValue (String.ofList rest) : Int)
  | _ => Text.RangeTable.hexValue s

/-- Reads one entry `lo-hi:…`; an entry it cannot read refuses nothing and keeps nothing. -/
def IdnaEntry.ofText (s : String) : IdnaEntry :=
  match s.splitOn ":" with
  | [span, kind] =>
    let (lo, hi) := Text.RangeTable.pairOfHex span
    let action := match kind with
      | "x" => .refused
      | "i" => .ignored
      | _ => .deviation
    ⟨lo, hi, action⟩
  | [span, "s", text] =>
    let (lo, hi) := Text.RangeTable.pairOfHex span
    ⟨lo, hi, .replace ((text.splitOn " ").map Text.RangeTable.hexValue)⟩
  | [span, stride, delta] =>
    let (lo, hi) := Text.RangeTable.pairOfHex span
    ⟨lo, hi, .shift (Text.RangeTable.hexValue (String.ofList (stride.toList.drop 1))) (signedHex delta)⟩
  | _ => ⟨1, 0, .deviation⟩

/-- The mapping table, sorted by first code point. -/
def idnaTable : Array IdnaEntry :=
  ((idnaMappingText.splitOn ",").map IdnaEntry.ofText).toArray

/-- How one code point is treated. -/
inductive IdnaStatus where
  | valid
  | mapped (text : List Char)
  | ignored
  | refused
  deriving Repr, DecidableEq

/-- The index of the last entry among `[lo, hi)` whose span starts at or before `c`, if any
(`best` is the answer found so far). -/
def lastStartingAtOrBefore (t : Array IdnaEntry) (c : Nat) (lo hi : Nat) (best : Option Nat) :
    Option Nat :=
  if lo < hi then
    let mid := (lo + hi) / 2
    if (t.getD mid default).lo ≤ c then lastStartingAtOrBefore t c (mid + 1) hi (some mid)
    else lastStartingAtOrBefore t c lo mid best
  else best
termination_by hi - lo

/-- What an entry does with a code point of its span. -/
def IdnaEntry.statusOf (e : IdnaEntry) (c : Nat) : IdnaStatus :=
  match e.action with
  | .refused => .refused
  | .ignored => .ignored
  | .deviation => .valid
  | .shift stride delta =>
    if stride = 0 ∨ (c - e.lo) % stride = 0 then .mapped [Char.ofNat (c + delta).toNat]
    else .valid
  | .replace text => .mapped (text.map Char.ofNat)

/-- How the table treats the code point `c`. -/
def statusIn (t : Array IdnaEntry) (c : Char) : IdnaStatus :=
  match lastStartingAtOrBefore t c.toNat 0 t.size none with
  | none => .valid
  | some i =>
    let e := t.getD i default
    if c.toNat ≤ e.hi then e.statusOf c.toNat else .valid

/-- How the mapping table treats the code point `c`. -/
def idnaStatus (c : Char) : IdnaStatus := statusIn idnaTable c

theorem status_of_uncovered (t : Array IdnaEntry) (c : Char)
    (h : lastStartingAtOrBefore t c.toNat 0 t.size none = none) : statusIn t c = .valid := by
  simp [statusIn, h]

/-- ASCII characters a URL host may not hold: controls, space, `DEL` and `%#/:<>?@[\]^|`. -/
def deniedInHost (c : Char) : Bool :=
  c.toNat ≤ 0x20 || c.toNat = 0x7F || "%#/:<>?@[\\]^|".toList.contains c

/-- The viramas: marks after which a joiner may stand. -/
def viramas : Text.RangeTable := .ofHex
  ("94d-94d,9cd-9cd,a4d-a4d,acd-acd,b4d-b4d,bcd-bcd,c4d-c4d,ccd-ccd,d3b-d3c,d4d-d4d,dca-dca," ++
  "e3a-e3a,eba-eba,f84-f84,1039-103a,1714-1715,1734-1734,17d2-17d2,1a60-1a60,1b44-1b44," ++
  "1baa-1bab,1bf2-1bf3,2d7f-2d7f,a806-a806,a82c-a82c,a8c4-a8c4,a953-a953,a9c0-a9c0,aaf6-aaf6," ++
  "abed-abed,10a3f-10a3f,11046-11046,11070-11070,1107f-1107f,110b9-110b9,11133-11134," ++
  "111c0-111c0,11235-11235,112ea-112ea,1134d-1134d,11442-11442,114c2-114c2,115bf-115bf," ++
  "1163f-1163f,116b6-116b6,1172b-1172b,11839-11839,1193d-1193e,119e0-119e0,11a34-11a34," ++
  "11a47-11a47,11a99-11a99,11c3f-11c3f,11d44-11d45,11d97-11d97")

/-- Whether every joiner of a label follows a virama. -/
def joinersFollowViramas : Option Char → List Char → Bool
  | _, [] => true
  | prev, c :: rest =>
    let joinerOk :=
      if c.toNat = 0x200C ∨ c.toNat = 0x200D then
        match prev with
        | some p => viramas.contains p.toNat
        | none => false
      else true
    joinerOk && joinersFollowViramas (some c) rest

/-- The checks every label passes: no combining mark first, joiners after viramas. -/
def labelShapeOk (label : List Char) : Bool :=
  (match label with
    | c :: _ => !Text.isMark c
    | [] => true) &&
  joinersFollowViramas none label

/-- Maps a domain through the table; `none` if a code point is refused or a denied ASCII
character results. -/
def mapDomain (cs : List Char) : Option (List Char) := do
  let parts ← cs.mapM fun c =>
    match idnaStatus c with
    | .valid => some [c]
    | .mapped t => some t
    | .ignored => some []
    | .refused => none
  let out := parts.flatten
  if out.any deniedInHost then none else some out

/-- Whether a decoded label only holds code points the table keeps as they are. -/
def keptAsIs (label : List Char) : Bool :=
  label.all fun c => idnaStatus c == .valid && !deniedInHost c && c != '.'

/-- The ASCII form of one mapped label. -/
def labelToAscii (label : List Char) : Option (List Char) :=
  match label with
  | 'x' :: 'n' :: '-' :: '-' :: encoded =>
    match Punycode.decode encoded with
    | none => none
    | some decoded =>
      if decoded.isEmpty || decoded.all (·.toNat < 0x80) then none
      else if keptAsIs decoded && labelShapeOk decoded then some label
      else none
  | _ =>
    if !labelShapeOk label then none
    else if label.all (·.toNat < 0x80) then some label
    else some ("xn--".toList ++ Punycode.encode label)

/-- The ASCII form of a domain, or `none` if it is no valid international domain name. -/
def domainToAscii (cs : List Char) : Option String := do
  let mapped ← mapDomain cs
  let labels ← (mapped.splitOn '.').mapM labelToAscii
  pure (String.ofList (List.intercalate ['.'] labels))

end HandlePool.Url
