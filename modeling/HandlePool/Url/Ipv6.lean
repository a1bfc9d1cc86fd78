import HandlePool.Url.Ipv4
/-!
# IPv6 addresses in URLs

An IPv6 host is written in brackets: eight groups of up to four hexadecimal digits separated
by colons, where one `::` stands for a run of zero groups and the last two groups may be
written as a dotted IPv4 address. The address is kept as its eight 16-bit groups.

Reading is a scan of the text with three pieces of state: the groups read so far, the index
of the next group, and where `::` stood. The compressed run is filled in at the end, so the
groups after `::` move to the end of the address.

Writing lowercases the digits and replaces the first longest run of at least two zero groups
by `::`.

* `hexPrefix_rest_length`: reading the digits of one group never makes the text longer,
  which is what the scan's termination rests on.
-/

namespace HandlePool.Url

/-- Reads at most `n` hexadecimal digits; returns their value, how many there were, and the
rest of the text. -/
def hexPrefix (n acc : Nat) : List Char → Nat × Nat × List Char
  | [] => (acc, 0, [])
  | c :: rest =>
    match n, digitIn 16 c with
    | k + 1, some d =>
      let r := hexPrefix k (acc * 16 + d) rest
      (r.1, r.2.1 + 1, r.2.2)
    | _, _ => (acc, 0, c :: rest)

theorem hexPrefix_rest_length (n acc : Nat) (cs : List Char) :
    (hexPrefix n acc cs).2.2.length ≤ cs.length := by
  induction cs generalizing n acc with
  | nil => simp [hexPrefix]
  | cons c rest ih =>
    unfold hexPrefix
    split
    · next k d _ =>
      have := ih k (acc * 16 + d)
      simp only [List.length_cons]
      omega
    · simp

/-- Reads up to three decimal digits of one byte of a dotted tail: `none` for no digit, a
leading zero before another digit, or a value above 255. -/
def dottedByte (acc : Option Nat) : List Char → Option (Nat × List Char)
  | [] => acc.map (·, [])
  | c :: rest =>
    if c.isDigit then
      let d := c.toNat - 48
      match acc with
      | none => dottedByte (some d) rest
      | some 0 => none
      | some v => if v * 10 + d > 255 then none else dottedByte (some (v * 10 + d)) rest
    else acc.map (·, c :: rest)

/-- The groups written by a dotted IPv4 tail, starting at group `index`. The tail must hold
exactly four bytes, separated by dots. -/
def dottedTail (groups : Array Nat) (index seen : Nat) : List Char → Option (Array Nat × Nat)
  | [] => if seen = 4 then some (groups, index) else none
  | c :: rest =>
    let body : Option (List Char) :=
      if seen = 0 then some (c :: rest)
      else if seen < 4 ∧ c = '.' then some rest
      else none
    match body with
    | none => none
    | some body =>
      match dottedByte none body with
      | none => none
      | some (v, after) =>
        let groups := groups.set! index (groups.getD index 0 * 256 + v)
        let index := if seen + 1 = 2 ∨ seen + 1 = 4 then index + 1 else index
        if hshorter : after.length < (c :: rest).length then
          dottedTail groups index (seen + 1) after
        else none
termination_by cs => cs.length
decreasing_by exact hshorter

/-- The scan over the groups of an address. Returns the groups, the index of the next group,
where `::` stood, and the dotted tail if the address ends in one. -/
def hexGroups (groups : Array Nat) (index : Nat) (compress : Option Nat) :
    List Char → Option (Array Nat × Nat × Option Nat × List Char)
  | [] => some (groups, index, compress, [])
  | c :: rest =>
    if index = 8 then none
    else if c = ':' then
      if compress.isSome then none else hexGroups groups (index + 1) (some (index + 1)) rest
    else
      have hlen := hexPrefix_rest_length 4 0 (c :: rest)
      match h : (hexPrefix 4 0 (c :: rest)) with
      | (value, _, []) => some (groups.set! index value, index + 1, compress, [])
      | (_, count, '.' :: _) =>
        if count = 0 ∨ index > 6 then none else some (groups, index, compress, c :: rest)
      | (value, _, ':' :: after) =>
        if after.isEmpty then none
        else
          have : after.length < (c :: rest).length := by
            rw [h] at hlen; simp at hlen; simp; omega
          hexGroups (groups.set! index value) (index + 1) compress after
      | _ => none
termination_by cs => cs.length
decreasing_by
  · exact Nat.lt_succ_self rest.length
  · exact this

/-- The eight groups of an IPv6 address written without brackets. -/
def parseIpv6 (cs : List Char) : Option (List Nat) := do
  if cs.length < 2 then none
  let start : Option (Nat × Option Nat × List Char) :=
    match cs with
    | ':' :: ':' :: rest => some (1, some 1, rest)
    | ':' :: _ => none
    | _ => some (0, none, cs)
  let (index, compress, body) ← start
  let (groups, index, compress, tail) ← hexGroups (Array.replicate 8 0) index compress body
  let (groups, index) ← if tail.isEmpty then some (groups, index) else dottedTail groups index 0 tail
  let groups := groups.toList
  match compress with
  | some at_ => some (groups.take at_ ++ List.replicate (8 - index) 0 ++ (groups.take index).drop at_)
  | none => if index = 8 then some groups else none

/-- Where the first longest run of zero groups starts and how long it is; runs shorter than
two do not count. -/
def longestZeroRun (groups : List Nat) : Option (Nat × Nat) :=
  let step := fun (acc : Option (Nat × Nat) × Option (Nat × Nat)) (ig : Nat × Nat) =>
    let (best, cur) := acc
    let (g, i) := ig
    if g = 0 then
      let cur := match cur with
        | some (s, l) => (s, l + 1)
        | none => (i, 1)
      let best := match best with
        | some (bs, bl) => if cur.2 > bl then some cur else some (bs, bl)
        | none => some cur
      (best, some cur)
    else (best, none)
  match (groups.zipIdx.foldl step (none, none)).1 with
  | some (s, l) => if l ≥ 2 then some (s, l) else none
  | none => none

/-- Lowercase hexadecimal digits of a group, without leading zeros. -/
def groupText (g : Nat) : String :=
  String.ofList (Nat.toDigits 16 g)

/-- The text of an IPv6 address, without brackets. -/
def ipv6Text (groups : List Nat) : String :=
  let texts := groups.map groupText
  match longestZeroRun groups with
  | none => ":".intercalate texts
  | some (s, l) =>
    ":".intercalate (texts.take s) ++ "::" ++ ":".intercalate (texts.drop (s + l))

end HandlePool.Url
