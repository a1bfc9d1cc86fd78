/-!
# IPv4 addresses in URLs

A host of a special URL whose last label is a number is an IPv4 address. Its parts are
decimal, octal (a leading `0`) or hexadecimal (a leading `0x`); with fewer than four parts the
last one fills the remaining bytes, so `1.2.3` is `1.2.0.3` and `0x7f.1` is `127.0.0.1`.
-/

namespace HandlePool.Url

/-- The value of a digit in base `radix`, if it is one. -/
def digitIn (radix : Nat) (c : Char) : Option Nat :=
  let v := if '0' ≤ c ∧ c ≤ '9' then some (c.toNat - 48)
    else if 'a' ≤ c ∧ c ≤ 'f' then some (c.toNat - 87)
    else if 'A' ≤ c ∧ c ≤ 'F' then some (c.toNat - 55)
    else none
  match v with
  | some d => if d < radix then some d else none
  | none => none

/-- The value of a numeral in base `radix`; `none` if a character is no digit. -/
def numeralValue (radix : Nat) (cs : List Char) : Option Nat :=
  cs.foldlM (fun acc c => (digitIn radix c).map (acc * radix + ·)) 0

/-- One part of an IPv4 address: `none` if it is not a number, `some none` if it is one
too large for 32 bits. -/
def ipv4Number (cs : List Char) : Option (Option Nat) :=
  if cs.isEmpty then none else
  let (radix, digits) := match cs with
    | '0' :: 'x' :: rest => (16, rest)
    | '0' :: 'X' :: rest => (16, rest)
    | '0' :: rest@(_ :: _) => (8, rest)
    | _ => (10, cs)
  if digits.isEmpty then some (some 0) else
  match numeralValue radix digits with
  | none => none
  | some v => some (if v < Nat.pow 2 32 then some v else none)

/-- The labels of a host, split at dots. -/
def dotParts (cs : List Char) : List (List Char) := cs.splitOn '.'

/-- Whether the last label of a host (the one before a final dot, if there is one) is a
number, which makes the host an IPv4 address. -/
def endsInNumber (cs : List Char) : Bool :=
  let parts := dotParts cs
  let last := match parts.reverse with
    | [] :: prev :: _ => some prev
    | [] :: [] => none
    | l :: _ => some l
    | [] => none
  match last with
  | none => false
  | some l =>
    (!l.isEmpty && l.all Char.isDigit) || (ipv4Number l).isSome

/-- The IPv4 address a host stands for, as a 32-bit number. -/
def parseIpv4 (cs : List Char) : Option Nat := do
  let parts := dotParts cs
  let parts := if parts.getLast? = some [] then parts.dropLast else parts
  if parts.length > 4 then none
  let nums ← parts.mapM fun p => (ipv4Number p).bind id
  match nums.reverse with
  | [] => none
  | last :: revFirst =>
    let first := revFirst.reverse
    if last ≥ Nat.pow 256 (4 - first.length) then none
    if first.any (· > 255) then none
    let high := (first.zipIdx.map fun (n, i) => n * Nat.pow 256 (3 - i)).foldl (· + ·) 0
    pure (high + last)

/-- Dotted decimal notation of a 32-bit address. -/
def ipv4Text (a : Nat) : String :=
  ".".intercalate ([3, 2, 1, 0].map fun i => toString (a / Nat.pow 256 i % 256))

end HandlePool.Url
