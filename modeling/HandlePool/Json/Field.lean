import HandlePool.Json.Skip
/-!
# Typed values of a JSON document

Readers for the kinds of value a configuration record holds: unsigned integers, booleans,
strings, lists of strings, string-to-string maps, optional values (`null` for absent), and
records with named fields. Each reader takes the document from the value on and returns the
value and the rest, or a failure placed where it was found.

A value of the wrong kind is reported with what was found there, read far enough to name it
(`invalid type: string "10", expected usize`). A record can also be written as a list of its
field values in order. A record refusing unknown keys reports an unknown or repeated key at
the end of the object's whitespace, as if the object had been closed there.
-/

namespace HandlePool.Json

/-- The failure for a value of the wrong kind at `cs`, after reading as much of it as names
it. -/
def wrongKind (expected : String) (cs : List UInt8) : Failure :=
  let found (r : Except Failure (Found × List UInt8)) : Failure :=
    match r with
    | .ok (f, rest) => .at (.invalidType f expected) rest
    | .error e => e
  match cs with
  | 110 :: rest => found ((literal [117, 108, 108] rest).map (.null, ·))
  | 116 :: rest => found ((literal [114, 117, 101] rest).map (.bool true, ·))
  | 102 :: rest => found ((literal [97, 108, 115, 101] rest).map (.bool false, ·))
  | 45 :: rest => found ((readNumber false rest).map fun (n, r) => (n.found, r))
  | 34 :: rest => found ((readString rest).map fun (s, r) => (.string s, r))
  | 91 :: _ => .at (.invalidType .sequence expected) cs
  | 123 :: _ => .at (.invalidType .map expected) cs
  | d :: _ =>
    if isDigit d then found ((readNumber true cs).map fun (n, r) => (n.found, r))
    else .ahead .expectedValue cs
  | [] => .ahead .expectedValue cs

/-- An unsigned 64-bit integer; `expected` names the type in messages. -/
def readUnsigned (expected : String) (cs : List UInt8) : Step Nat :=
  let accept (r : Step Number) : Step Nat :=
    match r with
    | .ok (.unsigned n, rest) => .ok (n, rest)
    | .ok (.signed i, rest) =>
      if 0 ≤ i then .ok (i.toNat, rest) else .error (.at (.invalidValue (.signed i) expected) rest)
    | .ok (.float x, rest) => .error (.at (.invalidType (.float x) expected) rest)
    | .error e => .error e
  match skipSpace cs with
  | [] => .error (.ahead .eofWhileParsingValue [])
  | 45 :: rest => accept (readNumber false rest)
  | d :: rest =>
    if isDigit d then accept (readNumber true (d :: rest))
    else .error (wrongKind expected (d :: rest))

/-- A boolean. -/
def readBool (cs : List UInt8) : Step Bool :=
  match skipSpace cs with
  | [] => .error (.ahead .eofWhileParsingValue [])
  | 116 :: rest => (literal [114, 117, 101] rest).map (true, ·)
  | 102 :: rest => (literal [97, 108, 115, 101] rest).map (false, ·)
  | p => .error (wrongKind "a boolean" p)

/-- A string. -/
def readText (cs : List UInt8) : Step String :=
  match skipSpace cs with
  | [] => .error (.ahead .eofWhileParsingValue [])
  | 34 :: rest => readString rest
  | p => .error (wrongKind "a string" p)

/-- `null` for absent, or a value. -/
def readOptional {α : Type} (inner : List UInt8 → Step α) (cs : List UInt8) : Step (Option α) :=
  match skipSpace cs with
  | 110 :: rest => (literal [117, 108, 108] rest).map (none, ·)
  | p => (inner p).map fun (v, r) => (some v, r)

/-- The colon between a key and its value. -/
def readColon (cs : List UInt8) : Except Failure (List UInt8) :=
  match skipSpace cs with
  | 58 :: rest => .ok rest
  | [] => .error (.ahead .eofWhileParsingObject [])
  | p => .error (.ahead .expectedColon p)

/-- The end of a list whose wanted elements have been read. -/
def closeList (cs : List UInt8) : Except Failure (List UInt8) :=
  match skipSpace cs with
  | 93 :: rest => .ok rest
  | 44 :: rest =>
    match skipSpace rest with
    | 93 :: more => .error (.ahead .trailingComma (93 :: more))
    | p => .error (.ahead .trailingCharacters p)
  | [] => .error (.ahead .eofWhileParsingList [])
  | p => .error (.ahead .trailingCharacters p)

/-- The end of an object whose entries have been read. -/
def closeObject (cs : List UInt8) : Except Failure (List UInt8) :=
  match skipSpace cs with
  | 125 :: rest => .ok rest
  | 44 :: rest => .error (.ahead .trailingComma (44 :: rest))
  | [] => .error (.ahead .eofWhileParsingObject [])
  | p => .error (.ahead .trailingCharacters p)

/-- A value read by `r`, followed by what `close` accepts. -/
def closing {α : Type} (r : Step α) (close : List UInt8 → Except Failure (List UInt8)) : Step α :=
  match r with
  | .ok (v, rest) => (close rest).map (v, ·)
  | .error e => .error e

/-- Where the next element of a list starts, if there is one: `none` at the closing bracket. -/
def nextElement (first : Bool) (cs : List UInt8) : Except Failure (Option (List UInt8)) :=
  match skipSpace cs with
  | 93 :: _ => .ok none
  | 44 :: rest =>
    if first then .ok (some (44 :: rest))
    else
      match skipSpace rest with
      | 93 :: more => .error (.ahead .trailingComma (93 :: more))
      | [] => .error (.ahead .eofWhileParsingValue [])
      | p => .ok (some p)
  | [] => .error (.ahead .eofWhileParsingList [])
  | p => if first then .ok (some p) else .error (.ahead .expectedListCommaOrEnd p)

/-- Where the next key of an object starts (at its quote), if there is one: `none` at the
closing brace. -/
def nextKey (first : Bool) (cs : List UInt8) : Except Failure (Option (List UInt8)) :=
  let key (p : List UInt8) : Except Failure (Option (List UInt8)) :=
    match p with
    | 34 :: rest => .ok (some rest)
    | 125 :: rest => .error (.ahead .trailingComma (125 :: rest))
    | [] => .error (.ahead .eofWhileParsingValue [])
    | _ => .error (.ahead .keyMustBeAString p)
  match skipSpace cs with
  | 125 :: _ => .ok none
  | 44 :: rest => if first then key (44 :: rest) else key (skipSpace rest)
  | [] => .error (.ahead .eofWhileParsingObject [])
  | p => if first then key p else .error (.ahead .expectedObjectCommaOrEnd p)

/-- The elements of a list of strings, for at most `fuel` elements. -/
def textElements (fuel : Nat) (first : Bool) (acc : List String) (cs : List UInt8) :
    Step (List String) :=
  match fuel with
  | 0 => .ok (acc.reverse, cs)
  | fuel + 1 =>
    match nextElement first cs with
    | .error e => .error e
    | .ok none => .ok (acc.reverse, skipSpace cs)
    | .ok (some p) =>
      match readText p with
      | .ok (s, rest) => textElements fuel false (s :: acc) rest
      | .error e => .error e

/-- A list of strings. -/
def readTexts (cs : List UInt8) : Step (List String) :=
  match skipSpace cs with
  | [] => .error (.ahead .eofWhileParsingValue [])
  | 91 :: rest => closing (textElements (rest.length + 1) true [] rest) closeList
  | p => .error (wrongKind "a sequence" p)

/-- The entries of a string-to-string map, in document order, for at most `fuel` entries. -/
def textEntries (fuel : Nat) (first : Bool) (acc : List (String × String)) (cs : List UInt8) :
    Step (List (String × String)) :=
  match fuel with
  | 0 => .ok (acc.reverse, cs)
  | fuel + 1 =>
    match nextKey first cs with
    | .error e => .error e
    | .ok none => .ok (acc.reverse, skipSpace cs)
    | .ok (some p) =>
      match readString p with
      | .error e => .error e
      | .ok (k, rest) =>
        match readColon rest with
        | .error e => .error e
        | .ok rest =>
          match readText rest with
          | .ok (v, rest) => textEntries fuel false ((k, v) :: acc) rest
          | .error e => .error e

/-- A string-to-string map, as its entries in document order. -/
def readTextMap (cs : List UInt8) : Step (List (String × String)) :=
  match skipSpace cs with
  | [] => .error (.ahead .eofWhileParsingValue [])
  | 123 :: rest => closing (textEntries (rest.length + 1) true [] rest) closeObject
  | p => .error (wrongKind "a map" p)

/-- How a record is read: its name in messages, its keys in order, whether unknown keys are
refused, and how the value of each key is read into the record. -/
structure RecordShape (σ : Type) where
  name : String
  fields : List String
  closed : Bool
  field : Nat → σ → List UInt8 → Step σ

/-- Where a failure about a key ending at `rest` is placed: after the whitespace, and after
a closing brace if one follows. -/
def afterObjectEnd (rest : List UInt8) : Nat :=
  match skipSpace rest with
  | 125 :: more => more.length
  | p => p.length

/-- The entries of a record written as an object, for at most `fuel` entries; `seen` holds the
fields already given. -/
def recordEntries {σ : Type} (shape : RecordShape σ) (fuel : Nat) (seen : List Nat)
    (first : Bool) (acc : σ) (cs : List UInt8) : Step σ :=
  match fuel with
  | 0 => .ok (acc, cs)
  | fuel + 1 =>
    match nextKey first cs with
    | .error e => .error e
    | .ok none => .ok (acc, skipSpace cs)
    | .ok (some p) =>
      match readString p with
      | .error e => .error e
      | .ok (name, rest) =>
        match shape.fields.idxOf? name with
        | some i =>
          if seen.contains i then .error ⟨.duplicateField name, afterObjectEnd rest⟩
          else
            match readColon rest with
            | .error e => .error e
            | .ok rest =>
              match shape.field i acc rest with
              | .ok (acc, rest) => recordEntries shape fuel (i :: seen) false acc rest
              | .error e => .error e
        | none =>
          if shape.closed then
            .error ⟨.unknownField name shape.fields, afterObjectEnd rest⟩
          else
            match readColon rest with
            | .error e => .error e
            | .ok rest =>
              match skipValue rest with
              | .ok rest => recordEntries shape fuel seen false acc rest
              | .error e => .error e

/-- The fields of a record written as a list, in order, starting at field `i`; missing
trailing fields keep their defaults. -/
def recordElements {σ : Type} (shape : RecordShape σ) (i : Nat) (left : Nat) (acc : σ)
    (cs : List UInt8) : Step σ :=
  match left with
  | 0 => .ok (acc, cs)
  | left + 1 =>
    match nextElement (i == 0) cs with
    | .error e => .error e
    | .ok none => .ok (acc, cs)
    | .ok (some p) =>
      match shape.field i acc p with
      | .ok (acc, rest) => recordElements shape (i + 1) left acc rest
      | .error e => .error e

/-- A record, written as an object or as a list of field values, starting from `init`. -/
def readRecord {σ : Type} (shape : RecordShape σ) (init : σ) (cs : List UInt8) : Step σ :=
  match skipSpace cs with
  | [] => .error (.ahead .eofWhileParsingValue [])
  | 91 :: rest => closing (recordElements shape 0 shape.fields.length init rest) closeList
  | 123 :: rest => closing (recordEntries shape (rest.length + 1) [] true init rest) closeObject
  | p => .error (wrongKind shape.name p)

end HandlePool.Json
