import HandlePool.Json.Failure
/-!
# Strings in JSON documents

A string runs from its opening quote to the next unescaped quote. Control characters must be
escaped; `\u` escapes name UTF-16 units, and a high surrogate must be followed at once by an
escaped low surrogate. The document itself is valid UTF-8, so the bytes between escapes are
copied as they are.

Reading a string for its text and skipping it differ in two details: skipping accepts any
four hex digits after `\u`, and places a failure for a control character before it rather
than after it.
-/

namespace HandlePool.Json

/-- The value of a hexadecimal digit byte. -/
def hexDigitValue (b : UInt8) : Option Nat :=
  let n := b.toNat
  if 48 ≤ n ∧ n ≤ 57 then some (n - 48)
  else if 97 ≤ n ∧ n ≤ 102 then some (n - 87)
  else if 65 ≤ n ∧ n ≤ 70 then some (n - 55)
  else none

/-- Four hexadecimal digits of a `\u` escape. -/
def hexUnit (cs : List UInt8) : Except Failure (Nat × List UInt8) :=
  match cs with
  | a :: b :: c :: d :: rest =>
    match hexDigitValue a, hexDigitValue b, hexDigitValue c, hexDigitValue d with
    | some w, some x, some y, some z => .ok (((w * 16 + x) * 16 + y) * 16 + z, rest)
    | _, _, _, _ => .error (.at .invalidEscape rest)
  | _ => .error (.at .eofWhileParsingString [])

/-- The UTF-8 bytes of a code point. -/
def codePointBytes (n : Nat) : List UInt8 := String.utf8EncodeChar (Char.ofNat n)

/-- The text of a `\u` escape after the `u`: a code point, possibly from a surrogate pair. -/
def unicodeEscape (cs : List UInt8) : Except Failure (List UInt8 × List UInt8) := do
  let (n, rest) ← hexUnit cs
  if 0xDC00 ≤ n ∧ n ≤ 0xDFFF then throw (.at .loneLeadingSurrogate rest)
  if n < 0xD800 ∨ n > 0xDBFF then return (codePointBytes n, rest)
  match rest with
  | [] => throw (.at .eofWhileParsingString [])
  | 92 :: rest =>
    match rest with
    | [] => throw (.at .eofWhileParsingString [])
    | 117 :: rest =>
      let (m, rest) ← hexUnit rest
      if m < 0xDC00 ∨ m > 0xDFFF then throw (.at .loneLeadingSurrogate rest)
      return (codePointBytes (0x10000 + (n - 0xD800) * 0x400 + (m - 0xDC00)), rest)
    | _ :: rest => throw (.at .unexpectedEndOfHexEscape rest)
  | _ :: rest => throw (.at .unexpectedEndOfHexEscape rest)

/-- The byte a one-letter escape stands for. -/
def simpleEscape (b : UInt8) : Option UInt8 :=
  match b with
  | 34 => some 34
  | 92 => some 92
  | 47 => some 47
  | 98 => some 8
  | 102 => some 12
  | 110 => some 10
  | 114 => some 13
  | 116 => some 9
  | _ => none

/-- The bytes of a string body up to its closing quote, in reverse, and the rest after it. -/
def stringBytes (acc : List UInt8) : List UInt8 → Except Failure (List UInt8 × List UInt8)
  | [] => .error (.at .eofWhileParsingString [])
  | c :: rest =>
    if c == 34 then .ok (acc, rest)
    else if c == 92 then
      match rest with
      | [] => .error (.at .eofWhileParsingString [])
      | e :: after =>
        if e == 117 then
          match unicodeEscape after with
          | .ok (bytes, after') =>
            if after'.length < after.length + 2 then stringBytes (bytes.reverse ++ acc) after'
            else .error (.at .eofWhileParsingString [])
          | .error err => .error err
        else
          match simpleEscape e with
          | some b => stringBytes (b :: acc) after
          | none => .error (.at .invalidEscape after)
    else if c < 32 then .error (.at .controlCharacter rest)
    else stringBytes (c :: acc) rest
termination_by cs => cs.length

/-- Reads a string after its opening quote. -/
def readString (cs : List UInt8) : Except Failure (String × List UInt8) := do
  let (bytes, rest) ← stringBytes [] cs
  match String.fromUTF8? (ByteArray.mk bytes.reverse.toArray) with
  | some s => pure (s, rest)
  | none => pure ("", rest)

/-- Skips a string after its opening quote. -/
def skipString : List UInt8 → Except Failure (List UInt8)
  | [] => .error (.at .eofWhileParsingString [])
  | c :: rest =>
    if c == 34 then .ok rest
    else if c == 92 then
      match rest with
      | [] => .error (.at .eofWhileParsingString [])
      | e :: after =>
        if e == 117 then
          match hexUnit after with
          | .ok (_, after') =>
            if after'.length < after.length + 2 then skipString after'
            else .error (.at .eofWhileParsingString [])
          | .error err => .error err
        else if (simpleEscape e).isSome then skipString after
        else .error (.at .invalidEscape after)
    else if c < 32 then .error (.at .controlCharacter (c :: rest))
    else skipString rest
termination_by cs => cs.length

end HandlePool.Json
