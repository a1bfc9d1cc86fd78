/-!
# Percent-encoding

A URL component writes some bytes of its UTF-8 text as `%` and two uppercase hexadecimal
digits. Which ASCII bytes are escaped depends on the component (an *encode set*); bytes
beyond ASCII are always escaped. Decoding turns every `%` followed by two hexadecimal digits
back into its byte and leaves any other `%` alone.
-/

namespace HandlePool.Url

/-- The ASCII characters a component escapes besides the controls, `DEL` and non-ASCII. -/
structure EncodeSet where
  extra : List Char

namespace EncodeSet

/-- Controls only. -/
def controls : EncodeSet := ⟨[]⟩
/-- The fragment of a URL. -/
def fragment : EncodeSet := ⟨[' ', '"', '<', '>', '`']⟩
/-- The query of a URL whose scheme is not special. -/
def query : EncodeSet := ⟨[' ', '"', '#', '<', '>']⟩
/-- The query of a URL with a special scheme. -/
def specialQuery : EncodeSet := ⟨[' ', '"', '#', '<', '>', '\'']⟩
/-- Path segments. -/
def path : EncodeSet := ⟨[' ', '"', '<', '>', '`', '#', '?', '\x7b', '\x7d']⟩
/-- User names and passwords. -/
def userinfo : EncodeSet :=
  ⟨path.extra ++ ['/', ':', ';', '=', '@', '[', '\\', ']', '^', '|']⟩

/-- Whether the byte `b` is escaped. -/
def escapes (s : EncodeSet) (b : UInt8) : Bool :=
  b.toNat < 0x20 || b.toNat ≥ 0x7F || s.extra.contains (Char.ofNat b.toNat)

end EncodeSet

/-- An uppercase hexadecimal digit. -/
def upperHexDigit (n : Nat) : Char :=
  if n < 10 then Char.ofNat (48 + n) else Char.ofNat (55 + n)

/-- The escape `%XX` of a byte. -/
def escapeByte (b : UInt8) : List Char :=
  ['%', upperHexDigit (b.toNat / 16), upperHexDigit (b.toNat % 16)]

/-- How one character is written in a component with encode set `s`. -/
def encodeChar (s : EncodeSet) (c : Char) : List Char :=
  (String.utf8EncodeChar c).flatMap fun b =>
    if s.escapes b then escapeByte b else [Char.ofNat b.toNat]

/-- A text written with encode set `s`. -/
def encode (s : EncodeSet) (cs : List Char) : List Char := cs.flatMap (encodeChar s)

/-- The value of a hexadecimal digit character. -/
def hexValue? (c : Char) : Option Nat :=
  if '0' ≤ c ∧ c ≤ '9' then some (c.toNat - 48)
  else if 'a' ≤ c ∧ c ≤ 'f' then some (c.toNat - 87)
  else if 'A' ≤ c ∧ c ≤ 'F' then some (c.toNat - 55)
  else none

/-- Decodes the escapes of a byte string; a `%` not followed by two hex digits stays. -/
def decodeBytes : List UInt8 → List UInt8
  | [] => []
  | b :: h :: l :: tail =>
    match b.toNat == 0x25, hexValue? (Char.ofNat h.toNat), hexValue? (Char.ofNat l.toNat) with
    | true, some x, some y => UInt8.ofNat (16 * x + y) :: decodeBytes tail
    | _, _, _ => b :: decodeBytes (h :: l :: tail)
  | b :: rest => b :: decodeBytes rest

end HandlePool.Url
