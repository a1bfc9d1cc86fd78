import HandlePool.Text.Quoted
import HandlePool.Decimal.Text
/-!
# Failures while reading a JSON document

A failure is a fault and the place it was found. The reader works on what is left of the
document, so a place is kept as the number of bytes still unread; the line and column (bytes
since the last line feed) are computed from the whole document only when the failure is
described.

A fault is either a fault of syntax or a value of the wrong kind for the field being read;
for the latter `Found` describes what the document held.
-/

namespace HandlePool.Json

/-- What a document held where a value of another kind was expected. -/
inductive Found where
  | null
  | bool (b : Bool)
  | unsigned (n : Nat)
  | signed (i : Int)
  | float (x : Decimal.Binary64)
  | string (s : String)
  | sequence
  | map
  deriving Repr

/-- How a found value is named in a message. -/
def Found.describe : Found → String
  | .null => "null"
  | .bool b => "boolean `" ++ (if b then "true" else "false") ++ "`"
  | .unsigned n => "integer `" ++ toString n ++ "`"
  | .signed i => "integer `" ++ toString i ++ "`"
  | .float x => "floating point `" ++ x.render Decimal.Style.standard ++ "`"
  | .string s => "string " ++ Text.quoted s
  | .sequence => "sequence"
  | .map => "map"

/-- What is wrong with a document. -/
inductive Fault where
  | eofWhileParsingList
  | eofWhileParsingObject
  | eofWhileParsingString
  | eofWhileParsingValue
  | expectedColon
  | expectedListCommaOrEnd
  | expectedObjectCommaOrEnd
  | expectedIdent
  | expectedValue
  | invalidEscape
  | invalidNumber
  | numberOutOfRange
  | controlCharacter
  | keyMustBeAString
  | loneLeadingSurrogate
  | trailingComma
  | trailingCharacters
  | unexpectedEndOfHexEscape
  /-- A value of the wrong kind. -/
  | invalidType (found : Found) (expected : String)
  /-- A value of the right kind out of the field's range. -/
  | invalidValue (found : Found) (expected : String)
  /-- A key the record does not have; `fields` are the keys it has. -/
  | unknownField (name : String) (fields : List String)
  /-- A key given twice. -/
  | duplicateField (name : String)
  deriving Repr

/-- `` `a` ``, `` `a` or `b` ``, or `` one of `a`, `b`, `c` ``. -/
def oneOf (names : List String) : String :=
  let ticked := names.map fun n => "`" ++ n ++ "`"
  match ticked with
  | [a] => a
  | [a, b] => a ++ " or " ++ b
  | _ => "one of " ++ ", ".intercalate ticked

/-- The description of a fault. -/
def Fault.message : Fault → String
  | .eofWhileParsingList => "EOF while parsing a list"
  | .eofWhileParsingObject => "EOF while parsing an object"
  | .eofWhileParsingString => "EOF while parsing a string"
  | .eofWhileParsingValue => "EOF while parsing a value"
  | .expectedColon => "expected `:`"
  | .expectedListCommaOrEnd => "expected `,` or `]`"
  | .expectedObjectCommaOrEnd => "expected `,` or `\x7d`"
  | .expectedIdent => "expected ident"
  | .expectedValue => "expected value"
  | .invalidEscape => "invalid escape"
  | .invalidNumber => "invalid number"
  | .numberOutOfRange => "number out of range"
  | .controlCharacter => "control character (\\u0000-\\u001F) found while parsing a string"
  | .keyMustBeAString => "key must be a string"
  | .loneLeadingSurrogate => "lone leading surrogate in hex escape"
  | .trailingComma => "trailing comma"
  | .trailingCharacters => "trailing characters"
  | .unexpectedEndOfHexEscape => "unexpected end of hex escape"
  | .invalidType f e => "invalid type: " ++ f.describe ++ ", expected " ++ e
  | .invalidValue f e => "invalid value: " ++ f.describe ++ ", expected " ++ e
  | .unknownField n [] => "unknown field `" ++ n ++ "`, there are no fields"
  | .unknownField n fs => "unknown field `" ++ n ++ "`, expected " ++ oneOf fs
  | .duplicateField n => "duplicate field `" ++ n ++ "`"

/-- A fault and how many bytes of the document were left unread where it was found. -/
structure Failure where
  fault : Fault
  remaining : Nat
  deriving Repr

/-- A failure found with `rest` left unread. -/
def Failure.at (f : Fault) (rest : List UInt8) : Failure := ⟨f, rest.length⟩

/-- A failure placed at the byte about to be read: one byte further than `rest`, unless the
document has ended. -/
def Failure.ahead (f : Fault) (rest : List UInt8) : Failure := ⟨f, rest.length - 1⟩

/-- The line and column of the place `index` bytes into `doc`: lines count from one, columns
count the bytes since the last line feed. -/
def lineColumn (doc : List UInt8) (index : Nat) : Nat × Nat :=
  let before := doc.take index
  let line := 1 + before.count 10
  let column := (before.reverse.takeWhile (· != 10)).length
  (line, column)

/-- The description of a failure in `doc`, with its line and column. -/
def Failure.describe (doc : List UInt8) (e : Failure) : String :=
  let (line, column) := lineColumn doc (doc.length - e.remaining)
  e.fault.message ++ " at line " ++ toString line ++ " column " ++ toString column

/-- The result of reading a part of a document: a value and the rest, or a failure. -/
abbrev Step (α : Type) := Except Failure (α × List UInt8)

/-- Whether a byte is JSON whitespace. -/
def isSpace (b : UInt8) : Bool := b == 32 || b == 10 || b == 9 || b == 13

/-- The document without leading whitespace. -/
def skipSpace (cs : List UInt8) : List UInt8 := cs.dropWhile isSpace

/-- Whether a byte is an ASCII digit. -/
def isDigit (b : UInt8) : Bool := 48 ≤ b && b ≤ 57

/-- Reads the rest of a literal such as `ull` after `n`. -/
def literal : List UInt8 → List UInt8 → Except Failure (List UInt8)
  | [], cs => .ok cs
  | _ :: _, [] => .error (.at .eofWhileParsingValue [])
  | e :: es, c :: rest => if c == e then literal es rest else .error (.at .expectedIdent rest)

end HandlePool.Json
