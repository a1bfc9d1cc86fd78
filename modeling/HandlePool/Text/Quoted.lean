import HandlePool.Text.Printable
import HandlePool.Text.GraphemeExtend
/-!
# Quoted literals

The double-quoted form of a text used in diagnostics: the quote and the backslash are
escaped, NUL, tab, carriage return and line feed take their short escapes, and every other
character that is not printable, or that would attach to the character before it, is written
`\u` followed by its code point in lowercase hexadecimal between braces. Everything else,
the single quote included, stands for itself.
-/

namespace HandlePool.Text

/-- Lowercase hexadecimal digits of `n`, most significant first, without leading zeros. -/
def hexDigits (n : Nat) : List Char :=
  if n < 16 then [Nat.digitChar n] else hexDigits (n / 16) ++ [Nat.digitChar (n % 16)]
termination_by n
decreasing_by omega

/-- The escape that names a code point: backslash, `u`, and its hex digits in braces. -/
def codePointEscape (c : Char) : List Char :=
  ['\\', 'u', '\x7b'] ++ hexDigits c.toNat ++ ['\x7d']

/-- How one character is written inside a quoted literal. -/
def quoteChar (c : Char) : List Char :=
  if c = '\x00' then ['\\', '0']
  else if c = '\t' then ['\\', 't']
  else if c = '\r' then ['\\', 'r']
  else if c = '\n' then ['\\', 'n']
  else if c = '\\' then ['\\', '\\']
  else if c = '"' then ['\\', '"']
  else if isGraphemeExtend c || !isPrintable c then codePointEscape c
  else [c]

/-- The quoted literal of a text. -/
def quoted (s : String) : String :=
  String.ofList ('"' :: (s.toList.flatMap quoteChar ++ ['"']))

end HandlePool.Text
