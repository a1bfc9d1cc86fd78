import HandlePool.Json.Number
import HandlePool.Json.Text
/-!
# Skipping a JSON value

A value whose content is not wanted (the value of a key a record ignores) is checked for
syntax and skipped. Skipping keeps a stack of the arrays and objects still open instead of
recursing, so any depth of nesting is accepted.

The machine alternates between two modes: expecting a value, and having just finished one
(or just opened a container). Every step consumes input, so the number of steps is bounded by
twice the length of the input, which is the fuel `skipValue` provides.
-/

namespace HandlePool.Json

/-- An open container. -/
inductive Frame where
  | list
  | object
  deriving DecidableEq, Repr

/-- What the skipping machine does next. -/
inductive SkipMode where
  /-- A value starts here. -/
  | value
  /-- The innermost container continues here; `comma` tells whether a value was just
  finished, so that a comma may follow. -/
  | next (comma : Bool)
  deriving DecidableEq, Repr

/-- Skips the key and colon of an object entry, before its value. -/
def skipKey (cs : List UInt8) : Except Failure (List UInt8) := do
  let rest ← match skipSpace cs with
    | 34 :: r => skipString r
    | [] => throw (.ahead .eofWhileParsingObject [])
    | p => throw (.ahead .keyMustBeAString p)
  match skipSpace rest with
  | 58 :: r => pure r
  | [] => throw (.ahead .eofWhileParsingObject [])
  | p => throw (.ahead .expectedColon p)

/-- Runs the skipping machine for at most `fuel` steps; the stack holds the open containers,
innermost first. Running out of fuel ends the skip where it stands. -/
def skipSteps : Nat → SkipMode → List Frame → List UInt8 → Except Failure (List UInt8)
  | 0, _, _, cs => .ok cs
  | fuel + 1, .value, stack, cs =>
    match skipSpace cs with
    | [] => .error (.ahead .eofWhileParsingValue [])
    | c :: rest =>
      let scalar (r : Except Failure (List UInt8)) : Except Failure (List UInt8) :=
        match r with
        | .ok r => skipSteps fuel (.next true) stack r
        | .error e => .error e
      if c == 110 then scalar (literal [117, 108, 108] rest)
      else if c == 116 then scalar (literal [114, 117, 101] rest)
      else if c == 102 then scalar (literal [97, 108, 115, 101] rest)
      else if c == 45 then scalar (skipNumber rest)
      else if isDigit c then scalar (skipNumber (c :: rest))
      else if c == 34 then scalar (skipString rest)
      else if c == 91 then skipSteps fuel (.next false) (.list :: stack) rest
      else if c == 123 then skipSteps fuel (.next false) (.object :: stack) rest
      else .error (.ahead .expectedValue (c :: rest))
  | fuel + 1, .next comma, stack, cs =>
    match stack with
    | [] => .ok cs
    | frame :: outer =>
      let entry (p : List UInt8) : Except Failure (List UInt8) :=
        if frame = .object then
          match skipKey p with
          | .ok r => skipSteps fuel .value stack r
          | .error e => .error e
        else skipSteps fuel .value stack p
      match skipSpace cs with
      | [] => .error (.ahead (if frame = .list then .eofWhileParsingList
          else .eofWhileParsingObject) [])
      | c :: rest =>
        if comma && c == 44 then entry rest
        else if (c == 93 && frame = .list) || (c == 125 && frame = .object) then
          skipSteps fuel (.next true) outer rest
        else if comma then
          .error (.ahead (if frame = .list then .expectedListCommaOrEnd
            else .expectedObjectCommaOrEnd) (c :: rest))
        else entry (c :: rest)

/-- Skips one value. -/
def skipValue (cs : List UInt8) : Except Failure (List UInt8) :=
  skipSteps (2 * cs.length + 2) .value [] cs

end HandlePool.Json
