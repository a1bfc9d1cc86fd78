import HandlePool.Config.Basic
import HandlePool.Text.Blank
/-!
# Configuration from the environment

Variables named `FSPOOL_*` override single settings. A value is trimmed of blank characters
and lowercased before it is read; integers are unsigned decimal with an optional `+`, and
booleans are `true` or `false`. A value that is not UTF-8 counts as unset. The scheme list is
split at commas, each part trimmed and lowercased, empty parts dropped.

The variables are read in a fixed order and the first bad value is reported with its text
as it was set.
-/

namespace HandlePool.Config

/-- Variables and their values as bytes; a later setting of a name hides an earlier one. -/
structure Environment where
  vars : List (String × List UInt8) := []
  deriving Repr

/-- The value of a variable, if it is set and is UTF-8. -/
def Environment.get? (env : Environment) (name : String) : Option String :=
  match (env.vars.reverse.find? (·.1 == name)) with
  | some (_, bytes) => String.fromUTF8? (ByteArray.mk bytes.toArray)
  | none => none

/-- Reads an unsigned 64-bit decimal integer; the error says why it is not one. -/
def parseUnsigned (s : String) : Except String Nat :=
  let digits : List Char → Except String Nat := fun cs =>
    cs.foldlM (fun acc c =>
      if c.isDigit then
        let v := acc * 10 + (c.toNat - 48)
        if v ≥ Nat.pow 2 64 then .error "number too large to fit in target type" else .ok v
      else .error "invalid digit found in string") 0
  match s.toList with
  | [] => .error "cannot parse integer from empty string"
  | ['+'] => .error "invalid digit found in string"
  | '+' :: rest => digits rest
  | cs => digits cs

/-- Reads `true` or `false`. -/
def parseBool (s : String) : Except String Bool :=
  match s with
  | "true" => .ok true
  | "false" => .ok false
  | _ => .error "provided string was not `true` or `false`"

/-- The variables, in the order they are read. -/
def maxSizeVar : String := "FSPOOL_CACHE_MAX_SIZE"
def delayVar : String := "FSPOOL_DEFERRED_CLOSE_DELAY_MS"
def sweepVar : String := "FSPOOL_DEFERRED_CLOSE_SWEEP_INTERVAL_MS"
def finalizerVar : String := "FSPOOL_FINALIZER_WAIT_TIMEOUT_MS"
def schemesVar : String := "FSPOOL_IDENTITY_SENSITIVE_SCHEMES"
def closePendingVar : String := "FSPOOL_CLOSE_PENDING_ON_SHUTDOWN"

/-- The setting a variable gives, if it is set. -/
def setting {α : Type} (env : Environment) (name : String) (parse : String → Except String α) :
    Except Error (Option α) :=
  match env.get? name with
  | none => .ok none
  | some raw =>
    match parse (Text.toLower (Text.trimBlank raw)) with
    | .ok v => .ok (some v)
    | .error e => .error (.configuration ("invalid value '" ++ raw ++ "' for " ++ name ++ ": " ++ e))

/-- The schemes a comma-separated list names. -/
def schemeList (raw : String) : List String :=
  ((raw.splitOn ",").map Text.trimBlank).filter (!·.isEmpty) |>.map Text.toLower

/-- The settings the environment gives. -/
def envPatch (env : Environment) : Except Error ConfigPatch := do
  let maxCacheSize ← setting env maxSizeVar parseUnsigned
  let deferredCloseDelayMs ← setting env delayVar parseUnsigned
  let sweepIntervalMs ← setting env sweepVar parseUnsigned
  let finalizerWaitTimeoutMs ← setting env finalizerVar parseUnsigned
  let identitySensitiveSchemes := (env.get? schemesVar).map schemeList
  let closePendingOnShutdown ← setting env closePendingVar parseBool
  pure { maxCacheSize, deferredCloseDelayMs, sweepIntervalMs, finalizerWaitTimeoutMs,
         identitySensitiveSchemes, closePendingOnShutdown }

/-- Lays the environment over `c`; the flag tells whether any variable applied. -/
def applyEnv (env : Environment) (c : Config) : Except Error (Bool × Config) := do
  let p ← envPatch env
  pure (p.setsAny, c.overlay p false)

end HandlePool.Config
