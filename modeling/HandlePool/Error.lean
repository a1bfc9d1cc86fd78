/-!
# Errors of the handle pool

Every failure the pool reports is one constructor of `Error`, carrying the data its
message needs. The wording lives in one place, `Error.message`, so that a statement
about *which* error arises never has to talk about text. A computation that can fail is taken
apart step by step with `bind_eq_ok`.
-/

namespace HandlePool

/-- Why an operation of the pool failed. -/
inductive Error where
  /-- The cache already holds its maximum number of active keys. -/
  | cacheFull (maxSize : Nat)
  /-- The backend refused to open a resource for `target` (its masked display). -/
  | backendCreateFailed (target : String) (reason : String)
  /-- Closing `resource` (its description) failed in the backend. -/
  | backendClose (resource : String) (reason : String)
  /-- The principal authenticated with a method keys cannot be derived from. -/
  | unsupportedAuthMethod (method : String)
  /-- An operation kept for its interface only. -/
  | unsupportedOperation (operation : String)
  /-- The text `input` is not an absolute URL; `reason` says why. -/
  | invalidTarget (input : String) (reason : String)
  /-- A setting or an identity is missing or malformed. -/
  | configuration (message : String)
  /-- A file operation failed. -/
  | fileSystem (path : String) (operation : String) (reason : String)
  /-- A configuration document is not the expected JSON. -/
  | json (message : String)
deriving DecidableEq, Repr

namespace Error

/-- The human-readable text of an error. -/
def message : Error → String
  | cacheFull n => s!"handle cache max size has been reached: {n}"
  | backendCreateFailed t r => s!"failed to create backend resource for '{t}': {r}"
  | backendClose res r => s!"failed to close backend resource {res}: {r}"
  | unsupportedAuthMethod m => s!"unsupported authentication method: {m}"
  | unsupportedOperation op => s!"unsupported operation: {op}"
  | invalidTarget i r => s!"invalid target '{i}': {r}"
  | configuration m => s!"configuration error: {m}"
  | fileSystem p op r => s!"file system {op} operation failed for '{p}': {r}"
  | json m => s!"JSON error: {m}"

end Error

/-- A computation bound after another succeeds only when the first succeeded and the second,
run on its result, gave the final one. -/
theorem bind_eq_ok {ε α β : Type} {x : Except ε α} {f : α → Except ε β} {b : β}
    (h : x >>= f = .ok b) : ∃ a, x = .ok a ∧ f a = .ok b := by
  cases x with
  | error e => cases h
  | ok a => exact ⟨a, rfl, h⟩

end HandlePool
