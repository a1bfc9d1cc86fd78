import HandlePool.Identity.Principal
import HandlePool.Error
/-!
# Where a call's principal comes from

A cache that looks up handles "as the current user" asks an identity source. A fixed source
always names the same principal. A scoped source names the innermost principal of the
current scope, the stack that `runAs` pushes onto and pops from, and otherwise its fallback.

`runAs p body` pushes `p`, runs `body`, and pops one principal when `body` returns; a guard
pops it as well when `body` unwinds from a panic. A thread's use of a scoped source is a list
of calls (`ScopedCall`): reads of the current principal, panics, and `runAs` around more calls.
-/

namespace HandlePool

/-- The stack of principals entered by nested `runAs` calls, innermost first. -/
abbrev Scope := List Principal

namespace Scope

/-- Leaves the innermost level: one principal is popped. -/
def leave (sc : Scope) : Scope := sc.tail

end Scope

/-- A computation on the thread's scope. It returns a value or unwinds from a panic with its
message; either way the scope it leaves behind stays. -/
abbrev Scoped (α : Type) := EStateM String Scope α

namespace Scoped

/-- The scope a finished computation left behind, whether it returned or unwound. -/
def after {α : Type} : EStateM.Result String Scope α → Scope
  | .ok _ sc => sc
  | .error _ sc => sc

/-- Runs `body` with `p` entered: pushes `p`, runs `body`, and pops one principal when `body`
returns and, through the guard, when it unwinds. -/
def runAs {α : Type} (p : Principal) (body : Scoped α) : Scoped α := fun sc =>
  match body (p :: sc) with
  | .ok a sc' => .ok a (Scope.leave sc')
  | .error m sc' => .error m (Scope.leave sc')

end Scoped

/-- What a thread does with a scoped identity source. -/
inductive ScopedCall where
  /-- Reads the current principal. -/
  | read
  /-- Panics with a message. -/
  | panic (message : String)
  /-- Runs more calls with a principal entered. -/
  | runAs (principal : Principal) (body : List ScopedCall)
deriving Repr

/-- The calls that read the source before entering each principal of `stack`, outermost first,
and once more inside the innermost. -/
def ScopedCall.nest : List Principal → List ScopedCall
  | [] => [.read]
  | p :: ps => [.read, .runAs p (nest ps)]

/-- Where a cache takes the principal of a call from. -/
inductive IdentitySource where
  /-- Always this principal. -/
  | fixed (principal : Principal)
  /-- The innermost principal in scope, else the fallback. -/
  | inScope (fallback : Option Principal)
deriving DecidableEq, Repr

namespace IdentitySource

/-- The error when a scoped source has neither a principal in scope nor a fallback. -/
def noPrincipal : Error := .configuration "no principal in scope for the current thread"

/-- The principal the source names while `scope` is in effect. -/
def current (src : IdentitySource) (scope : Scope) : Except Error Principal :=
  match src with
  | fixed p => .ok p
  | inScope fallback =>
    match scope.head?, fallback with
    | some p, _ => .ok p
    | none, some p => .ok p
    | none, none => .error noPrincipal

mutual

/-- Runs one call; answers what its reads gave, in order. -/
def perform (src : IdentitySource) : ScopedCall → Scoped (List (Except Error Principal))
  | .read => fun sc => .ok [src.current sc] sc
  | .panic m => fun sc => .error m sc
  | .runAs p body => Scoped.runAs p (performAll src body)

/-- Runs calls in order until one panics; answers what their reads gave, in order. -/
def performAll (src : IdentitySource) : List ScopedCall → Scoped (List (Except Error Principal))
  | [] => fun sc => .ok [] sc
  | c :: cs => fun sc =>
    match perform src c sc with
    | .ok r sc' =>
      match performAll src cs sc' with
      | .ok rs sc'' => .ok (r ++ rs) sc''
      | .error m sc'' => .error m sc''
    | .error m sc' => .error m sc'

end

/-- What a scoped source reads while `stack` is entered with nested `runAs` calls on a thread
with nothing in scope, outermost first: once before each level and once inside the innermost,
then once after the calls have returned. -/
def nestedReadings (src : IdentitySource) (stack : List Principal) :
    List (Except Error Principal) × Except Error Principal :=
  let r := performAll src (ScopedCall.nest stack) []
  (match r with
    | .ok rs _ => rs
    | .error _ _ => [],
    src.current (Scoped.after r))

end IdentitySource

end HandlePool
