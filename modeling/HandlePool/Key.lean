import HandlePool.Target
import HandlePool.Identity.Principal
/-!
# Cache keys

A cached handle is found by its key: the target's scheme and authority, a number that is
zero for shared handles and fresh for exclusive ones, and who the handle is opened for. The
credentials a principal holds are not part of the key; they are compared separately with the
set stored beside the cached handle.

Simple and Kerberos principals are keyed by their own name; a proxy by the name of the user
it acts for directly and its own name. Other methods have no key.
-/

namespace HandlePool

/-- Who a handle is opened for. -/
structure Identity where
  realUser : String
  proxyUser : Option String
  deriving DecidableEq, Repr

/-- The failure for a proxy with nobody behind it. -/
def noRealUser (user : String) : Error :=
  .configuration ("proxy principal '" ++ user ++ "' has no real user")

/-- The real user a proxy acts for, which it must have. -/
def realUserOf (p : Principal) : Except Error Principal :=
  match p.realUser? with
  | some r => .ok r
  | none => .error (noRealUser p.user)

/-- The identity of a principal. -/
def Identity.of (p : Principal) : Except Error Identity :=
  match p.method with
  | .simple | .kerberos => .ok ⟨p.user, none⟩
  | .proxy => do
    let r ← realUserOf p
    pure ⟨r.user, some p.user⟩
  | m => .error (.unsupportedAuthMethod m.name)

/-- The lookup key of one cached handle. -/
structure CacheKey where
  scheme : String
  authority : String
  unique : Nat
  identity : Identity
  deriving DecidableEq, Repr

namespace CacheKey

/-- The key for `target` opened for `p`; `unique` is zero for a shared handle. -/
def derive (target : Target) (p : Principal) (unique : Nat) : Except Error CacheKey := do
  pure ⟨target.scheme, target.authority, unique, ← Identity.of p⟩

/-- Whether the key is for an exclusive handle. -/
def exclusive (k : CacheKey) : Bool := k.unique != 0

/-- `scheme://authority unique=N realUser=R`, then ` proxyUser=P` for a proxy. -/
def display (k : CacheKey) : String :=
  k.scheme ++ "://" ++ k.authority ++ " unique=" ++ toString k.unique ++
    " realUser=" ++ k.identity.realUser ++
    (match k.identity.proxyUser with
      | some p => " proxyUser=" ++ p
      | none => "")

end CacheKey

/-- The credentials a handle for `p` must have been opened with: none for a simple
principal, its own for Kerberos, and those of the real user for a proxy. -/
def credentialTokens : Principal → Except Error TokenSet
  | .direct u m c =>
    match m with
    | .simple => .ok .empty
    | .kerberos => .ok c
    | .proxy => .error (noRealUser u)
    | other => .error (.unsupportedAuthMethod other.name)
  | .proxy _ _ r => credentialTokens r

end HandlePool
