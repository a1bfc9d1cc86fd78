import HandlePool.Identity.Token
/-!
# Principals

A principal is a user name, the way it authenticated, and the credentials it holds. A proxy
principal acts through a real user, itself a principal; following real users from any
principal ends after finitely many steps, at a principal without one.
-/

namespace HandlePool

/-- How a principal proved who it is. -/
inductive AuthMethod where
  | simple
  | kerberos
  | token
  | certificate
  | kerberosSsl
  | proxy
deriving DecidableEq, Repr

/-- The name of a method in displays and messages. -/
def AuthMethod.name : AuthMethod → String
  | .simple => "SIMPLE"
  | .kerberos => "KERBEROS"
  | .token => "TOKEN"
  | .certificate => "CERTIFICATE"
  | .kerberosSsl => "KERBEROS_SSL"
  | .proxy => "PROXY"

/-- An authenticated user. -/
inductive Principal where
  /-- A principal acting for itself, with no real user behind it. -/
  | direct (user : String) (method : AuthMethod) (credentials : TokenSet)
  /-- `user` acting on behalf of the real user `real`; its method is proxy. -/
  | proxy (user : String) (credentials : TokenSet) (real : Principal)
deriving DecidableEq, Repr

namespace Principal

/-- The user name. -/
def user : Principal → String
  | direct u _ _ => u
  | proxy u _ _ => u

/-- How the principal authenticated. -/
def method : Principal → AuthMethod
  | direct _ m _ => m
  | proxy _ _ _ => .proxy

/-- The credentials the principal itself holds. -/
def credentials : Principal → TokenSet
  | direct _ _ c => c
  | proxy _ c _ => c

/-- The real user a proxy acts for, if any. -/
def realUser? : Principal → Option Principal
  | direct _ _ _ => none
  | proxy _ _ r => some r

/-- `user (auth:METHOD)`, followed by ` via ` and the real user's display for a proxy. -/
def display : Principal → String
  | direct u m _ => u ++ " (auth:" ++ m.name ++ ")"
  | proxy u _ r => u ++ " (auth:PROXY) via " ++ r.display

end Principal

end HandlePool
