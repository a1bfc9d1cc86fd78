import HandlePool.Url.Ipv4
import HandlePool.Url.Ipv6
/-!
# URLs

A parsed absolute URL: scheme, credentials, host, port, path, query and fragment, each kept
in its written (percent-encoded) form, and the text the record is written back as.

A path is either a list of segments, written each after a `/`, or an opaque text for URLs
such as `mailto:a@b` that have no hierarchy. A URL has a host exactly when it was written
with `//`; the host may then be empty (`file:///tmp`, `hdfs://`).
-/

namespace HandlePool.Url

/-- The host of a URL. -/
inductive Host where
  /-- A domain name in ASCII form, or the percent-encoded text of an opaque host. -/
  | domain (name : String)
  /-- An IPv4 address as a 32-bit number. -/
  | ipv4 (address : Nat)
  /-- An IPv6 address as its eight groups. -/
  | ipv6 (groups : List Nat)
  deriving DecidableEq, Repr

/-- How a host is written in a URL. -/
def Host.text : Host → String
  | .domain name => name
  | .ipv4 a => ipv4Text a
  | .ipv6 groups => "[" ++ ipv6Text groups ++ "]"

/-- The path of a URL. -/
inductive Path where
  /-- The text after the scheme of a URL without hierarchy. -/
  | plain (text : String)
  /-- Segments, each written after a slash. -/
  | segments (segs : List String)
  deriving DecidableEq, Repr

end HandlePool.Url

namespace HandlePool

/-- A parsed URL. The user name and password are empty when absent. -/
structure Url where
  scheme : String
  username : String := ""
  password : String := ""
  host : Option Url.Host := none
  port : Option Nat := none
  path : Url.Path
  query : Option String := none
  fragment : Option String := none
  deriving DecidableEq, Repr

end HandlePool

namespace HandlePool.Url

/-- Why a text is no URL. -/
inductive ParseError where
  | emptyHost
  | idnaError
  | invalidPort
  | invalidIpv4Address
  | invalidIpv6Address
  | invalidDomainCharacter
  | relativeUrlWithoutBase
  deriving DecidableEq, Repr

/-- The description of a parse failure. -/
def ParseError.message : ParseError → String
  | .emptyHost => "empty host"
  | .idnaError => "invalid international domain name"
  | .invalidPort => "invalid port number"
  | .invalidIpv4Address => "invalid IPv4 address"
  | .invalidIpv6Address => "invalid IPv6 address"
  | .invalidDomainCharacter => "invalid domain character"
  | .relativeUrlWithoutBase => "relative URL without a base"

/-- The schemes with a default port and a required host; `file` is special too. -/
def defaultPort : String → Option Nat
  | "http" => some 80
  | "https" => some 443
  | "ws" => some 80
  | "wss" => some 443
  | "ftp" => some 21
  | _ => none

/-- Whether URLs of the scheme follow the rules of the web's own schemes. -/
def isSpecial (scheme : String) : Bool :=
  (defaultPort scheme).isSome || scheme == "file"

/-- The user name and password as written before `@`, with the `@`. -/
def userinfoText (u : Url) : String :=
  if u.username.isEmpty && u.password.isEmpty then ""
  else u.username ++ (if u.password.isEmpty then "" else ":" ++ u.password) ++ "@"

/-- The path as written. Without a host, a path whose first segment is empty is written after
`/.` so that it does not read as a host. -/
def pathText (u : Url) : String :=
  match u.path with
  | .plain t => t
  | .segments segs =>
    let lead := match u.host, segs with
      | none, "" :: _ :: _ => "/."
      | _, _ => ""
    lead ++ String.join (segs.map ("/" ++ ·))

/-- The text of a URL. -/
def serialize (u : Url) : String :=
  u.scheme ++ ":" ++
  (match u.host with
    | some h => "//" ++ u.userinfoText ++ h.text ++
      (match u.port with
        | some p => ":" ++ toString p
        | none => "")
    | none => "") ++
  u.pathText ++
  (match u.query with
    | some q => "?" ++ q
    | none => "") ++
  (match u.fragment with
    | some f => "#" ++ f
    | none => "")

/-- The host as text, absent when there is none or it is empty. -/
def hostText? (u : Url) : Option String :=
  match u.host with
  | some h => if h.text.isEmpty then none else some h.text
  | none => none

end HandlePool.Url
