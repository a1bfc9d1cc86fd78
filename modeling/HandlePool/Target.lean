import HandlePool.Error
import HandlePool.Text.Case
import HandlePool.Url.Parser
/-!
# Storage targets

A target is a storage location named by an absolute URI such as `hdfs://namenode:8020/data`.
Its scheme and authority (user name, host and port, never the password) are kept lowercased,
so that two targets differing only in case share cached handles. Its display is the URL with
any password written as `****`.
-/

namespace HandlePool

/-- A storage location: the parsed URL with its normalized scheme and authority. -/
structure Target where
  url : Url
  scheme : String
  authority : String
  deriving DecidableEq, Repr

namespace Target

/-- `user@host:port` of a URL, each part present only when the URL has it. -/
def authorityOf (u : Url) : String :=
  (if u.username.isEmpty then "" else u.username ++ "@") ++
  (u.hostText?.getD "") ++
  (match u.port with
    | some p => ":" ++ toString p
    | none => "")

/-- The target of an already parsed URL. -/
def ofUrl (u : Url) : Target :=
  ⟨u, Text.toLower u.scheme, Text.toLower (authorityOf u)⟩

/-- Reads an absolute URI with `toAscii` as the IDNA step; anything else is an invalid
target. -/
def parseWith (toAscii : List Char → Option String) (uri : String) : Except Error Target :=
  match Url.parseWith toAscii uri with
  | .ok u => .ok (ofUrl u)
  | .error e => .error (.invalidTarget uri e.message)

/-- Reads an absolute URI; anything else is an invalid target. -/
def parse (uri : String) : Except Error Target := parseWith Url.domainToAscii uri

/-- The text of the URL. -/
def text (t : Target) : String := t.url.serialize

/-- The URL with a password, if there is one, masked as `****`; a URL that does not take the
masked password is shown as `****` alone. -/
def display (t : Target) : String :=
  if t.url.password.isEmpty then t.url.serialize
  else
    match t.url.setPassword "****" with
    | some u => u.serialize
    | none => "****"

/-- The password of the URL, absent when empty. -/
def password? (t : Target) : Option String :=
  if t.url.password.isEmpty then none else some t.url.password

theorem ofUrl_url (u : Url) : (ofUrl u).url = u := rfl

end Target

end HandlePool
