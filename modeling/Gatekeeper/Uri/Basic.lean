import Gatekeeper.Text.Basic

/-!
# URIs

The parts of a URI, what is read off them, and the text of the whole. `Uri.Reader` reads texts.

A URI has one of four forms: a path (`/a?b`), an asterisk, an authority alone (`host:80`), or all
parts behind a scheme. The path is kept as it was written; `path` is what it stands for.
-/

namespace Gatekeeper

inductive Scheme where
  | http
  | https
  | other (name : Text)
deriving DecidableEq, Repr

/-- The text of a scheme; the two well-known ones are always in lower case. -/
def Scheme.text : Scheme → Text
  | .http => "http".toList
  | .https => "https".toList
  | .other name => name

/-- A host with an optional port, perhaps behind user information. -/
structure Authority where
  text : Text
deriving DecidableEq, Repr

namespace Authority

/-- The host: what follows the user information, brackets included, without the port. -/
def host (a : Authority) : Text :=
  match Text.afterLast '@' a.text with
  | '[' :: rest => '[' :: rest.takeWhile (· != ']') ++ [']']
  | hostAndPort => hostAndPort.takeWhile (· != ':')

/-- The port, where the text after the last colon is a number of sixteen bits. -/
def port? (a : Authority) : Option Nat :=
  if a.text.contains ':' then
    match Text.afterLast ':' a.text with
    | '+' :: digits => Text.number? 65535 digits
    | digits => Text.number? 65535 digits
  else none

end Authority

/-- The parts of a URI. Fragments are not kept. -/
structure Uri where
  scheme : Option Scheme
  authority : Option Authority
  /-- The path as it was written, which may be empty. -/
  writtenPath : Text
  query : Option Text
deriving DecidableEq, Repr

namespace Uri

/-- The path. Where a scheme or a query stands without one it is the root. -/
def path (u : Uri) : Text :=
  if u.writtenPath.isEmpty && (u.scheme.isSome || u.query.isSome) then ['/'] else u.writtenPath

def host? (u : Uri) : Option Text :=
  u.authority.map Authority.host

def port? (u : Uri) : Option Nat :=
  u.authority.bind Authority.port?

/-- The query with its question mark. -/
def querySuffix (u : Uri) : Text :=
  match u.query with
  | some query => '?' :: query
  | none => []

/-- The path and query as a request line states them. -/
def requestTarget (u : Uri) : Text :=
  u.path ++ u.querySuffix

/-- The path and query as they were written, and the root where neither was. -/
def writtenTarget (u : Uri) : Text :=
  if u.writtenPath.isEmpty && u.query.isNone then ['/'] else u.writtenPath ++ u.querySuffix

def text (u : Uri) : Text :=
  (match u.scheme with
    | some scheme => scheme.text ++ "://".toList
    | none => []) ++
  (match u.authority with
    | some authority => authority.text
    | none => []) ++
  u.requestTarget

/-- The URI has the scheme `http` and an authority. -/
def isPlainHttp (u : Uri) : Bool :=
  u.scheme = some .http && u.authority.isSome

end Uri

end Gatekeeper
