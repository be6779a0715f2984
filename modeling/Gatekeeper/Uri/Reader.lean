import Gatekeeper.Uri.Basic

/-!
# Reading URIs

`Uri.parse` takes a text apart: the scheme ends at `://`, the authority at the first of `/`, `?` and
`#`, the path at `?` or `#`, the query at `#`. Each part has its own set of characters. In an
authority, colons and percent signs count against the host alone, so a bracket that closes and an
at sign both forget the ones before them.
-/

namespace Gatekeeper

/-- Why a text is no URI. -/
inductive UriError where
  | empty
  | tooLong
  | badCharacter
  | badAuthority
  | badFormat
  | schemeTooLong
deriving DecidableEq, Repr

def UriError.message : UriError → Text
  | .empty => "empty string".toList
  | .tooLong => "uri too long".toList
  | .badCharacter => "invalid uri character".toList
  | .badAuthority => "invalid authority".toList
  | .badFormat => "invalid format".toList
  | .schemeTooLong => "scheme too long".toList

namespace Authority

/-- The character may stand in an authority; a percent sign may too, under a condition. -/
def isOrdinaryChar (c : Char) : Bool :=
  c.isAlphanum || "!$&'()*+,-.;=_~".toList.contains c

/-- What was seen so far of an authority. -/
structure Marks where
  /-- The colons of the host and port. -/
  colons : Nat
  opened : Bool
  closed : Bool
  /-- There is a percent sign in the host. -/
  percent : Bool

def Marks.start : Marks :=
  ⟨0, false, false, false⟩

/-- Reads one character. No address has more than eight colons. -/
def Marks.next (m : Marks) (c : Char) : Except UriError Marks :=
  if c = ':' then
    if m.colons < 8 then .ok { m with colons := m.colons + 1 } else .error .badAuthority
  else if c = '[' then
    if m.percent || m.opened then .error .badAuthority else .ok { m with opened := true }
  else if c = ']' then
    if !m.opened || m.closed then .error .badAuthority
    else .ok ⟨0, m.opened, true, false⟩
  else if c = '@' then .ok ⟨0, m.opened, m.closed, false⟩
  else if c = '%' then .ok { m with percent := true }
  else if isOrdinaryChar c then .ok m
  else .error .badCharacter

/-- At the end brackets are paired and the host has at most one colon and no percent sign. -/
def Marks.complete (m : Marks) : Bool :=
  m.opened == m.closed && m.colons ≤ 1 && !m.percent

def Marks.run (m : Marks) : Text → Except UriError Marks
  | [] => .ok m
  | c :: rest => do
    let next ← m.next c
    next.run rest

/-- Whether a text is an authority or empty, and why not. -/
def check (t : Text) : Except UriError Unit := do
  let marks ← Marks.start.run t
  if marks.complete && t.getLast? != some '@' then .ok () else .error .badAuthority

/-- What ends an authority. -/
def isEnd (c : Char) : Bool :=
  c == '/' || c == '?' || c == '#'

/-- Reads an authority at the start of a text, and gives the rest. -/
def read (t : Text) : Except UriError (Text × Text) := do
  let authority := t.takeWhile (!isEnd ·)
  check authority
  return (authority, t.dropWhile (!isEnd ·))

/-- Reads a text that is an authority and nothing else. -/
def parse (t : Text) : Except UriError Authority :=
  if t.isEmpty then .error .empty
  else do
    let (authority, rest) ← read t
    if rest.isEmpty then .ok ⟨authority⟩ else .error .badCharacter

end Authority

namespace Uri

def maxBytes : Nat :=
  65534

def maxSchemeLength : Nat :=
  64

def isSchemeChar (c : Char) : Bool :=
  c.isAlphanum || c == '+' || c == '-' || c == '.' || c == '~'

/-- The character may stand in a path: not a control character, a blank, `<`, `>` or a backtick. -/
def isPathChar (c : Char) : Bool :=
  let n := c.toNat
  0x21 ≤ n && n != 0x3C && n != 0x3E && n != 0x60 && n != 0x7F

/-- The character may stand in a query: not a control character, a blank, a quote, `<` or `>`. -/
def isQueryChar (c : Char) : Bool :=
  let n := c.toNat
  0x21 ≤ n && n != 0x22 && n != 0x3C && n != 0x3E && n != 0x7F

/-- The scheme in front of a text, and what follows its `://`. -/
def readScheme (t : Text) : Except UriError (Option Scheme × Text) :=
  let name := t.takeWhile isSchemeChar
  match t.dropWhile isSchemeChar with
  | ':' :: '/' :: '/' :: rest =>
    if Text.asciiLower name = "http".toList then .ok (some .http, rest)
    else if Text.asciiLower name = "https".toList then .ok (some .https, rest)
    else if name.isEmpty && rest.isEmpty then .ok (none, t)
    else if maxSchemeLength < name.length then .error .schemeTooLong
    else .ok (some (.other name), rest)
  | _ => .ok (none, t)

/-- Reads a path and a query, and leaves a fragment away. -/
def readTarget (t : Text) : Except UriError (Text × Option Text) :=
  let path := t.takeWhile fun c => c != '?' && c != '#'
  if path.all isPathChar then
    match t.dropWhile fun c => c != '?' && c != '#' with
    | '?' :: rest =>
      let query := rest.takeWhile (· != '#')
      if query.all isQueryChar then .ok (path, some query) else .error .badCharacter
    | _ => .ok (path, none)
  else .error .badCharacter

/-- Reads a text that starts with a scheme or an authority. -/
def parseAbsolute (t : Text) : Except UriError Uri := do
  match ← readScheme t with
  | (none, _) =>
    let (authority, rest) ← Authority.read t
    if rest.isEmpty then .ok ⟨none, some ⟨authority⟩, [], none⟩ else .error .badFormat
  | (some scheme, afterScheme) =>
    if afterScheme.isEmpty then .error .empty
    else
      let (authority, rest) ← Authority.read afterScheme
      if authority.isEmpty then .error .badFormat
      else
        let (path, query) ← readTarget rest
        return ⟨some scheme, some ⟨authority⟩, path, query⟩

/-- Reads a URI in one of its four forms. -/
def parse (t : Text) : Except UriError Uri :=
  if maxBytes < Text.byteLength t then .error .tooLong
  else
    match t with
    | [] => .error .empty
    | ['*'] => .ok ⟨none, none, ['*'], none⟩
    | '/' :: _ => do
      let (path, query) ← readTarget t
      return ⟨none, none, path, query⟩
    | [c] => do
      let authority ← Authority.parse [c]
      return ⟨none, some authority, [], none⟩
    | t => parseAbsolute t

/-- The text is read as a URI of plain HTTP. -/
def isPlainHttpText (t : Text) : Bool :=
  match parse t with
  | .ok u => u.isPlainHttp
  | .error _ => false

end Uri

end Gatekeeper
