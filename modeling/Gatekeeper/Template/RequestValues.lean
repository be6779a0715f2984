import Gatekeeper.Form
import Gatekeeper.Http.Message
import Gatekeeper.Net.Address
import Gatekeeper.Template.Basic
import Gatekeeper.Text.LowerCase

namespace Gatekeeper

/-- What templates may refer to. It is taken once, before the request is changed in any way. -/
structure RequestValues where
  host : Text
  path : Text
  query : Text
  scheme : Text
  method : Text
  client : Text
  headers : Headers
  /-- The named values of the query. -/
  arguments : List (Text × Text)

/-- The text that names the host of a request: the first Host field if it can be read, else the
authority of the URI. -/
def Request.hostText? (r : Request) : Option Text :=
  (r.headers.firstText? "host".toList).or r.uri.host?

/-- A host without what follows the first colon. -/
def hostWithoutPort (t : Text) : Text :=
  t.takeWhile (· != ':')

namespace RequestValues

/-- The values of a request as it came. -/
def capture (r : Request) (client : IpAddress) (secure : Bool) : RequestValues where
  host := (r.hostText?.map fun t => Text.lower (hostWithoutPort t)).getD []
  path := r.uri.path
  query := r.uri.query.getD []
  scheme := if secure then "https".toList else "http".toList
  method := r.method
  client := client.text
  headers := r.headers
  arguments := Form.decode (r.uri.query.getD [])

/-- The path, with the query behind it if there is one. -/
def requestUri (v : RequestValues) : Text :=
  if v.query.isEmpty then v.path else v.path ++ '?' :: v.query

/-- The first value of a header field whose name is written with underscores, if it can be read. -/
def header (v : RequestValues) (name : Text) : Text :=
  (v.headers.firstText? (name.map fun c => if c = '_' then '-' else c)).getD []

/-- The first value of an argument of the query, or nothing. -/
def argument (v : RequestValues) (name : Text) : Text :=
  ((v.arguments.find? (·.1 = name)).map Prod.snd).getD []

/-- The value of a name; a name that means nothing is empty. -/
def value (v : RequestValues) (name : Text) : Text :=
  if name = "host".toList then v.host
  else if name = "uri".toList then v.path
  else if name = "args".toList ∨ name = "query_string".toList then v.query
  else if name = "request_uri".toList then v.requestUri
  else if name = "scheme".toList then v.scheme
  else if name = "request_method".toList then v.method
  else if name = "remote_addr".toList then v.client
  else
    match Text.dropLeading? "http_".toList name, Text.dropLeading? "arg_".toList name with
    | some field, _ => v.header field
    | none, some argument => v.argument argument
    | none, none => []

def render (v : RequestValues) (template : Text) : Text :=
  Template.render v.value template

end RequestValues

end Gatekeeper
