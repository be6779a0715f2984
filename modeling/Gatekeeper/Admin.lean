import Gatekeeper.Json.Basic
import Gatekeeper.Server

namespace Gatekeeper

namespace Admin

def programName : Text :=
  "sablier-gate".toList

def programVersion : Text :=
  "0.1.0".toList

/-- The first Authorization field is the token, perhaps behind the word for bearers. -/
def isAuthorized (r : Request) (token : Text) : Bool :=
  match r.headers.firstText? "authorization".toList with
  | none => false
  | some given => (Text.dropLeading? "Bearer ".toList given).getD given = token

/-- A success with a JSON value as its body. -/
def jsonResponse (value : Json) : Response :=
  Response.ofText 200 [("content-type".toList, .ofText "application/json".toList)] value.text

def versionJson : Json :=
  .object [("name".toList, .string programName), ("version".toList, .string programVersion)]

/-- What an operator is shown of a route: its host and three of its templates as they were written.
-/
def routeJson (r : Route) : Json :=
  .object [("group".toList, .ofText? (r.templates.of? .group)), ("host".toList, .string r.host),
    ("internal_redirect".toList, .ofText? (r.templates.of? .redirect)),
    ("names".toList, .ofText? (r.templates.of? .names))]

/-- All routes, in the order of their hosts, and what has been counted. -/
def routesJson (t : Table) (c : Counters) : Json :=
  .object [("control_url".toList, .string t.controlUrl), ("count".toList, .number t.size),
    ("routes".toList, .array (t.listing.map routeJson)),
    ("stats".toList, .object [("forwarded_requests".toList, .number c.forwarded.toNat),
      ("readiness_checks".toList, .number c.checks.toNat)])]

end Admin

/-- Answers a request of an operator. -/
def Server.inspect (s : Server) (r : Request) : Response :=
  if r.method = "GET".toList then
    if r.uri.path = "/health".toList then Response.ofText 200 [] "ok".toList
    else if r.uri.path = "/version".toList then Admin.jsonResponse Admin.versionJson
    else if r.uri.path = "/routes".toList then
      if Admin.isAuthorized r s.adminToken then
        Admin.jsonResponse (Admin.routesJson s.table s.counters)
      else Response.ofText 401 [] "unauthorized".toList
    else Response.ofText 404 [] "not found".toList
  else Response.ofText 404 [] "not found".toList

end Gatekeeper
