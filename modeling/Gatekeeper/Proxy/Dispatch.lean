import Gatekeeper.ErrorReply
import Gatekeeper.Table
import Gatekeeper.Template.RequestValues

namespace Gatekeeper

namespace Request

/-- The characters of a hostname. An underscore is not among them. -/
def isHostnameChar (c : Char) : Bool :=
  c.isAlphanum || c == '-' || c == '.'

def maxHostnameLength : Nat :=
  253

/-- The host that selects the route, in lower case and without a port. -/
def hostname? (r : Request) : Option Text :=
  r.hostText?.bind fun t =>
    let host := hostWithoutPort t
    if host.isEmpty || maxHostnameLength < host.length || !host.all isHostnameChar then none
    else some (Text.lower host)

def idField : Text :=
  "x-request-id".toList

def forwardedForField : Text :=
  "x-forwarded-for".toList

def forwardedHostField : Text :=
  "x-forwarded-host".toList

def forwardedProtoField : Text :=
  "x-forwarded-proto".toList

/-- The identifier of a request: its own, if that can be read, else a fresh one. -/
def identifier (r : Request) (freshId : Text) : Text :=
  (r.headers.firstText? idField).getD freshId

/-- The fields with a text under a name, if the text can be a value. -/
def setText (headers : Headers) (name t : Text) : Headers :=
  match HeaderValue.ofText? t with
  | some value => headers.set name value
  | none => headers

/-- The request as backends see it. This is the first hop that is trusted, so what the client says
of earlier ones is written over. -/
def marked (r : Request) (freshId : Text) (client : IpAddress) : Request :=
  let headers := setText r.headers idField (r.identifier freshId)
  let headers := setText headers forwardedForField client.text
  let headers :=
    match headers.first? "host".toList with
    | some host => headers.set forwardedHostField host
    | none => headers
  { r with headers := headers.set forwardedProtoField (.ofText "http".toList) }

end Request

namespace Route

/-- What a request makes of the templates of its route. -/
def scope (route : Route) (values : RequestValues) (setting : Setting) : Option Text :=
  (route.templates.of? setting).map values.render

end Route

instance Except.decidableEq {ε α : Type} [DecidableEq ε] [DecidableEq α] :
    DecidableEq (Except ε α)
  | .ok a, .ok b => decidable_of_iff (a = b) (by simp)
  | .error a, .error b => decidable_of_iff (a = b) (by simp)
  | .ok _, .error _ => isFalse (by simp)
  | .error _, .ok _ => isFalse (by simp)

/-- A request that has found its route. The settings were read from the request as it came; the
request that is sent on is marked. -/
structure Dispatched where
  route : Route
  request : Request
  settings : Except Fault Settings
deriving DecidableEq

/-- The way from a request to its route and settings. The host of the request selects the route, and
the values of the request fill in its templates. -/
def Table.dispatch (t : Table) (r : Request) (freshId : Text) (client : IpAddress) :
    Except ErrorReply Dispatched :=
  match r.hostname? with
  | none => .error ⟨.missingHostHeader, "Missing or invalid Host header".toList⟩
  | some host =>
    match t.lookup host with
    | none => .error ⟨.unknownHost, "Unknown or unconfigured host".toList⟩
    | some route => .ok {
        route
        request := r.marked freshId client
        settings := Settings.ofScope (route.scope (RequestValues.capture r client false))
          t.controlUrl }

end Gatekeeper
