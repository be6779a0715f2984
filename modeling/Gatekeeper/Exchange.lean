import Gatekeeper.Fault
import Gatekeeper.Http.Message

namespace Gatekeeper

/-- What becomes of a request that was sent. -/
inductive Exchange where
  | response (r : Response)
  | failed (failure : ConnectionFailure)
  /-- Nothing comes back, however long one waits. -/
  | silent

/-- The servers behind, as functions from a request to what comes back. -/
structure Network where
  control : Request → Exchange
  backend : Request → Exchange

/-- Nobody listens. -/
def Network.closed : Network where
  control := fun _ => .failed .connect
  backend := fun _ => .failed .connect

/-- The value of the Host field for an authority: the host, and the port unless it is the usual
one. -/
def Authority.hostField (a : Authority) : Text :=
  match a.port? with
  | some port => if port = 80 then a.host else a.host ++ ':' :: Text.ofNat port
  | none => a.host

/-- The request with the Host field that its URI gives, unless it has one. -/
def Request.withHost (r : Request) : Request :=
  match r.uri.authority with
  | some authority =>
    { r with headers := r.headers.setMissing "host".toList (.ofText authority.hostField) }
  | none => r

/-- A request as it arrives, after it was put together and sent. -/
def Request.delivered (r : Request) : Request :=
  r.withHost.received

end Gatekeeper
