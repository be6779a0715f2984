import Gatekeeper.Counters
import Gatekeeper.ErrorReply
import Gatekeeper.Exchange
import Gatekeeper.Table

namespace Gatekeeper

/-- The text under which a request is sent to an authority. -/
def Uri.forwardText (u : Uri) (authority : Text) : Text :=
  "http://".toList ++ authority ++ u.writtenTarget

/-- The URI that this text is read as. -/
def Uri.forward? (u : Uri) (authority : Text) : Option Uri :=
  match Uri.parse (u.forwardText authority) with
  | .ok uri => some uri
  | .error _ => none

/-- The request, put together anew for an authority. Method, fields and body stay as they are. -/
def Request.forward? (r : Request) (authority : Text) : Option Request :=
  (r.uri.forward? authority).map fun uri => ⟨r.method, uri, r.headers.copied, r.body⟩

/-- A request that was sent on, if one was, and the answer to the client. -/
structure Forwarded where
  sent : Option Request
  response : Response

def connectionFailed : Response :=
  ErrorReply.response ⟨.connectionFailed, "Failed to connect to upstream".toList⟩

def unknownRedirect : Response :=
  ErrorReply.response ⟨.unknownRedirectTarget,
    "Internal redirect target is not configured".toList⟩

def requestTimedOut (limit : Duration) : Response :=
  ErrorReply.response ⟨.requestTimeout,
    "Request timed out after ".toList ++ Text.ofNat limit.seconds ++ " seconds".toList⟩

/-- The response of a backend goes to the client as it is. -/
def forwardedResponse (limit : Duration) : Exchange → Response
  | .response r => r
  | .failed _ => connectionFailed
  | .silent => requestTimedOut limit

/-- Sends a request on to a redirect's target, which is looked up in a table. A request that has a
URI there counts, before it is known what comes back. -/
def Table.send (t : Table) (r : Request) (target : Text) (limit : Duration)
    (backend : Request → Exchange) : Counted Forwarded := do
  match t.resolve target with
  | .error _ => return ⟨none, unknownRedirect⟩
  | .ok authority =>
    match r.forward? authority with
    | none => return ⟨none, connectionFailed⟩
    | some request =>
      modify Counters.addForward
      return ⟨some request, forwardedResponse limit (backend request)⟩

/-- Sends a request on as `send` does, without the counting. -/
def Table.forward (t : Table) (r : Request) (target : Text) (limit : Duration)
    (backend : Request → Exchange) : Forwarded :=
  Counted.result (t.send r target limit backend)

end Gatekeeper
