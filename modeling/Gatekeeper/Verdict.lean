import Gatekeeper.Http.Message

namespace Gatekeeper

/-- What the control service's reply means: the request may pass, or there is something to show. -/
inductive Verdict where
  | ready
  | notReady (page : ByteArray) (contentType : Option HeaderValue)

namespace Verdict

def statusField : Text :=
  "x-sablier-session-status".toList

/-- The verdict of a reply: its first status, byte for byte. -/
def ofReply (headers : Headers) (body : ByteArray) : Verdict :=
  if headers.first? statusField = some (.ofText "ready".toList) then .ready
  else .notReady body (headers.first? "content-type".toList)

def isReady : Verdict → Bool
  | .ready => true
  | .notReady _ _ => false

end Verdict

/-- What is done with a request after its check. -/
inductive Action where
  | forward (target : Text)
  | respond (page : ByteArray) (contentType : Option HeaderValue)

namespace Action

/-- Only a request that may pass goes anywhere. -/
def ofVerdict (verdict : Verdict) (target : Text) : Action :=
  match verdict with
  | .ready => .forward target
  | .notReady page contentType => .respond page contentType

/-- A page is always a success, whatever status the reply had. -/
def pageStatus : Nat :=
  200

/-- Of the reply only the body and the type reach the client. -/
def pageResponse (page : ByteArray) (contentType : Option HeaderValue) : Response where
  status := pageStatus
  headers :=
    ("content-length".toList, .ofText (Text.ofNat page.size)) ::
      match contentType with
      | some value => [("content-type".toList, value)]
      | none => []
  body := page

end Action

end Gatekeeper
