import Gatekeeper.Duration
import Gatekeeper.Uri.Reader

namespace Gatekeeper

/-- How a connection fails. -/
inductive ConnectionFailure where
  | connect
  /-- The connection ended before a response was there. -/
  | send
deriving DecidableEq, Repr

def ConnectionFailure.message : ConnectionFailure → Text
  | .connect => "client error (Connect)".toList
  | .send => "client error (SendRequest)".toList

/-- Why a request got no response: it could not be put together, or the connection failed. -/
inductive SendFault where
  | build (reason : Text)
  | client (failure : ConnectionFailure)
deriving DecidableEq, Repr

def SendFault.message : SendFault → Text
  | .build reason => "request build error: ".toList ++ reason
  | .client failure => "client error: ".toList ++ failure.message

/-- Why a request could not be checked: its settings make up no check, or the control service gave
no usable reply. -/
inductive Fault where
  /-- Neither names nor a group say what to check. -/
  | missingTarget
  /-- There is nowhere to send the request once it may pass. -/
  | missingRedirect
  | invalidCheckUri (uri : Text) (cause : UriError)
  /-- The control service is not reached by plain HTTP. -/
  | unsupportedControlUrl (url : Text)
  | queryEncoding
  | unanswered (cause : SendFault)
  | unreadableReply (reason : Text)
  | timedOut (limit : Duration)
deriving DecidableEq

namespace Fault

def message : Fault → Text
  | .missingTarget => "you must specify sablier_names or sablier_group".toList
  | .missingRedirect => "sablier_internal_redirect is not set".toList
  | .invalidCheckUri uri cause =>
    "invalid readiness check uri '".toList ++ uri ++ "': ".toList ++ cause.message
  | .unsupportedControlUrl url =>
    "control service url '".toList ++ url ++ "' must be an http:// URL".toList
  | .queryEncoding =>
    "failed to encode readiness check query: ".toList ++
      "top-level serializer supports only maps and structs".toList
  | .unanswered cause => "readiness check failed: ".toList ++ cause.message
  | .unreadableReply reason => "failed to read readiness check reply: ".toList ++ reason
  | .timedOut limit => "readiness check timed out after ".toList ++ limit.text

end Fault

end Gatekeeper
