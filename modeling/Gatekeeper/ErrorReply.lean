import Gatekeeper.Fault
import Gatekeeper.Http.Message
import Gatekeeper.Json.Basic

namespace Gatekeeper

/-- What is wrong with a request or with the servers behind. -/
inductive ErrorCode where
  | missingHostHeader
  | unknownHost
  | gateConfigError
  | controlServiceUnavailable
  | unknownRedirectTarget
  | requestTimeout
  | connectionFailed
deriving DecidableEq, Repr

namespace ErrorCode

def name : ErrorCode → Text
  | .missingHostHeader => "MissingHostHeader".toList
  | .unknownHost => "UnknownHost".toList
  | .gateConfigError => "GateConfigError".toList
  | .controlServiceUnavailable => "ControlServiceUnavailable".toList
  | .unknownRedirectTarget => "UnknownRedirectTarget".toList
  | .requestTimeout => "RequestTimeout".toList
  | .connectionFailed => "ConnectionFailed".toList

/-- The code in a JSON object, made from its name. -/
def jsonText (code : ErrorCode) : Text :=
  Text.inCapitals code.name

/-- The code in a header field. -/
def text : ErrorCode → Text
  | .missingHostHeader => "MISSING_HOST_HEADER".toList
  | .unknownHost => "UNKNOWN_HOST".toList
  | .gateConfigError => "GATE_CONFIG_ERROR".toList
  | .controlServiceUnavailable => "CONTROL_SERVICE_UNAVAILABLE".toList
  | .unknownRedirectTarget => "UNKNOWN_REDIRECT_TARGET".toList
  | .requestTimeout => "REQUEST_TIMEOUT".toList
  | .connectionFailed => "CONNECTION_FAILED".toList

/-- The status with which a client learns of the error. -/
def status : ErrorCode → Nat
  | .missingHostHeader => 400
  | .unknownHost => 404
  | .gateConfigError => 500
  | .controlServiceUnavailable => 502
  | .unknownRedirectTarget => 500
  | .requestTimeout => 504
  | .connectionFailed => 502

end ErrorCode

/-- Which error a client gets to know of a fault. Everything that the settings are to blame for is
one error. -/
def Fault.code : Fault → ErrorCode
  | .missingTarget => .gateConfigError
  | .missingRedirect => .gateConfigError
  | .invalidCheckUri _ _ => .gateConfigError
  | .unsupportedControlUrl _ => .gateConfigError
  | .queryEncoding => .gateConfigError
  | .unanswered _ => .controlServiceUnavailable
  | .unreadableReply _ => .controlServiceUnavailable
  | .timedOut _ => .requestTimeout

/-- What a client gets instead of a page when something is wrong. -/
structure ErrorReply where
  code : ErrorCode
  message : Text
deriving DecidableEq

namespace ErrorReply

/-- The body of the reply, as an object. -/
def json (r : ErrorReply) : Json :=
  .object [("code".toList, .string r.code.jsonText), ("message".toList, .string r.message),
    ("status".toList, .number r.code.status)]

/-- The code also stands in a header field of its own. -/
def response (r : ErrorReply) : Response :=
  Response.ofText r.code.status
    [("content-type".toList, .ofText "application/json".toList),
      ("x-proxy-error".toList, .ofText r.code.text)]
    r.json.text

/-- What a client is told of a fault. Only faults in the settings are told in full. -/
def ofFault (f : Fault) : ErrorReply where
  code := f.code
  message :=
    match f.code with
    | .gateConfigError => f.message
    | .requestTimeout => "Timed out waiting for the control service".toList
    | _ => "Control service unavailable".toList

end ErrorReply

end Gatekeeper
