import Gatekeeper.Text.Blank
import Gatekeeper.Uri.Reader

namespace Gatekeeper

/-- Where a request is sent once it may pass: to a configured backend, written `@name`, or to an
address, written `http://host:port`. -/
inductive Redirect where
  | backend (name : Text)
  | address (authority : Authority)
deriving DecidableEq, Repr

/-- Why a text names no place to send a request to. The texts are without the white space around
them. -/
inductive RedirectError where
  | emptyName
  | badUri (target : Text) (cause : UriError)
  | notHttp (target : Text)
  | hasPath (target : Text)
  | noHost (target : Text)
  | unknownBackend (name : Text)
deriving DecidableEq, Repr

def RedirectError.message : RedirectError → Text
  | .emptyName => "upstream name after '@' is empty".toList
  | .badUri target cause =>
    "'".toList ++ target ++ "' is not a valid redirect target: ".toList ++ cause.message
  | .notHttp target => "'".toList ++ target ++ "' must use the http scheme or '@upstream'".toList
  | .hasPath target => "'".toList ++ target ++ "' must not carry a path".toList
  | .noHost target => "'".toList ++ target ++ "' has no host".toList
  | .unknownBackend name => "unknown upstream '@".toList ++ name ++ "'".toList

namespace Redirect

/-- Reads a redirect that has no white space around it. -/
def ofTrimmed (target : Text) : Except RedirectError Redirect :=
  match target with
  | '@' :: name => if name.isEmpty then .error .emptyName else .ok (.backend name)
  | _ =>
    match Uri.parse target with
    | .error cause => .error (.badUri target cause)
    | .ok uri =>
      if uri.scheme ≠ some .http then .error (.notHttp target)
      else if uri.path ≠ [] ∧ uri.path ≠ ['/'] ∨ uri.query.isSome then .error (.hasPath target)
      else
        match uri.authority with
        | some authority => .ok (.address authority)
        | none => .error (.noHost target)

/-- Reads a text; the white space around it does not count. -/
def parse (t : Text) : Except RedirectError Redirect :=
  ofTrimmed (Text.trim t)

end Redirect

end Gatekeeper
