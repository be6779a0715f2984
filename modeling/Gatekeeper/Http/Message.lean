import Gatekeeper.Http.Header
import Gatekeeper.Uri.Reader

namespace Gatekeeper

def bodyOfText (t : Text) : ByteArray :=
  ⟨(Text.encode t).toArray⟩

def method? (t : Text) : Option Text :=
  if t.isEmpty || !t.all isTokenChar then none else some t

/-- Why texts make up no request. -/
inductive MessageError where
  | badMethod
  | badUri (cause : UriError)
  | badHeaderName
  | badHeaderValue
deriving DecidableEq, Repr

def MessageError.message : MessageError → Text
  | .badMethod => "invalid HTTP method".toList
  | .badUri cause => cause.message
  | .badHeaderName => "invalid HTTP header name".toList
  | .badHeaderValue => "failed to parse header value".toList

/-- Header fields from texts; the first bad name or value is the error. -/
def Headers.ofTexts : List (Text × Text) → Except MessageError Headers
  | [] => .ok []
  | (name, value) :: rest =>
    match headerName? name, HeaderValue.ofText? value with
    | none, _ => .error .badHeaderName
    | _, none => .error .badHeaderValue
    | some name, some value => do
      let others ← Headers.ofTexts rest
      return (name, value) :: others

/-- A request of HTTP. -/
structure Request where
  method : Text
  uri : Uri
  headers : Headers
  body : ByteArray

instance Request.decidableEq : DecidableEq Request := fun a b =>
  decidable_of_iff
    (a.method = b.method ∧ a.uri = b.uri ∧ a.headers = b.headers ∧ a.body.data = b.body.data) (by
      cases a
      cases b
      simp [ByteArray.ext_iff])

/-- A request from texts. The method is looked at first, then the URI, then the header fields. -/
def Request.ofTexts (method uri : Text) (headers : List (Text × Text)) (body : ByteArray) :
    Except MessageError Request :=
  match method? method with
  | none => .error .badMethod
  | some method =>
    match Uri.parse uri with
    | .error cause => .error (.badUri cause)
    | .ok uri => do
      let headers ← Headers.ofTexts headers
      return ⟨method, uri, headers, body⟩

/-- A request as the other end finds it. -/
def Request.received (r : Request) : Request :=
  { r with headers := r.headers.received }

/-- A response of HTTP. -/
structure Response where
  status : Nat
  headers : Headers
  body : ByteArray

instance Response.decidableEq : DecidableEq Response := fun a b =>
  decidable_of_iff (a.status = b.status ∧ a.headers = b.headers ∧ a.body.data = b.body.data) (by
    cases a
    cases b
    simp [ByteArray.ext_iff])

namespace Response

def ofText (status : Nat) (headers : Headers) (body : Text) : Response :=
  ⟨status, headers, bodyOfText body⟩

/-- A response with this status carries neither a body nor its length. -/
def isBodiless (status : Nat) : Bool :=
  status == 204 || status == 304

/-- The response as the sender of the request receives it. Its length is stated, except that a
HEAD request with an empty body is answered without one; a HEAD request gets no body. -/
def received (method : Text) (r : Response) : Response :=
  if isBodiless r.status then ⟨r.status, r.headers.received, ByteArray.empty⟩
  else
    let toHead := method = "HEAD".toList
    let length := HeaderValue.ofText (Text.ofNat r.body.size)
    let headers :=
      if toHead && r.body.isEmpty then r.headers
      else r.headers.setMissing "content-length".toList length
    ⟨r.status, headers.received, if toHead then ByteArray.empty else r.body⟩

end Response

end Gatekeeper
