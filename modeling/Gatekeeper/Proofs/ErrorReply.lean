import Gatekeeper.ErrorReply
import Gatekeeper.Proofs.Http.Header
import Gatekeeper.Proofs.Json.RoundTrip

namespace Gatekeeper

/-- The response tells of an error: its object has the code, the message and the status, and nothing
else, and the code stands in the header too. -/
structure Response.TellsOf (response : Response) (code : ErrorCode) (message : Text) : Prop where
  object : Json.ofBytes? response.body.data.toList =
    some (.object [("code".toList, .string code.text), ("message".toList, .string message),
      ("status".toList, .number response.status)])
  header : (response.headers.values "x-proxy-error".toList).map HeaderValue.text? = [some code.text]
  status : response.status = code.status

namespace ErrorReply

@[simp] theorem jsonText_eq_text (code : ErrorCode) : code.jsonText = code.text := by
  cases code <;> rfl

theorem tellsOf_response (r : ErrorReply) : r.response.TellsOf r.code r.message := by
  refine ⟨?_, ?_, rfl⟩
  · rw [← jsonText_eq_text]
    exact Json.ofBytes?_bodyOfText r.json
  · change [(HeaderValue.ofText r.code.text).text?] = _
    have hreadable : r.code.text.all HeaderValue.isReadableChar = true := by
      cases r.code <;> decide
    simp [hreadable]

/-- What a client is told of an error can be read back, whatever the message holds: the object has
the code, the message and the status, the code is that of the header, and the status that of the
response. So it is where a fault puts texts into the message that came with a request. -/
theorem error_replies_are_faithful :
    (∀ code message, (ErrorReply.mk code message).response.TellsOf code message) ∧
      (∀ fault, (ofFault fault).response.TellsOf fault.code (ofFault fault).message) ∧
      (∀ uri cause, (ofFault (.invalidCheckUri uri cause)).response.TellsOf .gateConfigError
        ("invalid readiness check uri '".toList ++ uri ++ "': ".toList ++ cause.message)) ∧
      ∀ url, (ofFault (.unsupportedControlUrl url)).response.TellsOf .gateConfigError
        ("control service url '".toList ++ url ++ "' must be an http:// URL".toList) := by
  refine ⟨fun code message => ?_, fun fault => ?_, fun uri cause => ?_, fun url => ?_⟩
  all_goals exact tellsOf_response _

end ErrorReply

end Gatekeeper
