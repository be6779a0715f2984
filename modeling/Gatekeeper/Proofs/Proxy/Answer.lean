import Gatekeeper.Proofs.Proxy.Errand

namespace Gatekeeper

namespace ErrorReply

variable {a b : ErrorReply}

theorem code_eq_of_response_eq (h : a.response = b.response) : a.code = b.code := by
  have hcode := congrArg Response.headers h
  simp only [response, Response.ofText, List.cons.injEq, Prod.mk.injEq, true_and, and_true]
    at hcode
  revert hcode
  cases a.code <;> cases b.code <;> decide

theorem code_ofFault_ne (fault : Fault) : (ofFault fault).code ≠ .unknownRedirectTarget := by
  cases fault <;> simp [ofFault, Fault.code]

end ErrorReply

theorem eq_response_of_forwardedResponse {limit : Duration} {exchange : Exchange}
    {reply : ErrorReply} (hcode : reply.code = .unknownRedirectTarget)
    (h : forwardedResponse limit exchange = reply.response) :
    exchange = .response reply.response := by
  cases exchange with
  | response answer => exact congrArg Exchange.response h
  | failed failure => exact absurd (ErrorReply.code_eq_of_response_eq h) (by simp [hcode])
  | silent => exact absurd (ErrorReply.code_eq_of_response_eq h) (by simp [hcode])

namespace Table

variable {t : Table} {limits : Limits} {network : Network} {r : Request} {freshId : Text}
  {client : IpAddress}

theorem code_ne_of_errand {reply : ErrorReply} (h : t.errand r freshId client = .error reply) :
    reply.code ≠ .unknownRedirectTarget := by
  rw [errand] at h
  split at h
  · rename_i refusal hrefusal
    cases h
    rw [dispatch] at hrefusal
    split at hrefusal
    · cases hrefusal
      simp
    · split at hrefusal
      · cases hrefusal
        simp
      · cases hrefusal
  · split at h
    · cases h
      exact ErrorReply.code_ofFault_ne _
    · cases h

theorem exists_sent_of_unknownRedirect {target authority : Text} {limit : Duration}
    {backend : Request → Exchange} {reply : ErrorReply}
    (hcode : reply.code = .unknownRedirectTarget)
    (hresolve : t.resolve target = .ok authority)
    (h : (t.forward r target limit backend).response = reply.response) :
    ∃ sent, (t.forward r target limit backend).sent = some sent ∧
      backend sent = .response reply.response := by
  revert h
  rw [forward_of_resolve hresolve]
  cases r.forward? authority with
  | none =>
      intro h
      exact absurd (ErrorReply.code_eq_of_response_eq h) (by simp [hcode])
  | some sent =>
      intro h
      exact ⟨sent, rfl, eq_response_of_forwardedResponse hcode h⟩

theorem exists_forwarded_of_unknownRedirect {reply : ErrorReply}
    (hcode : reply.code = .unknownRedirectTarget)
    (hresolve : ∀ e, t.errand r freshId client = .ok e →
      ∃ authority, t.resolve e.target = .ok authority)
    (h : (t.handle limits network freshId client r).response = some reply.response) :
    ∃ sent, (t.handle limits network freshId client r).forwarded = some sent ∧
      network.backend sent = .response reply.response := by
  revert h
  rw [handle_eq]
  cases herrand : t.errand r freshId client with
  | error refusal =>
      intro h
      have hsame := ErrorReply.code_eq_of_response_eq (Option.some.inj h)
      exact absurd (hsame.trans hcode) (code_ne_of_errand herrand)
  | ok e =>
      obtain ⟨authority, hauthority⟩ := hresolve e herrand
      dsimp only
      rcases limits.check.judge (network.control e.check) with _ | fault | _ | ⟨page, contentType⟩
      · intro h
        cases h
      · intro h
        have hsame := ErrorReply.code_eq_of_response_eq (Option.some.inj h)
        exact absurd (hsame.trans hcode) (ErrorReply.code_ofFault_ne fault)
      · intro h
        exact exists_sent_of_unknownRedirect hcode hauthority (Option.some.inj h)
      · intro h
        have hstatus := congrArg Response.status (Option.some.inj h)
        rw [ErrorReply.response, Response.ofText, hcode] at hstatus
        cases hstatus

end Table

end Gatekeeper
