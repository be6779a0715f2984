import Gatekeeper.Proofs.Proxy.Answer
import Gatekeeper.Proofs.Table.Resolve

namespace Gatekeeper

/-- A redirect names a backend with this address, or it is a URI with this authority. White space
around it does not count. -/
inductive Config.LeadsTo (c : Config) (target : Text) (authority : Authority) : Prop where
  | backend {name : Text} (htarget : Text.trim target = '@' :: name)
      (haddress : c.backends.get? name = some authority.text)
  | address {uri : Uri} (huri : Uri.parse (Text.trim target) = .ok uri)
      (hscheme : uri.scheme = some .http) (hauthority : uri.authority = some authority)

theorem Config.IsValid.leadsTo_of_resolve {c : Config} (hvalid : c.IsValid) {target a : Text}
    (h : (Table.ofConfig c).resolve target = .ok a) :
    Authority.parse a = .ok ⟨a⟩ ∧ c.LeadsTo target ⟨a⟩ := by
  rcases Table.cases_of_resolve_eq_ok h with ⟨authority, hparse, rfl⟩ | ⟨name, hparse, haddress⟩
  · obtain ⟨uri, huri, hscheme, -, -, hauthority⟩ := Redirect.exists_uri_of_parse hparse
    exact ⟨Uri.parse_authority_of_parse huri hauthority, .address huri hscheme hauthority⟩
  · obtain ⟨authority, hauthority⟩ := hvalid.parse_address haddress
    obtain ⟨-, -, -, rfl⟩ := Authority.parse_eq_ok_iff.mp hauthority
    exact ⟨hauthority, .backend (Redirect.parse_eq_backend_iff.mp hparse).1 haddress⟩

theorem Table.isBlank_eq_false_of_resolve {t : Table} {target a : Text}
    (h : t.resolve target = .ok a) : Text.isBlank target = false := by
  rcases cases_of_resolve_eq_ok h with ⟨authority, hparse, -⟩ | ⟨name, hparse, -⟩
  · exact Redirect.isBlank_eq_false_of_parse hparse
  · exact Redirect.isBlank_eq_false_of_parse hparse

theorem Table.exists_settings_of_resolve {t : Table} {r : Request} {freshId : Text}
    {client : IpAddress} {d : Dispatched} (hd : t.dispatch r freshId client = .ok d)
    (hconstant : d.route.templates.IsConstant .redirect) {redirect a : Text}
    (hredirect : d.route.templates.of? .redirect = some redirect)
    (hresolve : t.resolve redirect = .ok a) :
    ∃ s, d.settings = .ok s ∧ s.redirect = redirect := by
  obtain ⟨host, route, -, -, rfl⟩ := dispatch_eq_ok_iff.mp hd
  refine ⟨_, Settings.ofScope_eq_ok_iff.mpr ⟨redirect, ?_, ?_, rfl⟩, rfl⟩
  · rw [Route.scope_of_isConstant hconstant, hredirect]
  · exact isBlank_eq_false_of_resolve hresolve

/-- In an accepted configuration a request whose route has a constant redirect has settings, the
redirect leads to an authority, and a request that is ready is sent on to it. No answer but a
backend's own says that the redirect leads nowhere. -/
theorem constant_redirect_of_accepted_leads {c : Config} (hvalid : c.IsValid) {r : Request}
    {freshId : Text} {client : IpAddress} {d : Dispatched}
    (hd : (Table.ofConfig c).dispatch r freshId client = .ok d)
    (hconstant : d.route.templates.IsConstant .redirect) :
    ∃ (s : Settings) (authority : Authority), d.settings = .ok s ∧
      d.route.templates.of? .redirect = some s.redirect ∧
      (Table.ofConfig c).resolve s.redirect = .ok authority.text ∧
      Authority.parse authority.text = .ok authority ∧ c.LeadsTo s.redirect authority ∧
      ∀ (limits : Limits) (network : Network),
        let handled := (Table.ofConfig c).handle limits network freshId client r
        (∀ uri, s.checkUri = .ok uri →
          limits.check.judge (network.control (Check.request uri)) = some (.ok .ready) →
          handled.forwarded = d.request.forward? authority.text) ∧
        ∀ reply : ErrorReply, reply.code = .unknownRedirectTarget →
          handled.response = some reply.response →
          ∃ sent, handled.forwarded = some sent ∧
            network.backend sent = .response reply.response := by
  have hfault := Table.fault?_eq_none_of_dispatch hvalid hd
  obtain ⟨redirect, a, hredirect, hresolve⟩ := Table.exists_resolve_of_redirectFault?
    (t := Table.ofConfig c) (Templates.fault?_eq_none_iff.mp hfault).2.1 hconstant
  obtain ⟨hparse, hleads⟩ := hvalid.leadsTo_of_resolve hresolve
  obtain ⟨s, hs, rfl⟩ := Table.exists_settings_of_resolve hd hconstant hredirect hresolve
  refine ⟨s, ⟨a⟩, hs, hredirect, hresolve, hparse, hleads, ?_⟩
  intro limits network handled
  constructor
  · intro uri huri hready
    have herrand : (Table.ofConfig c).errand r freshId client =
        .ok ⟨d.request, s.redirect, Check.request uri⟩ :=
      Table.errand_eq_ok_iff_dispatched.mpr
        ⟨d, hd, Dispatched.errand_eq_ok_iff.mpr ⟨s, uri, hs, huri, rfl⟩⟩
    have hhandled : handled = _ := Table.handle_of_ready herrand hready
    rw [hhandled]
    exact Table.sent_of_resolve hresolve
  · intro reply hcode hresponse
    refine Table.exists_forwarded_of_unknownRedirect hcode ?_ hresponse
    intro e he
    rw [Table.target_of_errand hd hs he]
    exact ⟨a, hresolve⟩

/-- A route to a backend with a space in its name, and with white space around the redirect. -/
def Config.spacedRedirect : Config :=
  single "app.local".toList [(.names, "app".toList), (.redirect, "\u3000@my app\u00a0".toList)]
    [("my app".toList, "10.0.0.1:80".toList)]

theorem space_around_redirect_is_trimmed :
    ∃ (s : Settings) (authority : Authority), s.redirect = "\u3000@my app\u00a0".toList ∧
      (Table.ofConfig .spacedRedirect).resolve s.redirect = .ok authority.text ∧
      Config.spacedRedirect.backends.get? "my app".toList = some authority.text := by
  obtain ⟨d, hd, hconstant, htemplate⟩ :
      ∃ d, (Table.ofConfig .spacedRedirect).dispatch (.ofHost "app.local".toList) []
          (.v4 [127, 0, 0, 1]) = .ok d ∧ d.route.templates.IsConstant .redirect ∧
        d.route.templates.of? .redirect = some "\u3000@my app\u00a0".toList := by
    decide +kernel
  obtain ⟨s, authority, -, hredirect, hresolve, -, hleads, -⟩ :=
    constant_redirect_of_accepted_leads (by decide +kernel) hd hconstant
  have hspaced : s.redirect = "\u3000@my app\u00a0".toList :=
    Option.some.inj (hredirect.symm.trans htemplate)
  refine ⟨s, authority, hspaced, hresolve, ?_⟩
  rw [hspaced] at hleads
  cases hleads with
  | backend htarget haddress =>
      cases htarget
      exact haddress
  | address huri =>
      cases huri

end Gatekeeper
