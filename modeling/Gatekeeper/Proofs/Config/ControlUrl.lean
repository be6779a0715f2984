import Gatekeeper.Proofs.Check.Endpoint
import Gatekeeper.Proofs.Config.RuleSet
import Gatekeeper.Proofs.Proxy.Dispatch
import Gatekeeper.Proofs.Uri.BlankStart
import Gatekeeper.Proxy.Handle

namespace Gatekeeper

namespace Check

variable {s : Settings} {c : Check}

theorem uri_of_isBlank (h : ofSettings s = .ok c) (hblank : Text.isBlank s.controlUrl = true)
    (hne : s.controlUrl ≠ []) (hlength : Text.byteLength c.text ≤ Uri.maxBytes) :
    c.uri = .error (.invalidCheckUri c.text .badCharacter) := by
  obtain ⟨first, rest, hurl⟩ := List.exists_cons_of_ne_nil hne
  rw [hurl] at hblank
  have hfirst := Text.isBlank_iff.mp hblank first List.mem_cons_self
  -- White space is no slash, so the first character stays.
  have hslash : (first == '/') = false := by
    rw [beq_eq_false_iff_ne]
    exact Text.ne_of_isBlankChar hfirst (by decide)
  have hkept : Text.dropEndWhile (· == '/') ([] ++ first :: rest) =
      [] ++ first :: Text.dropEndWhile (· == '/') rest :=
    Text.dropEndWhile_append_cons hslash
  rw [List.nil_append, List.nil_append] at hkept
  obtain ⟨second, others, hbehind⟩ := List.exists_cons_of_ne_nil
    (List.append_ne_nil_of_right_ne_nil (Text.dropEndWhile (· == '/') rest)
      (List.append_ne_nil_of_right_ne_nil c.strategy.path (List.cons_ne_nil '?' c.query)))
  have htext : c.text = first :: second :: others := by
    rw [text_eq h, hurl, hkept, List.cons_append, hbehind]
  rw [Check.uri]
  rw [htext] at hlength ⊢
  rw [Uri.parse_of_isBlankChar hfirst hlength]

end Check

namespace Templates

variable {t : Templates}

theorem isPlainHttpText_of_urlFault? (h : t.urlFault? = none) (hconstant : t.IsConstant .url)
    {url : Text} (hurl : t.of? .url = some url) (hstated : Text.trim url ≠ []) :
    Uri.isPlainHttpText url = true := by
  rcases urlFault?_eq_none_iff.mp h url hurl with hdynamic | hblank | hhttp
  · exact absurd hdynamic (Template.isDynamic_eq_false_iff.mp (hconstant url hurl))
  · exact absurd hblank hstated
  · exact Uri.isPlainHttpText_iff.mpr hhttp

theorem url_cases (h : t.urlFault? = none) (hconstant : t.IsConstant .url) {defaultUrl : Text}
    (hdefault : Uri.isPlainHttpText defaultUrl = true) :
    let url := ((t.of? .url).filter (!·.isEmpty)).getD defaultUrl
    (¬t.HasBlank .url ∧ Uri.isPlainHttpText url = true) ∨
      (t.HasBlank .url ∧ Text.isBlank url = true ∧ url ≠ []) := by
  cases htemplate : t.of? .url with
  | none =>
      refine Or.inl ⟨?_, hdefault⟩
      rintro ⟨template, hsome, -, -⟩
      cases htemplate.symm.trans hsome
  | some template =>
      have hblank : t.HasBlank .url ↔ Text.trim template = [] ∧ template ≠ [] := by
        simp [HasBlank, htemplate]
      by_cases hempty : template = []
      · refine Or.inl ⟨fun h => (hblank.mp h).2 hempty, ?_⟩
        rw [hempty]
        exact hdefault
      · have hkept : (some template).filter (!·.isEmpty) = some template := by
          simp [Option.filter, hempty]
        rw [hkept, Option.getD_some]
        by_cases htrim : Text.trim template = []
        · exact Or.inr ⟨hblank.mpr ⟨htrim, hempty⟩, Text.trim_eq_nil_iff.mp htrim, hempty⟩
        · exact Or.inl ⟨fun h' => htrim (hblank.mp h').1,
            isPlainHttpText_of_urlFault? h hconstant htemplate htrim⟩

end Templates

/-- A check for a request of an accepted route with a constant URL has a URI, unless the URL is
blank without being empty or the URI would be too long. Then the check is sent, and whatever fails
is no longer the fault of the settings. With a blank URL nothing is sent. -/
theorem check_uri_of_accepted {c : Config} (hvalid : c.IsValid) {r : Request} {freshId : Text}
    {client : IpAddress} {d : Dispatched} {s : Settings} {check : Check}
    (hd : (Table.ofConfig c).dispatch r freshId client = .ok d) (hs : d.settings = .ok s)
    (hcheck : Check.ofSettings s = .ok check) (hurl : d.route.templates.IsConstant .url)
    (hlength : Text.byteLength check.text ≤ Uri.maxBytes) :
    (¬d.route.templates.HasBlank .url → ∃ uri, check.uri = .ok uri ∧
      ∀ limits network, (d.inquire limits network).sent = some (Check.request uri) ∧
        ∀ fault, (d.inquire limits network).result = some (.error fault) →
          fault.code ≠ .gateConfigError) ∧
      (d.route.templates.HasBlank .url →
        check.uri = .error (.invalidCheckUri check.text .badCharacter) ∧
          ∀ limits network, d.inquire limits network =
            ⟨none, some (.error (.invalidCheckUri check.text .badCharacter))⟩) := by
  have hinquire := Dispatched.inquire_of_settings hs
  have hfault := Templates.fault?_eq_none_iff.mp (Table.fault?_eq_none_of_dispatch hvalid hd)
  have hcases := Templates.url_cases hfault.1 hurl hvalid.isPlainHttpText_controlUrl
  obtain ⟨host, route, -, -, rfl⟩ := Table.dispatch_eq_ok_iff.mp hd
  obtain ⟨redirect, -, -, hsettings⟩ := Settings.ofScope_eq_ok_iff.mp hs
  have hcontrolUrl : s.controlUrl = ((route.templates.of? .url).filter (!·.isEmpty)).getD
      c.controlUrl := by
    rw [hsettings, Route.scope_of_isConstant hurl]
    rfl
  rw [← hcontrolUrl] at hcases
  constructor
  · intro hblank
    have hplain := hcases.resolve_right fun h => hblank h.1
    obtain ⟨uri, huri⟩ := Check.exists_uri_of_isPlainHttpText hcheck hplain.2 hlength
    refine ⟨uri, huri, ?_⟩
    intro limits network
    rw [hinquire]
    exact Settings.inquire_of_checkUri_eq_ok ((Settings.checkUri_of_ofSettings hcheck).trans huri)
      limits.check network.control
  · intro hblank
    have hurlBlank := hcases.resolve_left fun h => h.1 hblank
    have huri := Check.uri_of_isBlank hcheck hurlBlank.2.1 hurlBlank.2.2 hlength
    refine ⟨huri, ?_⟩
    intro limits network
    rw [hinquire]
    exact Settings.inquire_of_checkUri_eq_error
      ((Settings.checkUri_of_ofSettings hcheck).trans huri) limits.check network.control

def Config.ofUrl (url : Text) : Config :=
  single "app.local".toList
    [(.url, url), (.names, "app".toList), (.redirect, "@app".toList)]
    [("app".toList, "10.0.0.1:80".toList)]

theorem url_with_fragment_has_check_uri :
    ∃ d, (Table.ofConfig (.ofUrl "HTTP://control:9000/?a#b/".toList)).dispatch
        (.ofHost "app.local".toList) [] (.v4 [127, 0, 0, 1]) = .ok d ∧
      ∃ s, d.settings = .ok s ∧
        ∃ check, Check.ofSettings s = .ok check ∧ ∃ uri, check.uri = .ok uri := by
  obtain ⟨d, hd, s, hs, check, hcheck, hurl, hlength, hblank⟩ :
      ∃ d, (Table.ofConfig (.ofUrl "HTTP://control:9000/?a#b/".toList)).dispatch
          (.ofHost "app.local".toList) [] (.v4 [127, 0, 0, 1]) = .ok d ∧
        ∃ s, d.settings = .ok s ∧
          ∃ check, Check.ofSettings s = .ok check ∧ d.route.templates.IsConstant .url ∧
            Text.byteLength check.text ≤ Uri.maxBytes ∧ ¬d.route.templates.HasBlank .url := by
    decide +kernel
  obtain ⟨uri, huri, -⟩ :=
    (check_uri_of_accepted (by decide +kernel) hd hs hcheck hurl hlength).1 hblank
  exact ⟨d, hd, s, hs, check, hcheck, uri, huri⟩

/-- A space in place of a URL passes the rules, and no check has a URI. -/
theorem blank_url_has_no_check_uri :
    (Config.ofUrl [' ']).IsValid ∧
      ∃ d, (Table.ofConfig (.ofUrl [' '])).dispatch (.ofHost "app.local".toList) []
          (.v4 [127, 0, 0, 1]) = .ok d ∧ d.route.templates.IsConstant .url ∧
        ∃ s, d.settings = .ok s ∧
          ∃ check, Check.ofSettings s = .ok check ∧
            Text.byteLength check.text ≤ Uri.maxBytes ∧
            check.uri = .error (.invalidCheckUri check.text .badCharacter) := by
  decide +kernel

end Gatekeeper
