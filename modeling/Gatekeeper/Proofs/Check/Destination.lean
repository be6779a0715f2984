import Gatekeeper.Proofs.Check.Endpoint
import Gatekeeper.Proofs.Uri.Query

namespace Gatekeeper

theorem Strategy.path_eq_of_name_eq {s s' : Strategy} (h : s.name = s'.name) :
    s.path = s'.path := by
  change "/api/strategies/".toList ++ s.name = "/api/strategies/".toList ++ s'.name
  rw [h]

namespace Uri

variable {u u' : Uri}

theorem isPlainHttp_of_withoutQuery (h : u.withoutQuery = u'.withoutQuery) :
    u.isPlainHttp = u'.isPlainHttp := by
  obtain ⟨hscheme, hauthority, -⟩ := Uri.mk.inj h
  rw [isPlainHttp, isPlainHttp, hscheme, hauthority]

end Uri

namespace Check

/-- Two attempts to make a URI come to URIs that differ in the query alone, or they fail with one
error. -/
inductive Alike : Except Fault Uri → Except Fault Uri → Prop where
  | invalid {text text' : Text} {cause : UriError} :
      Alike (.error (.invalidCheckUri text cause)) (.error (.invalidCheckUri text' cause))
  | unsupported {url : Text} :
      Alike (.error (.unsupportedControlUrl url)) (.error (.unsupportedControlUrl url))
  | sent {uri uri' : Uri} (hscheme : uri.scheme = uri'.scheme) (hhost : uri.host? = uri'.host?)
      (hport : uri.port? = uri'.port?) (hpath : uri.path = uri'.path) :
      Alike (.ok uri) (.ok uri')

variable {s s' : Settings} {c c' : Check}

theorem Alike.of_withoutQuery {u u' : Uri} (h : u.withoutQuery = u'.withoutQuery)
    (hplain : u.isPlainHttp = true) : Alike (.ok u) (.ok u') := by
  obtain ⟨hscheme, hauthority, hwritten, -⟩ := Uri.mk.inj h
  have hhttp := Uri.scheme_eq_http_of_isPlainHttp hplain
  refine .sent hscheme ?_ ?_ ?_
  · rw [Uri.host?, hauthority, Uri.host?]
  · rw [Uri.port?, hauthority, Uri.port?]
  · rw [Uri.path_of_scheme hhttp, Uri.path_of_scheme (hscheme ▸ hhttp), hwritten]

theorem url_eq (h : ofSettings s = .ok c) :
    c.url = Text.dropEndWhile (· == '/') s.controlUrl ++
      (Strategy.select s.blockingTimeout).path := by
  obtain ⟨selector, -, rfl⟩ := ofSettings_eq_ok_iff.mp h
  rfl

theorem url_ne_nil (h : ofSettings s = .ok c) : c.url ≠ [] := by
  rw [url_eq h]
  exact List.append_ne_nil_of_right_ne_nil _ (Strategy.path_ne_nil _)

theorem uri_alike (h : ofSettings s = .ok c) (h' : ofSettings s' = .ok c') (hurl : c.url = c'.url)
    (hlength : Text.byteLength c.text ≤ Uri.maxBytes)
    (hlength' : Text.byteLength c'.text ≤ Uri.maxBytes) : Alike c.uri c'.uri := by
  have hfront : (Uri.parse c.text).map Uri.withoutQuery =
      (Uri.parse c'.text).map Uri.withoutQuery := by
    calc (Uri.parse c.text).map Uri.withoutQuery
        = (Uri.parse (c.url ++ ['?'])).map Uri.withoutQuery :=
          Uri.parse_append_query (url_ne_nil h) (fitsQuery_query h) hlength
      _ = (Uri.parse (c'.url ++ ['?'])).map Uri.withoutQuery := by rw [hurl]
      _ = (Uri.parse c'.text).map Uri.withoutQuery :=
          (Uri.parse_append_query (url_ne_nil h') (fitsQuery_query h') hlength').symm
  rw [Check.uri, Check.uri]
  rcases Except.map_eq_map_iff.mp hfront with
    ⟨cause, hparse, hparse'⟩ | ⟨u, u', hparse, hparse', hsame⟩
  · rw [hparse, hparse']
    exact .invalid
  · rw [hparse, hparse']
    simp only [← Uri.isPlainHttp_of_withoutQuery hsame]
    split
    · rename_i hplain
      exact .of_withoutQuery hsame hplain
    · rw [hurl]
      exact .unsupported

end Check

/-- Settings with a target, one control URL and one kind of strategy make up checks that go to one
scheme, host, port and path, or both have no URI for the same reason. -/
theorem check_values_change_only_query {s s' : Settings} (htarget : s.HasTarget)
    (htarget' : s'.HasTarget) (hurl : s.controlUrl = s'.controlUrl)
    (hstrategy : (Strategy.select s.blockingTimeout).name =
      (Strategy.select s'.blockingTimeout).name) :
    ∃ c c', Check.ofSettings s = .ok c ∧ Check.ofSettings s' = .ok c' ∧
      (Text.byteLength c.text ≤ Uri.maxBytes → Text.byteLength c'.text ≤ Uri.maxBytes →
        Check.Alike c.uri c'.uri) := by
  obtain ⟨c, h⟩ := Check.exists_ofSettings htarget
  obtain ⟨c', h'⟩ := Check.exists_ofSettings htarget'
  refine ⟨c, c', h, h', ?_⟩
  apply Check.uri_alike h h'
  rw [Check.url_eq h, Check.url_eq h', hurl, Strategy.path_eq_of_name_eq hstrategy]

/-- Values full of marks that end the parts of a URI. -/
def Settings.ofMarks (url : Text) : Settings :=
  { ofControlUrl url with
    names := none
    group := some "@evil:1/?#".toList
    sessionDuration := []
    blockingTimeout := some "#@/".toList }

theorem marks_in_values_keep_endpoint :
    ∃ c c' uri uri', Check.ofSettings (.ofControlUrl "HTTP://me@[::1]:9000/gate//".toList) = .ok c ∧
      Check.ofSettings (.ofMarks "HTTP://me@[::1]:9000/gate//".toList) = .ok c' ∧
      c.uri = .ok uri ∧ c'.uri = .ok uri' ∧ uri.host? = uri'.host? ∧ uri.port? = uri'.port? ∧
      uri.path = uri'.path ∧ uri.query ≠ uri'.query := by
  have htarget : (Settings.ofControlUrl "HTTP://me@[::1]:9000/gate//".toList).HasTarget := by
    decide
  have htarget' : (Settings.ofMarks "HTTP://me@[::1]:9000/gate//".toList).HasTarget := by
    decide
  obtain ⟨c, c', h, h', halike⟩ := check_values_change_only_query htarget htarget' rfl rfl
  obtain ⟨d, hd, d', hd', hlength, hlength', uri, huri, uri', huri', hquery⟩ :
      ∃ d, Check.ofSettings (.ofControlUrl "HTTP://me@[::1]:9000/gate//".toList) = .ok d ∧
        ∃ d', Check.ofSettings (.ofMarks "HTTP://me@[::1]:9000/gate//".toList) = .ok d' ∧
          Text.byteLength d.text ≤ Uri.maxBytes ∧ Text.byteLength d'.text ≤ Uri.maxBytes ∧
          ∃ uri, d.uri = .ok uri ∧ ∃ uri', d'.uri = .ok uri' ∧ uri.query ≠ uri'.query := by
    decide +kernel
  cases h.symm.trans hd
  cases h'.symm.trans hd'
  have hends := halike hlength hlength'
  rw [huri, huri'] at hends
  cases hends with
  | sent hscheme hhost hport hpath =>
      exact ⟨c, c', uri, uri', h, h', huri, huri', hhost, hport, hpath, hquery⟩

end Gatekeeper
