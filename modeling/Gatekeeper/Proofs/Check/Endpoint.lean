import Gatekeeper.Proofs.Check.Query
import Gatekeeper.Proofs.Proxy.Dispatch
import Gatekeeper.Proofs.Uri.PlainHttp

/-!
# Where checks go

The text of a check is the control URL with a path and a query behind it, and is read again. It
leads to the endpoint of its strategy if the control URL has neither a query nor a fragment. Behind
one of these the endpoint is no longer part of the path.
-/

namespace Gatekeeper

namespace Strategy

variable (s : Strategy)

@[simp] theorem head?_path : s.path.head? = some '/' := by
  cases s with
  | dynamic => rfl
  | blocking timeout => rfl

@[simp] theorem fitsTarget_path : Uri.fitsTarget s.path = true := by
  cases s with
  | dynamic => rfl
  | blocking timeout => rfl

@[simp] theorem fitsQuery_path : Uri.fitsQuery s.path = true := by
  cases s with
  | dynamic => rfl
  | blocking timeout => rfl

theorem path_ne_nil : s.path ≠ [] := by
  intro hnil
  have hhead := s.head?_path
  rw [hnil] at hhead
  cases hhead

theorem not_mem_path {mark : Char} (h : mark = '?' ∨ mark = '#') : mark ∉ s.path := by
  cases s with
  | dynamic =>
      change mark ∉ "/api/strategies/dynamic".toList
      rcases h with rfl | rfl <;> decide
  | blocking timeout =>
      change mark ∉ "/api/strategies/blocking".toList
      rcases h with rfl | rfl <;> decide

@[simp] theorem dropEndWhile_append_path (t : Text) :
    Text.dropEndWhile (· == '/') (t ++ s.path) = t ++ s.path := by
  have hlast : (s.path.getLast s.path_ne_nil == '/') = false := by
    cases s with
    | dynamic => rfl
    | blocking timeout => rfl
  rw [← List.dropLast_concat_getLast s.path_ne_nil, ← List.append_assoc]
  exact Text.dropEndWhile_append_cons hlast

end Strategy

namespace Check

variable {s : Settings} {c : Check}

theorem fitsQuery_query (h : ofSettings s = .ok c) : Uri.fitsQuery c.query = true := by
  obtain ⟨selector, -, rfl⟩ := ofSettings_eq_ok_iff.mp h
  exact Form.fitsQuery_encode _

theorem fragment_not_mem_query (h : ofSettings s = .ok c) : '#' ∉ c.query := by
  obtain ⟨selector, -, rfl⟩ := ofSettings_eq_ok_iff.mp h
  exact Form.fragment_not_mem_encode _

theorem text_eq (h : ofSettings s = .ok c) :
    c.text = Text.dropEndWhile (· == '/') s.controlUrl ++ (c.strategy.path ++ '?' :: c.query) := by
  obtain ⟨selector, -, rfl⟩ := ofSettings_eq_ok_iff.mp h
  rw [text, List.append_assoc]

/-- The text behind the authority, if it is the given one in the control URL. -/
def targetBehind (c : Check) (target : Text) : Text :=
  Text.dropEndWhile (· == '/') target ++ (c.strategy.path ++ '?' :: c.query)

theorem uri_of_isPlainHttpOf (h : ofSettings s = .ok c) {name authority target : Text}
    (hparts : Uri.IsPlainHttpOf s.controlUrl name authority target)
    (hlength : Text.byteLength c.text ≤ Uri.maxBytes) :
    c.uri = .ok ⟨some .http, some ⟨authority⟩, Uri.targetPath (c.targetBehind target),
      Uri.targetQuery? (c.targetBehind target)⟩ := by
  have hslash : (c.strategy.path ++ '?' :: c.query).head? = some '/' := by
    rw [List.head?_append, c.strategy.head?_path]
    rfl
  have htarget : Uri.fitsTarget ('?' :: c.query) = true := by
    rw [Uri.fitsTarget, if_pos rfl]
    exact fitsQuery_query h
  have hquery : Uri.fitsQuery ('?' :: c.query) = true := by
    rw [Uri.fitsQuery, fitsQuery_query h]
    rfl
  have hextended := hparts.dropEndWhile_append hslash
    (Uri.fitsTarget_append_of_fits c.strategy.fitsTarget_path htarget hquery)
    (Uri.fitsQuery_append_of_fits c.strategy.fitsQuery_path hquery)
  rw [← text_eq h] at hextended
  rw [Check.uri, hextended.parse_eq hlength]
  rfl

theorem exists_uri_of_isPlainHttpText (h : ofSettings s = .ok c)
    (hurl : Uri.isPlainHttpText s.controlUrl = true)
    (hlength : Text.byteLength c.text ≤ Uri.maxBytes) : ∃ uri, c.uri = .ok uri := by
  obtain ⟨name, authority, target, hparts, -⟩ := Uri.exists_parse_of_isPlainHttpText hurl
  exact ⟨_, uri_of_isPlainHttpOf h hparts hlength⟩

section

variable {target : Text} (hquery : '?' ∉ target) (hfragment : '#' ∉ target)

include hquery hfragment

theorem targetPath_targetBehind :
    Uri.targetPath (c.targetBehind target) =
      Text.dropEndWhile (· == '/') target ++ c.strategy.path := by
  have hsubset := (Text.dropEndWhile_prefix (p := (· == '/')) target).subset
  rw [targetBehind, Uri.targetPath_append (mt (@hsubset _) hquery) (mt (@hsubset _) hfragment),
    Uri.targetPath_append (c.strategy.not_mem_path (.inl rfl)) (c.strategy.not_mem_path (.inr rfl))]
  simp [Uri.targetPath]

theorem targetQuery?_targetBehind (h : ofSettings s = .ok c) :
    Uri.targetQuery? (c.targetBehind target) = some c.query := by
  have hsubset := (Text.dropEndWhile_prefix (p := (· == '/')) target).subset
  rw [targetBehind, Uri.targetQuery?_append (mt (@hsubset _) hquery) (mt (@hsubset _) hfragment),
    Uri.targetQuery?_append (c.strategy.not_mem_path (.inl rfl))
      (c.strategy.not_mem_path (.inr rfl)),
    Uri.targetQuery?_cons (fragment_not_mem_query h)]

end

theorem targetPath_targetBehind_of_mem {target : Text} (h : '?' ∈ target ∨ '#' ∈ target) :
    Uri.targetPath (c.targetBehind target) = Uri.targetPath target := by
  have hkept : '?' ∈ Text.dropEndWhile (· == '/') target ∨
      '#' ∈ Text.dropEndWhile (· == '/') target :=
    h.imp (Text.mem_dropEndWhile rfl) (Text.mem_dropEndWhile rfl)
  obtain ⟨dropped, hdropped⟩ := Text.dropEndWhile_prefix (p := (· == '/')) target
  calc Uri.targetPath (c.targetBehind target)
      = Uri.targetPath (Text.dropEndWhile (· == '/') target) := Uri.targetPath_append_of_mem hkept
    _ = Uri.targetPath (Text.dropEndWhile (· == '/') target ++ dropped) :=
        (Uri.targetPath_append_of_mem hkept).symm
    _ = Uri.targetPath target := by rw [hdropped]

theorem ne_dropEndWhile_append_path (path : Text) (strategy : Strategy) :
    path ≠ Text.dropEndWhile (· == '/') path ++ strategy.path := by
  intro heq
  have hkept : Text.dropEndWhile (· == '/') path = path := by
    rw [heq, strategy.dropEndWhile_append_path, ← heq]
  rw [hkept, List.self_eq_append_right] at heq
  exact strategy.path_ne_nil heq

end Check

/-- Settings with a target and a control URL of plain HTTP ask at the host and port of the URL. They
ask for the endpoint of the strategy, with all that the check states, if and only if the URL has
neither a query nor a fragment. With one of these they ask for the path of the URL alone. -/
theorem check_reaches_endpoint_iff {s : Settings} (htarget : s.HasTarget)
    (hurl : Uri.isPlainHttpText s.controlUrl = true) :
    ∃ c, Check.ofSettings s = .ok c ∧ (Text.byteLength c.text ≤ Uri.maxBytes →
      ∃ base uri, Uri.parse s.controlUrl = .ok base ∧ c.uri = .ok uri ∧
        uri.host? = base.host? ∧ uri.port? = base.port? ∧
        (uri.path = Text.dropEndWhile (· == '/') base.path ++ c.strategy.path ∧
            uri.query = some c.query ↔ '?' ∉ s.controlUrl ∧ '#' ∉ s.controlUrl) ∧
        ('?' ∈ s.controlUrl ∨ '#' ∈ s.controlUrl → uri.path = base.path)) := by
  obtain ⟨c, h⟩ := Check.exists_ofSettings htarget
  refine ⟨c, h, fun hlength => ?_⟩
  obtain ⟨name, authority, target, hparts, hbase⟩ := Uri.exists_parse_of_isPlainHttpText hurl
  refine ⟨_, _, hbase, Check.uri_of_isPlainHttpOf h hparts hlength, rfl, rfl, ?_⟩
  rw [hparts.mem_iff (.inl rfl), hparts.mem_iff (.inr rfl)]
  by_cases hmarks : '?' ∈ target ∨ '#' ∈ target
  · rw [Check.targetPath_targetBehind_of_mem hmarks]
    refine ⟨⟨?_, ?_⟩, fun _ => rfl⟩
    · rintro ⟨hpath, -⟩
      exact absurd hpath (Check.ne_dropEndWhile_append_path _ c.strategy)
    · rintro ⟨hquery, hfragment⟩
      exact absurd hmarks (not_or.mpr ⟨hquery, hfragment⟩)
  · obtain ⟨hquery, hfragment⟩ := not_or.mp hmarks
    refine ⟨⟨fun _ => ⟨hquery, hfragment⟩, fun _ => ⟨?_, ?_⟩⟩, fun h => absurd h hmarks⟩
    · have hne := List.append_ne_nil_of_right_ne_nil (Text.dropEndWhile (· == '/') target)
        c.strategy.path_ne_nil
      rw [Check.targetPath_targetBehind hquery hfragment,
        Uri.targetPath_of_not_mem hquery hfragment, Uri.path_of_scheme rfl, if_neg hne,
        Uri.path_of_scheme rfl]
      by_cases hempty : target = []
      · subst hempty
        rfl
      · rw [if_neg hempty]
    · exact Check.targetQuery?_targetBehind hquery hfragment h

def Settings.ofControlUrl (url : Text) : Settings :=
  { ofNames "app".toList with controlUrl := url }

theorem path_of_control_url_is_kept :
    ∃ c uri, Check.ofSettings (.ofControlUrl "HTTP://me@[::1]:9000/gate//".toList) = .ok c ∧
      c.uri = .ok uri ∧ uri.host? = some "[::1]".toList ∧ uri.port? = some 9000 ∧
      uri.path = "/gate".toList ++ c.strategy.path ∧ uri.query = some c.query := by
  obtain ⟨c, hc, hreach⟩ := check_reaches_endpoint_iff
    (s := .ofControlUrl "HTTP://me@[::1]:9000/gate//".toList) (by decide) (by decide +kernel)
  obtain ⟨c', hc', hlength⟩ : ∃ c', Check.ofSettings
      (.ofControlUrl "HTTP://me@[::1]:9000/gate//".toList) = .ok c' ∧
        Text.byteLength c'.text ≤ Uri.maxBytes := by
    decide +kernel
  cases hc.symm.trans hc'
  obtain ⟨base, uri, hbase, huri, hhost, hport, hendpoint, -⟩ := hreach hlength
  have hparsed : Uri.parse "HTTP://me@[::1]:9000/gate//".toList =
      .ok ⟨some .http, some ⟨"me@[::1]:9000".toList⟩, "/gate//".toList, none⟩ := by
    decide +kernel
  cases hbase.symm.trans hparsed
  obtain ⟨hpath, hquery⟩ := hendpoint.mpr (by decide)
  refine ⟨c, uri, hc, huri, hhost.trans ?_, hport.trans ?_, hpath.trans ?_, hquery⟩
  · decide +kernel
  · decide +kernel
  · rfl

/-- Behind a query the endpoint and the question mark are text of the query. -/
theorem query_of_control_url_takes_endpoint :
    (Settings.ofControlUrl "http://control/?a".toList).HasTarget ∧
      Uri.isPlainHttpText "http://control/?a".toList = true ∧
      ∃ c, Check.ofSettings (.ofControlUrl "http://control/?a".toList) = .ok c ∧
        Text.byteLength c.text ≤ Uri.maxBytes ∧
        ∃ uri, c.uri = .ok uri ∧ uri.path = ['/'] ∧
          uri.query = some ("a/api/strategies/blocking?".toList ++ c.query) := by
  decide +kernel

end Gatekeeper
