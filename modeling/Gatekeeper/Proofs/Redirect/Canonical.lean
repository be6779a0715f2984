import Gatekeeper.Proofs.Config.Redirect
import Gatekeeper.Proofs.Uri.BlankStart
import Gatekeeper.Proofs.Uri.Query

namespace Gatekeeper

namespace Uri

theorem byteLength_authority_le {t : Text} {u : Uri} {a : Authority} (hparse : parse t = .ok u)
    (hscheme : u.scheme = some .http) (ha : u.authority = some a) :
    Text.byteLength ("http://".toList ++ a.text) ≤ Text.byteLength t := by
  have hplain : u.isPlainHttp = true := by
    rw [isPlainHttp, hscheme, ha]
    rfl
  obtain ⟨name, authority, target, hparts⟩ := exists_isPlainHttpOf hparse hplain
  have hauthority : a.text = authority := by
    have hread := hparts.parse_eq (byteLength_le_of_parse hparse)
    rw [hparse] at hread
    cases hread
    cases ha
    rfl
  have hname : 4 ≤ Text.byteLength name := by
    have hlength : name.length = 4 := by
      rw [← List.length_map (f := Char.toLower), ← Text.asciiLower, hparts.name_eq]
      rfl
    rw [← hlength]
    exact Text.length_le_byteLength name
  have htext : t = name ++ ("://".toList ++ (authority ++ target)) := hparts.text_eq
  have hhttp : Text.byteLength "http://".toList = 7 := rfl
  have hmarks : Text.byteLength "://".toList = 3 := rfl
  rw [htext, hauthority]
  simp only [Text.byteLength_append, hhttp, hmarks]
  omega

end Uri

namespace Redirect

variable {t : Text} {redirect : Redirect}

/-- The text that a redirect is written with. -/
def text : Redirect → Text
  | .backend name => '@' :: name
  | .address authority => "http://".toList ++ authority.text

theorem parse_trim (t : Text) : parse (Text.trim t) = parse t := by
  rw [parse, Text.trim_trim, parse]

theorem ofTrimmed_text_address {a : Authority} (ha : Authority.parse a.text = .ok a)
    (hlength : Text.byteLength (text (.address a)) ≤ Uri.maxBytes) :
    ofTrimmed (text (.address a)) = .ok (.address a) := by
  obtain ⟨hne, hcheck, hinside, -⟩ := Authority.parse_eq_ok_iff.mp ha
  have hplain : Uri.IsPlainHttpOf (text (.address a)) "http".toList a.text [] := by
    rw [← List.append_nil (text (.address a))]
    exact Uri.isPlainHttpOf_http hcheck hne hinside (by simp) rfl
  have hname : ∀ name, text (.address a) ≠ '@' :: name := by
    intro name hat
    cases hat
  exact ofTrimmed_of_parse hname (hplain.parse_eq hlength) rfl (Or.inr rfl) rfl rfl

theorem parse_text_of_parse (h : parse t = .ok redirect) : parse redirect.text = .ok redirect := by
  cases redirect with
  | backend name =>
      obtain ⟨htrim, -⟩ := parse_eq_backend_iff.mp h
      change parse ('@' :: name) = .ok (.backend name)
      rw [← htrim, parse_trim, h]
  | address a =>
      obtain ⟨uri, huri, hscheme, -, -, hauthority⟩ := exists_uri_of_parse h
      have ha := Uri.parse_authority_of_parse huri hauthority
      have hlength := Nat.le_trans (Uri.byteLength_authority_le huri hscheme hauthority)
        (Uri.byteLength_le_of_parse huri)
      have hvisible : ∀ c ∈ text (.address a), Text.isBlankChar c = false := by
        intro c hc
        rcases List.mem_append.mp hc with hlead | hmem
        · have hall : "http://".toList.all (fun c => !Text.isBlankChar c) = true := by
            decide
          simpa using List.all_eq_true.mp hall c hlead
        · exact (Authority.isInside_of_parse ha c hmem).2
      rw [parse, Text.trim_of_forall hvisible]
      exact ofTrimmed_text_address ha hlength

/-- White space around a redirect makes no difference, not even to the error. A backend has a name,
and is read from the name behind an at sign. An address is an authority, so nothing of a path, a
query or white space is in it, and it is read from its authority behind `http://`. In an accepted
configuration every redirect that leads somewhere leads to an authority. -/
theorem redirects_are_canonical :
    (∀ t front back : Text, Text.isBlank front = true → Text.isBlank back = true →
      parse (front ++ t ++ back) = parse t) ∧
    (∀ (t name : Text), parse t = .ok (.backend name) →
      name ≠ [] ∧ parse ('@' :: name) = .ok (.backend name)) ∧
    (∀ (t : Text) (a : Authority), parse t = .ok (.address a) →
      a.text ≠ [] ∧ Authority.parse a.text = .ok a ∧
        (∀ c ∈ a.text, c ∉ ['/', '?', '#'] ∧ Text.isBlankChar c = false) ∧
        parse ("http://".toList ++ a.text) = .ok (.address a)) ∧
    ∀ c : Config, c.IsValid → ∀ target a, (Table.ofConfig c).resolve target = .ok a →
      Authority.parse a = .ok ⟨a⟩ := by
  refine ⟨?_, ?_, ?_, ?_⟩
  · intro t front back hfront hback
    rw [parse, Text.trim_append_of_isBlank hfront hback, parse]
  · intro t name h
    exact ⟨(parse_eq_backend_iff.mp h).2, parse_text_of_parse h⟩
  · intro t a h
    obtain ⟨uri, huri, -, -, -, hauthority⟩ := exists_uri_of_parse h
    have ha := Uri.parse_authority_of_parse huri hauthority
    refine ⟨(Authority.parse_eq_ok_iff.mp ha).1, ha, ?_, parse_text_of_parse h⟩
    intro c hc
    obtain ⟨hinside, hblank⟩ := Authority.isInside_of_parse ha c hc
    exact ⟨by simpa [Authority.isEnd, and_assoc] using hinside, hblank⟩
  · intro c hvalid target a h
    exact (hvalid.leadsTo_of_resolve h).1

theorem spaced_and_marked_redirects_are_canonical :
    parse (['\u2003'] ++ "@ app".toList ++ ['\n']) = .ok (.backend " app".toList) ∧
      parse "@ app".toList = .ok (.backend " app".toList) ∧
      parse (['\u2003'] ++ "HTTP://u@[::1]:80/#top".toList ++ ['\n']) =
        .ok (.address ⟨"u@[::1]:80".toList⟩) ∧
      parse ("http://".toList ++ "u@[::1]:80".toList) = .ok (.address ⟨"u@[::1]:80".toList⟩) ∧
      Authority.parse "u@[::1]:80".toList = .ok ⟨"u@[::1]:80".toList⟩ ∧
      Authority.parse "10.0.0.1:80".toList = .ok ⟨"10.0.0.1:80".toList⟩ := by
  obtain ⟨hspace, hbackend, haddress, hresolved⟩ := redirects_are_canonical
  have hfront : Text.isBlank ['\u2003'] = true := by
    decide
  have hback : Text.isBlank ['\n'] = true := by
    decide
  have hname : parse "@ app".toList = .ok (.backend " app".toList) := by
    decide +kernel
  have hmarked : parse "HTTP://u@[::1]:80/#top".toList =
      .ok (.address ⟨"u@[::1]:80".toList⟩) := by
    decide +kernel
  obtain ⟨-, hauthority, -, hcanonical⟩ := haddress _ _ hmarked
  refine ⟨?_, (hbackend _ _ hname).2, ?_, hcanonical, hauthority, ?_⟩
  · rw [hspace _ _ _ hfront hback, hname]
  · rw [hspace _ _ _ hfront hback, hmarked]
  · exact hresolved (.toBackend "app".toList "10.0.0.1:80".toList) (by decide +kernel)
      "@app".toList _ (by decide +kernel)

end Redirect

end Gatekeeper
