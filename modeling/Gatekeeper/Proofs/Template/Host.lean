import Gatekeeper.Proofs.Proxy.Dispatch
import Gatekeeper.Proofs.Proxy.Hostname
import Gatekeeper.Proofs.Text.Pieces

namespace Gatekeeper

namespace Request

/-- The first Host field can be read, and this is its text in front of the first colon. -/
def NamesHost (r : Request) (name : Text) : Prop :=
  ':' ∉ name ∧ ∃ behind, r.headers.firstText? "host".toList = some (name ++ behind) ∧
    ∀ c, behind.head? = some c → c = ':'

variable {r : Request} {name host : Text}

theorem NamesHost.hostText? (h : r.NamesHost name) :
    ∃ t, r.hostText? = some t ∧ hostWithoutPort t = name := by
  obtain ⟨hcolon, behind, htext, hbehind⟩ := h
  refine ⟨name ++ behind, ?_, ?_⟩
  · rw [Request.hostText?, htext, Option.some_or]
  · refine Text.takeWhile_append_of_head? ?_ ?_
    · exact fun c hc => bne_iff_ne.mpr (ne_of_mem_of_not_mem hc hcolon)
    · intro c hc
      rw [hbehind c hc]
      rfl

theorem NamesHost.hostname?_eq (h : r.NamesHost name) :
    r.hostname? = if IsHostname name then some (Text.asciiLower name) else none := by
  obtain ⟨t, htext, rfl⟩ := h.hostText?
  refine Option.ext fun host => ?_
  rw [hostname?_of_hostText? htext]
  by_cases hname : IsHostname (hostWithoutPort t)
  · rw [if_pos hname, hname.lower_eq]
    simp [hname, eq_comm]
  · rw [if_neg hname]
    simp [hname]

theorem exists_hostText?_of_hostname? (h : r.hostname? = some host) :
    ∃ t, r.hostText? = some t ∧ IsHostname (hostWithoutPort t) ∧
      host = Text.asciiLower (hostWithoutPort t) := by
  cases htext : r.hostText? with
  | none =>
      rw [hostname?_of_hostText?_eq_none htext] at h
      cases h
  | some t =>
      obtain ⟨hname, rfl⟩ := (hostname?_of_hostText? htext).mp h
      exact ⟨t, rfl, hname, hname.lower_eq⟩

/-- The character is a small letter of ASCII, a digit, a hyphen or a dot. -/
def IsLowerHostnameChar (c : Char) : Prop :=
  'a' ≤ c ∧ c ≤ 'z' ∨ '0' ≤ c ∧ c ≤ '9' ∨ c = '-' ∨ c = '.'

instance (c : Char) : Decidable (IsLowerHostnameChar c) :=
  inferInstanceAs (Decidable (_ ∨ _))

theorem isLowerHostnameChar_toLower {c : Char} (h : isHostnameChar c = true) :
    IsLowerHostnameChar c.toLower :=
  Text.forall_ascii (P := fun c => isHostnameChar c = true → IsLowerHostnameChar c.toLower)
    (by decide) (toNat_lt_of_isHostnameChar h) h

end Request

namespace RequestValues

variable {r : Request} {host : Text}

theorem value_host_capture (h : r.hostname? = some host) (client : IpAddress) (secure : Bool) :
    (capture r client secure).value "host".toList = host := by
  obtain ⟨t, htext, hname, rfl⟩ := Request.exists_hostText?_of_hostname? h
  rw [value, if_pos rfl, capture, htext, Option.map_some, Option.getD_some, hname.lower_eq]

end RequestValues

/-- A host that selects a route is made of one to 253 small letters, digits, hyphens and dots, and
templates find it under the name `host`. Two requests whose Host fields can be read and have the
same text in front of the first colon, up to case, are for the same host or for none: there is one
exactly if the text is a hostname, and then templates find it in both. -/
theorem host_value_is_routed_host (r₁ r₂ : Request) (client₁ client₂ : IpAddress)
    (secure₁ secure₂ : Bool) :
    (∀ host, r₁.hostname? = some host →
      1 ≤ host.length ∧ host.length ≤ 253 ∧
        (∀ c ∈ host, Request.IsLowerHostnameChar c) ∧
        (RequestValues.capture r₁ client₁ secure₁).value "host".toList = host) ∧
      ∀ name₁ name₂, r₁.NamesHost name₁ → r₂.NamesHost name₂ →
        Text.asciiLower name₁ = Text.asciiLower name₂ →
          r₁.hostname? = r₂.hostname? ∧ (r₁.hostname?.isSome = true ↔ Request.IsHostname name₁) ∧
            ∀ host, r₁.hostname? = some host →
              (RequestValues.capture r₁ client₁ secure₁).value "host".toList = host ∧
                (RequestValues.capture r₂ client₂ secure₂).value "host".toList = host := by
  constructor
  · intro host hhost
    have hvalue := RequestValues.value_host_capture hhost client₁ secure₁
    obtain ⟨t, -, ⟨hne, hlength, hall⟩, rfl⟩ := Request.exists_hostText?_of_hostname? hhost
    refine ⟨?_, ?_, ?_, hvalue⟩
    · rw [Text.asciiLower, List.length_map]
      exact List.length_pos_iff.mpr hne
    · rw [Text.asciiLower, List.length_map]
      exact hlength
    · rw [Text.asciiLower, List.forall_mem_map]
      exact fun c hc => Request.isLowerHostnameChar_toLower (hall c hc)
  · intro name₁ name₂ hname₁ hname₂ hlower
    have hiff : Request.IsHostname name₁ ↔ Request.IsHostname name₂ := by
      rw [← Request.isHostname_asciiLower_iff, hlower, Request.isHostname_asciiLower_iff]
    have hsame : r₁.hostname? = r₂.hostname? := by
      rw [hname₁.hostname?_eq, hname₂.hostname?_eq, hlower]
      simp only [hiff]
    refine ⟨hsame, ?_, ?_⟩
    · rw [hname₁.hostname?_eq]
      by_cases hname : Request.IsHostname name₁
      · simp [hname]
      · simp [hname]
    · intro host hhost
      exact ⟨RequestValues.value_host_capture hhost client₁ secure₁,
        RequestValues.value_host_capture (hsame.symm.trans hhost) client₂ secure₂⟩

theorem port_and_case_make_no_difference :
    let r₁ := Request.ofHost "App-1.Local:8080".toList
    let r₂ := Request.ofHost "APP-1.local:?:".toList
    r₁.hostname? = r₂.hostname? ∧ r₁.hostname?.isSome = true ∧
      (RequestValues.capture r₁ (.v4 [127, 0, 0, 1]) false).value "host".toList =
        (RequestValues.capture r₂ (.v4 [10, 0, 0, 7]) true).value "host".toList := by
  intro r₁ r₂
  have hname₁ : r₁.NamesHost "App-1.Local".toList :=
    ⟨by decide, ":8080".toList, by decide +kernel, by simp⟩
  have hname₂ : r₂.NamesHost "APP-1.local".toList :=
    ⟨by decide, ":?:".toList, by decide +kernel, by simp⟩
  obtain ⟨hsame, hsome, hvalue⟩ := (host_value_is_routed_host r₁ r₂ (.v4 [127, 0, 0, 1])
    (.v4 [10, 0, 0, 7]) false true).2 _ _ hname₁ hname₂ (by decide)
  have hfound := hsome.mpr (by decide)
  obtain ⟨host, hhost⟩ := Option.isSome_iff_exists.mp hfound
  obtain ⟨hvalue₁, hvalue₂⟩ := hvalue host hhost
  exact ⟨hsame, hfound, hvalue₁.trans hvalue₂.symm⟩

end Gatekeeper
