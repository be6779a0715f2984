import Gatekeeper.Proofs.Text.Blank
import Gatekeeper.Proofs.Uri.Form
import Gatekeeper.Redirect

namespace Gatekeeper.Redirect

variable {t name : Text}

theorem ofTrimmed_eq_backend_iff :
    ofTrimmed t = .ok (.backend name) ↔ t = '@' :: name ∧ name ≠ [] := by
  constructor
  · intro h
    unfold ofTrimmed at h
    split at h
    · split at h
      · cases h
      · rename_i hne
        cases h
        exact ⟨rfl, mt List.isEmpty_iff.mpr hne⟩
    · split at h
      · cases h
      · split at h
        · cases h
        · split at h
          · cases h
          · split at h <;> cases h
  · rintro ⟨rfl, hne⟩
    exact if_neg (mt List.isEmpty_iff.mp hne)

theorem parse_eq_backend_iff :
    parse t = .ok (.backend name) ↔ Text.trim t = '@' :: name ∧ name ≠ [] :=
  ofTrimmed_eq_backend_iff

theorem exists_uri_of_ofTrimmed {a : Authority} (h : ofTrimmed t = .ok (.address a)) :
    ∃ uri, Uri.parse t = .ok uri ∧ uri.scheme = some .http ∧
      (uri.path = [] ∨ uri.path = ['/']) ∧ uri.query = none ∧ uri.authority = some a := by
  unfold ofTrimmed at h
  split at h
  · split at h <;> cases h
  · split at h
    · cases h
    · rename_i uri huri
      split at h
      · cases h
      · rename_i hscheme
        split at h
        · cases h
        · rename_i htarget
          rw [not_or] at htarget
          split at h
          · rename_i authority hauthority
            cases h
            refine ⟨uri, huri, Decidable.not_not.mp hscheme, ?_, ?_, hauthority⟩
            · exact Decidable.or_iff_not_not_and_not.mpr htarget.1
            · simpa using htarget.2
          · cases h

theorem ofTrimmed_of_parse {uri : Uri} {a : Authority} (hname : ∀ name, t ≠ '@' :: name)
    (huri : Uri.parse t = .ok uri) (hscheme : uri.scheme = some .http)
    (hpath : uri.path = [] ∨ uri.path = ['/']) (hquery : uri.query = none)
    (hauthority : uri.authority = some a) : ofTrimmed t = .ok (.address a) := by
  unfold ofTrimmed
  split
  · rename_i name
    exact absurd rfl (hname name)
  · have htarget : ¬(uri.path ≠ [] ∧ uri.path ≠ ['/'] ∨ uri.query.isSome = true) := by
      rw [hquery, not_or]
      exact ⟨Decidable.or_iff_not_not_and_not.mp hpath, by simp⟩
    simp only [huri, hscheme, ne_eq, not_true, if_false, if_neg htarget, hauthority]

theorem exists_uri_of_parse {a : Authority} (h : parse t = .ok (.address a)) :
    ∃ uri, Uri.parse (Text.trim t) = .ok uri ∧ uri.scheme = some .http ∧
      (uri.path = [] ∨ uri.path = ['/']) ∧ uri.query = none ∧ uri.authority = some a :=
  exists_uri_of_ofTrimmed h

theorem isBlank_eq_false_of_parse {redirect : Redirect} (h : parse t = .ok redirect) :
    Text.isBlank t = false := by
  rw [← Bool.not_eq_true, ← Text.trim_eq_nil_iff]
  intro hblank
  rw [parse, hblank] at h
  cases h

end Gatekeeper.Redirect
