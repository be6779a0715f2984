import Gatekeeper.Proofs.Config.RuleSet
import Gatekeeper.Proofs.Redirect

namespace Gatekeeper

namespace Table

variable {t t' : Table} {target authority : Text}

theorem resolve_of_parse_address {a : Authority} (h : Redirect.parse target = .ok (.address a)) :
    t.resolve target = .ok a.text := by
  rw [resolve, h]

theorem resolve_eq_ok_iff_of_parse_backend {name : Text}
    (h : Redirect.parse target = .ok (.backend name)) :
    t.resolve target = .ok authority ↔ t.backends.get? name = some authority := by
  rw [resolve, h]
  cases hget : t.backends.get? name with
  | none => simp [hget]
  | some address => simp [hget]

theorem cases_of_resolve_eq_ok (h : t.resolve target = .ok authority) :
    (∃ a, Redirect.parse target = .ok (.address a) ∧ a.text = authority) ∨
      ∃ name, Redirect.parse target = .ok (.backend name) ∧
        t.backends.get? name = some authority := by
  cases hparse : Redirect.parse target with
  | error cause =>
      rw [resolve, hparse] at h
      cases h
  | ok redirect =>
      cases redirect with
      | address a =>
          rw [resolve_of_parse_address hparse] at h
          exact Or.inl ⟨a, rfl, Except.ok.inj h⟩
      | backend name =>
          exact Or.inr ⟨name, rfl, (resolve_eq_ok_iff_of_parse_backend hparse).mp h⟩

theorem resolve_eq_ok_iff_of_resolve (h : t.resolve target = .ok authority) :
    t'.resolve target = .ok authority ↔ ∀ name, Redirect.parse target = .ok (.backend name) →
      t'.backends.get? name = t.backends.get? name := by
  rcases cases_of_resolve_eq_ok h with ⟨a, hparse, rfl⟩ | ⟨own, hparse, hown⟩
  · simp [resolve_of_parse_address hparse, hparse]
  · rw [resolve_eq_ok_iff_of_parse_backend hparse, ← hown]
    constructor
    · rintro hsame name hname
      cases hparse.symm.trans hname
      exact hsame
    · intro hsame
      exact hsame own hparse

theorem exists_resolve_eq_error_iff_of_resolve (h : t.resolve target = .ok authority) :
    (∃ cause, t'.resolve target = .error cause) ↔
      ∃ name, Redirect.parse target = .ok (.backend name) ∧ t'.backends.get? name = none := by
  rcases cases_of_resolve_eq_ok h with ⟨a, hparse, -⟩ | ⟨own, hparse, -⟩
  · simp [resolve_of_parse_address hparse, hparse]
  · rw [resolve, hparse]
    cases hget : t'.backends.get? own with
    | none => simp [hget]
    | some address => simp [hget]

theorem exists_resolve_of_redirectFault? {templates : Templates}
    (h : templates.redirectFault? t.backends = none) (hconstant : templates.IsConstant .redirect) :
    ∃ redirect authority, templates.of? .redirect = some redirect ∧
      t.resolve redirect = .ok authority := by
  obtain ⟨redirect, hredirect, hdynamic | ⟨place, hparse, hknown⟩⟩ :=
    Templates.redirectFault?_eq_none_iff.mp h
  · exact absurd hdynamic (Template.isDynamic_eq_false_iff.mp (hconstant redirect hredirect))
  · cases place with
    | address a => exact ⟨redirect, a.text, hredirect, resolve_of_parse_address hparse⟩
    | backend name =>
        obtain ⟨address, haddress⟩ := Dict.mem_keys_iff.mp (hknown name rfl)
        exact ⟨redirect, address, hredirect,
          (resolve_eq_ok_iff_of_parse_backend hparse).mpr haddress⟩

end Table

end Gatekeeper
