import Gatekeeper.Proofs.Config.Routing
import Gatekeeper.Proofs.Template.Blank

namespace Gatekeeper

/-- The text is a URI with the scheme `http` and an authority. -/
def Uri.IsHttpUrl (t : Text) : Prop :=
  ∃ u, Uri.parse t = .ok u ∧ u.scheme = some .http ∧ u.authority.isSome = true

theorem Uri.isPlainHttpText_iff {t : Text} : isPlainHttpText t = true ↔ IsHttpUrl t := by
  rw [isPlainHttpText, IsHttpUrl]
  cases parse t with
  | error cause => simp
  | ok u => simp [isPlainHttp]

namespace Templates

variable {t : Templates} {s : Setting} {backends : Dict Text} {cause : RouteFault}

/-- The setting has a template that refers to the request or is not blank. -/
def MayState (t : Templates) (s : Setting) : Prop :=
  ∃ template, t.of? s = some template ∧ ('$' ∈ template ∨ Text.trim template ≠ [])

/-- The setting has a template that does not refer to the request and is not blank. -/
def AlwaysStates (t : Templates) (s : Setting) : Prop :=
  ∃ template, t.of? s = some template ∧ '$' ∉ template ∧ Text.trim template ≠ []

/-- The rules for the merged templates of a route. -/
structure Obeys (t : Templates) (backends : Dict Text) : Prop where
  url : ∀ url, t.of? .url = some url → '$' ∈ url ∨ Text.trim url = [] ∨ Uri.IsHttpUrl url
  redirect : ∃ target, t.of? .redirect = some target ∧ ('$' ∈ target ∨
    ∃ redirect, Redirect.parse target = .ok redirect ∧
      ∀ name, redirect = .backend name → name ∈ backends.keys)
  target : t.MayState .names ∨ t.MayState .group
  oneTarget : ¬(t.AlwaysStates .names ∧ t.AlwaysStates .group)

/-- The templates have the fault. -/
inductive Breaks (t : Templates) (backends : Dict Text) : RouteFault → Prop where
  | badUrl {url : Text} (hurl : t.of? .url = some url) (hconstant : '$' ∉ url)
      (hstated : Text.trim url ≠ []) (hhttp : ¬Uri.IsHttpUrl url) : Breaks t backends (.badUrl url)
  | missingRedirect (hredirect : t.of? .redirect = none) : Breaks t backends .missingRedirect
  | badRedirect {target : Text} {cause : RedirectError} (htarget : t.of? .redirect = some target)
      (hconstant : '$' ∉ target) (hparse : Redirect.parse target = .error cause) :
      Breaks t backends (.badRedirect cause)
  | unknownBackend {target name : Text} (htarget : t.of? .redirect = some target)
      (hconstant : '$' ∉ target) (hparse : Redirect.parse target = .ok (.backend name))
      (hname : name ∉ backends.keys) : Breaks t backends (.badRedirect (.unknownBackend name))
  | missingTarget (hnames : ¬t.MayState .names) (hgroup : ¬t.MayState .group) :
      Breaks t backends .missingTarget
  | twoTargets (hnames : t.AlwaysStates .names) (hgroup : t.AlwaysStates .group) :
      Breaks t backends .twoTargets

theorem declares_iff : t.declares s = true ↔ t.MayState s := by
  rw [declares, MayState]
  cases t.of? s with
  | none => simp
  | some template => simp [Template.isDynamic_iff, ← Text.trim_eq_nil_iff, ← Bool.not_eq_true]

theorem fixes_iff : t.fixes s = true ↔ t.AlwaysStates s := by
  rw [fixes, AlwaysStates]
  cases t.of? s with
  | none => simp
  | some template => simp [Template.isDynamic_iff, ← Text.trim_eq_nil_iff, ← Bool.not_eq_true]

theorem urlFault?_eq_none_iff : t.urlFault? = none ↔
    ∀ url, t.of? .url = some url → '$' ∈ url ∨ Text.trim url = [] ∨ Uri.IsHttpUrl url := by
  rw [urlFault?]
  cases t.of? .url with
  | none => simp
  | some url =>
      simp only [Option.some.injEq, forall_eq', ← Template.isDynamic_iff, Text.trim_eq_nil_iff,
        ← Uri.isPlainHttpText_iff, ite_eq_left_iff, reduceCtorEq, imp_false, not_not,
        Bool.or_eq_true, or_assoc]

theorem breaks_of_urlFault? (h : t.urlFault? = some cause) : t.Breaks backends cause := by
  rw [urlFault?] at h
  split at h
  · rename_i url hurl
    split at h
    · cases h
    · rename_i hfault
      cases h
      rw [Bool.or_eq_true, Bool.or_eq_true, Template.isDynamic_iff, ← Text.trim_eq_nil_iff,
        Uri.isPlainHttpText_iff, not_or, not_or] at hfault
      exact .badUrl hurl hfault.1.1 hfault.1.2 hfault.2
  · cases h

theorem redirectFault?_eq_none_iff : t.redirectFault? backends = none ↔
    ∃ target, t.of? .redirect = some target ∧ ('$' ∈ target ∨
      ∃ redirect, Redirect.parse target = .ok redirect ∧
        ∀ name, redirect = .backend name → name ∈ backends.keys) := by
  rw [redirectFault?]
  cases t.of? .redirect with
  | none => simp
  | some target =>
      by_cases hdynamic : '$' ∈ target
      · simp [Template.isDynamic_iff, hdynamic]
      · simp only [Template.isDynamic_iff, hdynamic, if_false, Option.some.injEq,
          exists_eq_left', false_or]
        cases Redirect.parse target with
        | error cause => simp
        | ok redirect =>
            cases redirect with
            | backend name => simp [Dict.contains_iff_mem_keys]
            | address authority => simp

theorem breaks_of_redirectFault? (h : t.redirectFault? backends = some cause) :
    t.Breaks backends cause := by
  rw [redirectFault?] at h
  split at h
  · rename_i hnone
    cases h
    exact .missingRedirect hnone
  · rename_i target htarget
    split at h
    · cases h
    · rename_i hconstant
      rw [Template.isDynamic_iff] at hconstant
      split at h
      · rename_i name hparse
        split at h
        · cases h
        · rename_i hname
          rw [Dict.contains_iff_mem_keys] at hname
          cases h
          exact .unknownBackend htarget hconstant hparse hname
      · cases h
      · rename_i hparse
        cases h
        exact .badRedirect htarget hconstant hparse

theorem targetFault?_eq_none_iff : t.targetFault? = none ↔
    (t.MayState .names ∨ t.MayState .group) ∧
      ¬(t.AlwaysStates .names ∧ t.AlwaysStates .group) := by
  simp only [targetFault?, ← declares_iff, ← fixes_iff]
  cases t.declares .names <;> cases t.declares .group <;> cases t.fixes .names <;>
    cases t.fixes .group <;> simp

theorem breaks_of_targetFault? (h : t.targetFault? = some cause) : t.Breaks backends cause := by
  rw [targetFault?] at h
  split at h
  · rename_i hnone
    cases h
    rw [Bool.and_eq_true, Bool.not_eq_true', Bool.not_eq_true', ← Bool.not_eq_true,
      ← Bool.not_eq_true, declares_iff, declares_iff] at hnone
    exact .missingTarget hnone.1 hnone.2
  · split at h
    · rename_i hboth
      cases h
      rw [Bool.and_eq_true, fixes_iff, fixes_iff] at hboth
      exact .twoTargets hboth.1 hboth.2
    · cases h

theorem obeys_iff : t.Obeys backends ↔ t.fault? backends = none := by
  rw [fault?_eq_none_iff, urlFault?_eq_none_iff, redirectFault?_eq_none_iff,
    targetFault?_eq_none_iff]
  constructor
  · exact fun h => ⟨h.url, h.redirect, h.target, h.oneTarget⟩
  · exact fun ⟨hurl, hredirect, htarget, honeTarget⟩ => ⟨hurl, hredirect, htarget, honeTarget⟩

theorem breaks_of_fault? (h : t.fault? backends = some cause) : t.Breaks backends cause := by
  rcases Option.or_eq_some_iff.mp h with hurl | ⟨-, hrest⟩
  · exact breaks_of_urlFault? hurl
  · rcases Option.or_eq_some_iff.mp hrest with hredirect | ⟨-, htarget⟩
    · exact breaks_of_redirectFault? hredirect
    · exact breaks_of_targetFault? htarget

theorem Obeys.exists_parse {target : Text} (h : t.Obeys backends)
    (htarget : t.of? .redirect = some target) (hconstant : '$' ∉ target) :
    ∃ redirect, Redirect.parse target = .ok redirect ∧
      ∀ name, redirect = .backend name → name ∈ backends.keys := by
  obtain ⟨other, hother, hdynamic | hparse⟩ := h.redirect
  · cases htarget.symm.trans hother
    exact absurd hdynamic hconstant
  · cases htarget.symm.trans hother
    exact hparse

theorem Obeys.not_breaks (h : t.Obeys backends) : ¬t.Breaks backends cause := by
  rintro (⟨hurl, hconstant, hstated, hhttp⟩ | hnone | ⟨htarget, hconstant, hparse⟩ |
    ⟨htarget, hconstant, hparse, hname⟩ | ⟨hnames, hgroup⟩ | ⟨hnames, hgroup⟩)
  · rcases h.url _ hurl with hdynamic | hblank | hplain
    · exact hconstant hdynamic
    · exact hstated hblank
    · exact hhttp hplain
  · obtain ⟨target, htarget, -⟩ := h.redirect
    cases hnone.symm.trans htarget
  · obtain ⟨redirect, hredirect, -⟩ := h.exists_parse htarget hconstant
    cases hparse.symm.trans hredirect
  · obtain ⟨redirect, hredirect, hknown⟩ := h.exists_parse htarget hconstant
    cases hparse.symm.trans hredirect
    exact hname (hknown _ rfl)
  · exact h.target.elim hnames hgroup
  · exact h.oneTarget ⟨hnames, hgroup⟩

theorem Merges.eq {merged other own inherited : Templates} (h : merged.Merges own inherited)
    (h' : other.Merges own inherited) : merged = other :=
  Dict.ext fun name => (h name).trans (h' name).symm

end Templates

namespace Config

variable {c : Config}

/-- The rules for a configuration. -/
structure ObeysRules (c : Config) : Prop where
  controlUrl : Uri.IsHttpUrl c.controlUrl
  backends : ∀ name address, c.backends.get? name = some address →
    ∃ authority, Authority.parse address = .ok authority
  hosts : ∀ host ∈ c.routes.keys, ∀ other ∈ c.routes.keys,
    Text.lower host = Text.lower other → host = other
  routes : ∀ (host : Text) (own merged : Templates), c.routes.get? host = some own →
    merged.Merges own c.defaults → merged.Obeys c.backends

theorem mem_entries_templates_iff {host : Text} {merged : Templates} :
    (host, merged) ∈ c.templates.entries ↔
      ∃ own, c.routes.get? host = some own ∧ merged.Merges own c.defaults := by
  simp only [← Dict.get?_eq_some_iff, templates, Dict.get?_map, Option.map_eq_some_iff]
  refine exists_congr fun own => and_congr_right fun _ => ?_
  constructor
  · rintro rfl
    exact c.override_merges own
  · exact fun hmerged => (c.override_merges own).eq hmerged

theorem routeFaults_eq_nil_iff : c.routeFaults = [] ↔
    ∀ (host : Text) (own merged : Templates), c.routes.get? host = some own →
      merged.Merges own c.defaults → merged.Obeys c.backends := by
  rw [routeFaults, List.filterMap_eq_nil_iff, Prod.forall]
  simp only [Option.map_eq_none_iff, ← Templates.obeys_iff, mem_entries_templates_iff]
  constructor
  · exact fun h host own merged hown hmerged => h host merged ⟨own, hown, hmerged⟩
  · exact fun h host merged ⟨own, hown, hmerged⟩ => h host own merged hown hmerged

theorem isValid_iff_obeysRules : c.IsValid ↔ c.ObeysRules := by
  rw [isValid_iff, controlFaults_eq_nil_iff, Uri.isPlainHttpText_iff, backendFaults_eq_nil_iff,
    clashes_keys_eq_nil_iff, routeFaults_eq_nil_iff]
  constructor
  · exact fun ⟨hcontrol, hbackends, hhosts, hroutes⟩ => ⟨hcontrol, hbackends, hhosts, hroutes⟩
  · exact fun h => ⟨h.controlUrl, h.backends, h.hosts, h.routes⟩

end Config

end Gatekeeper
