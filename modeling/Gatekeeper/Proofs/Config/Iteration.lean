import Gatekeeper.Proofs.Config.Report

/-!
# The order in which a configuration is gone through

The entries of a dictionary have no order of their own. In whatever order they are met, the faults
are the same and, but for those of the backends, in the same order.
-/

namespace Gatekeeper

namespace Config

/-- An order in which the entries of each dictionary are met. -/
structure Order (c : Config) where
  backends : List (Text × Text)
  hosts : List Text
  /-- The own templates of a host. -/
  own : Text → List (Text × Text)
  backends_perm : backends.Perm c.backends.entries
  hosts_perm : hosts.Perm c.routes.keys
  own_perm : ∀ (host : Text) (templates : Templates), c.routes.get? host = some templates →
    (own host).Perm templates.entries

/-- The fault of one backend. -/
def backendFault? : Text × Text → Option ConfigFault := fun (name, address) =>
  match Authority.parse address with
  | .ok _ => none
  | .error _ => some (.badBackend name address)

theorem backendFaults_eq (c : Config) :
    c.backendFaults = c.backends.entries.filterMap backendFault? :=
  rfl

/-- The fault of one route. -/
def routeFault? (c : Config) (host : Text) (templates : Templates) : Option ConfigFault :=
  (templates.fault? c.backends).map (.route host)

theorem routeFaults_eq (c : Config) :
    c.routeFaults = c.routes.keys.filterMap fun host =>
      (c.templatesOf? host).bind (c.routeFault? host) := by
  rw [routeFaults, ← c.templates.filterMap_get?_keys, c.keys_templates, List.filterMap_filterMap]
  refine List.filterMap_congr fun host _ => ?_
  rw [templatesOf?]
  cases c.templates.get? host with
  | none => rfl
  | some templates => rfl

namespace Order

variable {c : Config} (order : c.Order)

def sortedHosts : List Text :=
  order.hosts.mergeSort Text.isAtMost

/-- The own templates of the host, put over the inherited ones one after the other. -/
def templatesOf? (host : Text) : Option Templates :=
  (c.routes.get? host).map fun _ =>
    (order.own host).foldl (fun merged e => merged.insert e.1 e.2) c.defaults

/-- What the rules report if the configuration is gone through in this order. -/
def report : Report where
  control := c.controlFaults
  backends := order.backends.filterMap backendFault?
  clashes := clashes [] order.sortedHosts
  routes := order.sortedHosts.filterMap fun host =>
    (order.templatesOf? host).bind (c.routeFault? host)

@[simp] theorem sortedHosts_eq : order.sortedHosts = c.routes.keys :=
  Dict.mergeSort_eq_of_perm c.routes.ascending_keys order.hosts_perm

@[simp] theorem templatesOf?_eq (host : Text) : order.templatesOf? host = c.templatesOf? host := by
  cases hown : c.routes.get? host with
  | none => simp [templatesOf?, hown]
  | some templates =>
      simp [templatesOf?, hown, Dict.foldl_insert_eq_override (order.own_perm host templates hown)]

theorem report_agrees : order.report.Agrees c.report where
  control := rfl
  backends := by
    rw [Config.report, backendFaults_eq]
    exact order.backends_perm.filterMap backendFault?
  clashes := by simp [report, Config.report]
  routes := by simp only [report, Config.report, sortedHosts_eq, templatesOf?_eq, routeFaults_eq]

/-- All entries from the last to the first. -/
def descending (c : Config) : c.Order where
  backends := c.backends.entries.reverse
  hosts := c.routes.keys.reverse
  own host := ((c.routes.get? host).elim [] Dict.entries).reverse
  backends_perm := List.reverse_perm _
  hosts_perm := List.reverse_perm _
  own_perm host templates hown := by
    rw [hown]
    exact List.reverse_perm _

end Order

end Config

/-- A configuration is accepted exactly when it obeys the rules. Otherwise all its faults are
reported, each of them once. But for the order of the faults of backends, the report does not depend
on the order in which the dictionaries are gone through. -/
theorem rules_are_decided_and_faults_reported (c : Config) :
    (c.validate = .ok c ↔ c.ObeysRules) ∧
      (¬c.ObeysRules → c.validate = .error (.invalid c.report.all)) ∧
      c.Reports c.report ∧
      ∀ order : c.Order, order.report.Agrees c.report := by
  refine ⟨?_, ?_, c.reports_report, fun order => order.report_agrees⟩
  · rw [Config.validate_eq_ok_iff, Config.isValid_iff_obeysRules, and_iff_left rfl]
  · intro hbroken
    rw [← Config.isValid_iff_obeysRules, Config.IsValid, ← List.isEmpty_iff] at hbroken
    rw [← Config.faults_eq_all]
    exact if_neg hbroken

/-- The control URL, two backends, three hosts that differ only in case and two of their routes have
faults. -/
def Config.broken : Config :=
  { standard with
    controlUrl := "control:10000".toList
    backends := Dict.ofList [("api".toList, "10.0.0.2/api".toList),
      ("app".toList, "10.0.0.1:80".toList), ("web".toList, "no address".toList)]
    defaults := Dict.ofList [(Setting.names.key, "app".toList),
      (Setting.redirect.key, "@app".toList)]
    routes := Dict.ofList [
      ("app.local".toList, Dict.ofList [(Setting.redirect.key, "@db".toList)]),
      ("App.local".toList, Dict.empty),
      ("APP.local".toList, Dict.ofList [(Setting.group.key, "web".toList)])] }

theorem broken_is_refused_with_all_faults :
    Config.broken.validate = .error (.invalid [
      .badControlUrl "control:10000".toList,
      .badBackend "api".toList "10.0.0.2/api".toList,
      .badBackend "web".toList "no address".toList,
      .hostClash "APP.local".toList "App.local".toList,
      .hostClash "App.local".toList "app.local".toList,
      .route "APP.local".toList .twoTargets,
      .route "app.local".toList (.badRedirect (.unknownBackend "db".toList))]) ∧
    (Config.Order.descending .broken).report.backends = [
      .badBackend "web".toList "no address".toList,
      .badBackend "api".toList "10.0.0.2/api".toList] ∧
    (Config.Order.descending .broken).report.clashes = [
      .hostClash "APP.local".toList "App.local".toList,
      .hostClash "App.local".toList "app.local".toList] := by
  obtain ⟨haccepted, hrefused, -, horder⟩ := rules_are_decided_and_faults_reported .broken
  have hbroken : ¬Config.broken.ObeysRules := by
    intro hobeys
    have hvalid := (Config.validate_eq_ok_iff.mp (haccepted.mpr hobeys)).1
    exact absurd hvalid (by decide +kernel)
  refine ⟨?_, ?_, ?_⟩
  · rw [hrefused hbroken]
    refine congrArg (Except.error ∘ LoadError.invalid) ?_
    decide +kernel
  · decide +kernel
  · rw [(horder (.descending .broken)).clashes]
    decide +kernel

end Gatekeeper
