import Gatekeeper.Proxy.Handle

namespace Gatekeeper

variable {s : Settings}

namespace Selector

theorem ofSettings_of_names {names : Text} (h : s.names = some names) (hne : names ≠ []) :
    ofSettings s = .ok (.names ((Text.pieces ',' names).map Text.trim)) := by
  simp [ofSettings, h, hne, Option.filter]

theorem ofSettings_of_group {group : Text} (hnames : ∀ names, s.names = some names → names = [])
    (h : s.group = some group) (hne : group ≠ []) : ofSettings s = .ok (.group group) := by
  have hnone : s.names.filter (!·.isEmpty) = none := by
    rw [Option.filter_eq_none_iff]
    intro names hsome
    simp [hnames names hsome]
  rw [ofSettings, hnone]
  simp [h, hne, Option.filter]

end Selector

theorem Check.ofSettings_eq_ok_iff {c : Check} :
    Check.ofSettings s = .ok c ↔ ∃ selector, Selector.ofSettings s = .ok selector ∧ c = {
      strategy := .select s.blockingTimeout
      selector
      url := Text.dropEndWhile (· == '/') s.controlUrl ++ (Strategy.select s.blockingTimeout).path
      query := Form.encode (parameters (.select s.blockingTimeout) selector s) } := by
  rw [Check.ofSettings]
  cases hselector : Selector.ofSettings s with
  | error fault => simp [bind, Except.bind]
  | ok selector => simp [bind, Except.bind, pure, Except.pure, eq_comm]

theorem Settings.checkUri_of_ofSettings {c : Check} (h : Check.ofSettings s = .ok c) :
    s.checkUri = c.uri := by
  rw [checkUri, h]
  rfl

theorem Settings.checkUri_eq_ok_iff {uri : Uri} :
    s.checkUri = .ok uri ↔ ∃ c, Check.ofSettings s = .ok c ∧ c.uri = .ok uri := by
  cases hcheck : Check.ofSettings s with
  | error fault => simp [checkUri, hcheck, bind, Except.bind]
  | ok c => simp [checkUri_of_ofSettings hcheck]

theorem CheckLimits.code_ne_of_judge {limits : CheckLimits} {exchange : Exchange} {fault : Fault}
    (h : limits.judge exchange = some (.error fault)) : fault.code ≠ .gateConfigError := by
  cases exchange with
  | response r =>
      rw [judge] at h
      split at h
      · cases h
        simp [Fault.code]
      · cases h
  | failed failure =>
      cases h
      simp [Fault.code]
  | silent =>
      obtain ⟨limit, -, hfault⟩ := Option.map_eq_some_iff.mp h
      cases hfault
      simp [Fault.code]

section

variable (limits : CheckLimits) (control : Request → Exchange) (counters : Counters)

theorem Settings.run_ask_of_checkUri_eq_error {fault : Fault} (h : s.checkUri = .error fault) :
    (s.ask limits control).run counters = (⟨none, some (.error fault)⟩, counters) := by
  simp [ask, h]

/-- A check that has a URI counts, even if it is never answered. -/
theorem Settings.run_ask_of_checkUri_eq_ok {uri : Uri} (h : s.checkUri = .ok uri) :
    (s.ask limits control).run counters =
      (⟨some (Check.request uri), (limits.judge (control (Check.request uri))).map fun result =>
        result.map (Action.ofVerdict · s.redirect)⟩, counters.addCheck) := by
  simp [ask, h]

end

theorem Settings.inquire_of_checkUri_eq_error {fault : Fault} (h : s.checkUri = .error fault)
    (limits : CheckLimits) (control : Request → Exchange) :
    s.inquire limits control = ⟨none, some (.error fault)⟩ := by
  rw [inquire, Counted.result, run_ask_of_checkUri_eq_error limits control .zero h]

theorem Settings.inquire_of_checkUri_eq_ok {uri : Uri} (h : s.checkUri = .ok uri)
    (limits : CheckLimits) (control : Request → Exchange) :
    (s.inquire limits control).sent = some (Check.request uri) ∧
      ∀ fault, (s.inquire limits control).result = some (.error fault) →
        fault.code ≠ .gateConfigError := by
  rw [inquire, Counted.result, run_ask_of_checkUri_eq_ok limits control .zero h]
  refine ⟨rfl, ?_⟩
  intro fault hresult
  obtain ⟨verdict, hjudge, hverdict⟩ := Option.map_eq_some_iff.mp hresult
  cases verdict with
  | error cause =>
      cases hverdict
      exact CheckLimits.code_ne_of_judge hjudge
  | ok verdict => cases hverdict

theorem Dispatched.inquire_of_settings {d : Dispatched} (h : d.settings = .ok s) (limits : Limits)
    (network : Network) : d.inquire limits network = s.inquire limits.check network.control := by
  simp only [inquire, ask, h]
  rfl

end Gatekeeper
