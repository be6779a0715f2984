import Gatekeeper.Check
import Gatekeeper.Proofs.Proxy.Dispatch
import Gatekeeper.Proofs.Template.Constant

namespace Gatekeeper

/-- What becomes of the text that a scope gives for a setting: an absent or empty URL is replaced
by the given one, and some of the other settings are empty when they are absent. -/
def Setting.read (defaultUrl : Text) (setting : Setting) (given : Option Text) : Option Text :=
  match setting with
  | .url => some ((given.filter (!·.isEmpty)).getD defaultUrl)
  | .names | .group | .redirect | .blockingTimeout => given
  | .sessionDuration | .displayName | .showDetails | .theme | .refreshFrequency =>
    some (given.getD [])

namespace Settings

variable {scope : Setting → Option Text} {defaultUrl : Text} {s : Settings}

/-- The value of a setting. -/
def value (s : Settings) : Setting → Option Text
  | .url => some s.controlUrl
  | .names => s.names
  | .group => s.group
  | .sessionDuration => some s.sessionDuration
  | .redirect => some s.redirect
  | .displayName => some s.displayName
  | .showDetails => some s.showDetails
  | .theme => some s.theme
  | .refreshFrequency => some s.refreshFrequency
  | .blockingTimeout => s.blockingTimeout

theorem value_of_ofScope (h : ofScope scope defaultUrl = .ok s) (setting : Setting) :
    s.value setting = setting.read defaultUrl (scope setting) := by
  obtain ⟨redirect, hredirect, -, rfl⟩ := ofScope_eq_ok_iff.mp h
  cases setting with
  | redirect => exact hredirect.symm
  | _ => rfl

end Settings

namespace Table

variable {t : Table} {r : Request} {freshId : Text} {client : IpAddress} {d : Dispatched}

/-- A request has a part in its settings only through the values that templates refer to. -/
theorem settings_of_dispatch (hd : t.dispatch r freshId client = .ok d) :
    d.settings = Settings.ofScope (d.route.scope (RequestValues.capture r client false))
      t.controlUrl := by
  obtain ⟨host, route, -, -, rfl⟩ := dispatch_eq_ok_iff.mp hd
  rfl

theorem value_of_isConstant (hd : t.dispatch r freshId client = .ok d) {s : Settings}
    (hs : d.settings = .ok s) {setting : Setting}
    (hconstant : d.route.templates.IsConstant setting) :
    s.value setting = setting.read t.controlUrl (d.route.templates.of? setting) := by
  rw [settings_of_dispatch hd] at hs
  rw [Settings.value_of_ofScope hs setting, Route.scope_of_isConstant hconstant]

theorem settings_of_isConstant (hd : t.dispatch r freshId client = .ok d)
    (hconstant : ∀ setting, d.route.templates.IsConstant setting) :
    d.settings = Settings.ofScope d.route.templates.of? t.controlUrl := by
  have hscope : d.route.scope (RequestValues.capture r client false) = d.route.templates.of? :=
    funext fun setting => Route.scope_of_isConstant (hconstant setting) _
  rw [settings_of_dispatch hd, hscope]

end Table

/-- Two requests that are dispatched to one route have the same settings wherever the template does
not refer to the request, and these are the templates as they stand. Where none does, both read the
same settings or have the same fault, ask the same of the control service and go to the same
redirect. -/
theorem requests_influence_only_dynamic_settings {t : Table} {r₁ r₂ : Request}
    {freshId₁ freshId₂ : Text} {client₁ client₂ : IpAddress} {d₁ d₂ : Dispatched}
    (hd₁ : t.dispatch r₁ freshId₁ client₁ = .ok d₁)
    (hd₂ : t.dispatch r₂ freshId₂ client₂ = .ok d₂) (hroute : d₁.route = d₂.route) :
    (∀ s₁ s₂, d₁.settings = .ok s₁ → d₂.settings = .ok s₂ →
      ∀ setting, d₁.route.templates.IsConstant setting →
        s₁.value setting = s₂.value setting ∧
          s₁.value setting = setting.read t.controlUrl (d₁.route.templates.of? setting)) ∧
      ((∀ setting, d₁.route.templates.IsConstant setting) →
        d₁.settings = d₂.settings ∧ ∀ s₁ s₂, d₁.settings = .ok s₁ → d₂.settings = .ok s₂ →
          Check.ofSettings s₁ = Check.ofSettings s₂ ∧ s₁.redirect = s₂.redirect) := by
  refine ⟨?_, ?_⟩
  · intro s₁ s₂ hs₁ hs₂ setting hconstant
    have hfirst := Table.value_of_isConstant hd₁ hs₁ hconstant
    have hsecond := Table.value_of_isConstant hd₂ hs₂ (hroute ▸ hconstant)
    refine ⟨?_, hfirst⟩
    rw [hfirst, hsecond, hroute]
  · intro hconstant
    have hsettings : d₁.settings = d₂.settings := by
      rw [Table.settings_of_isConstant hd₁ hconstant,
        Table.settings_of_isConstant hd₂ (hroute ▸ hconstant), hroute]
    refine ⟨hsettings, ?_⟩
    intro s₁ s₂ hs₁ hs₂
    have hsame : s₁ = s₂ := Except.ok.inj (hs₁.symm.trans (hsettings.trans hs₂))
    exact ⟨congrArg Check.ofSettings hsame, congrArg Settings.redirect hsame⟩

/-- One route for all hosts, with a template for the names of the backends. -/
def Config.ofCatchAllNames (names : Text) : Config :=
  { standard with
    backends := Dict.ofList [("app".toList, "10.0.0.1:80".toList)]
    routes := Dict.ofList [(Table.catchAll, Dict.ofList
      [(Setting.names.key, names), (Setting.redirect.key, "@app".toList)])] }

theorem host_changes_only_names :
    let dispatch (names host : Text) := (Table.ofConfig (.ofCatchAllNames names)).dispatch
      (.ofHost host) [] (.v4 [127, 0, 0, 1])
    (∃ d₁ d₂ s₁ s₂, dispatch "$host".toList "a.local".toList = .ok d₁ ∧
      dispatch "$host".toList "b.local".toList = .ok d₂ ∧
      d₁.settings = .ok s₁ ∧ d₂.settings = .ok s₂ ∧ s₁.names ≠ s₂.names ∧
      s₁.redirect = s₂.redirect) ∧
      ∃ d₁ d₂, dispatch "app".toList "a.local".toList = .ok d₁ ∧
        dispatch "app".toList "b.local".toList = .ok d₂ ∧ d₁.settings = d₂.settings := by
  intro dispatch
  have hdispatch : ∀ names ∈ ["$host".toList, "app".toList],
      ∀ host ∈ ["a.local".toList, "b.local".toList],
        ∃ d, dispatch names host = .ok d ∧
          d.route = ⟨Table.catchAll, Dict.ofList
            [(Setting.names.key, names), (Setting.redirect.key, "@app".toList)]⟩ ∧
          ∃ s, d.settings = .ok s ∧
            s.names = some (if names = "app".toList then names else host) := by
    decide +kernel
  refine ⟨?_, ?_⟩
  · obtain ⟨d₁, hd₁, hroute₁, s₁, hs₁, hnames₁⟩ :=
      hdispatch "$host".toList (by decide) "a.local".toList (by decide)
    obtain ⟨d₂, hd₂, hroute₂, s₂, hs₂, hnames₂⟩ :=
      hdispatch "$host".toList (by decide) "b.local".toList (by decide)
    refine ⟨d₁, d₂, s₁, s₂, hd₁, hd₂, hs₁, hs₂, ?_, ?_⟩
    · rw [hnames₁, hnames₂]
      decide
    · obtain ⟨hsame, -⟩ := requests_influence_only_dynamic_settings hd₁ hd₂
        (hroute₁.trans hroute₂.symm)
      refine Option.some.inj (hsame s₁ s₂ hs₁ hs₂ .redirect ?_).1
      rw [hroute₁]
      decide
  · obtain ⟨d₁, hd₁, hroute₁, -⟩ :=
      hdispatch "app".toList (by decide) "a.local".toList (by decide)
    obtain ⟨d₂, hd₂, hroute₂, -⟩ :=
      hdispatch "app".toList (by decide) "b.local".toList (by decide)
    obtain ⟨-, hsame⟩ := requests_influence_only_dynamic_settings hd₁ hd₂
      (hroute₁.trans hroute₂.symm)
    refine ⟨d₁, d₂, hd₁, hd₂, (hsame fun setting => ?_).1⟩
    rw [hroute₁]
    cases setting <;> decide

end Gatekeeper
