import Gatekeeper.Proofs.Config.Accepted
import Gatekeeper.Proofs.Proxy.Check
import Gatekeeper.Proofs.Proxy.Dispatch
import Gatekeeper.Proofs.Template.Blank
import Gatekeeper.Proofs.Text.Pieces

namespace Gatekeeper

namespace Templates

variable {t : Templates}

/-- The selection that names or a group state, if exactly one of them does. -/
def selector? (t : Templates) : Option Selector :=
  match t.stated? .names, t.stated? .group with
  | some names, none => some (.names ((Text.pieces ',' names).map Text.trim))
  | none, some group => some (.group group)
  | _, _ => none

theorem exists_selector? (hnames : t.IsConstant .names) (hgroup : t.IsConstant .group)
    (h : t.targetFault? = none) : ∃ stated, t.selector? = some stated := by
  rw [targetFault?, declares_of_isConstant hnames, declares_of_isConstant hgroup,
    fixes_of_isConstant hnames, fixes_of_isConstant hgroup] at h
  rw [selector?]
  cases hn : t.stated? .names <;> cases hg : t.stated? .group <;> simp [hn, hg] at h ⊢

theorem selector?_ne_of_hasBlank_names (h : t.HasBlank .names) {stated : Selector}
    (hstated : t.selector? = some stated) : stated ≠ .names [[]] := by
  obtain ⟨names, hof, htrim, -⟩ := h
  have hnone : t.stated? .names = none := by
    rw [stated?_eq_none_iff]
    intro template htemplate
    cases hof.symm.trans htemplate
    exact htrim
  rw [selector?, hnone] at hstated
  split at hstated
  · contradiction
  · cases hstated
    exact Selector.noConfusion
  · cases hstated

end Templates

namespace Selector

variable {s : Settings}

variable {t : Templates} (hnames : s.names = t.of? .names) (hgroup : s.group = t.of? .group)

include hnames

theorem ofSettings_of_hasBlank_names (h : t.HasBlank .names) :
    ofSettings s = .ok (.names [[]]) := by
  obtain ⟨names, hof, htrim, hne⟩ := h
  have hcomma : ',' ∉ names := Text.not_mem_of_isBlank (Text.trim_eq_nil_iff.mp htrim) (by decide)
  rw [ofSettings_of_names (hnames.trans hof) hne, Text.pieces_of_not_mem hcomma,
    List.map_singleton, htrim]

include hgroup

theorem ofSettings_of_not_hasBlank_names (h : ¬t.HasBlank .names) {stated : Selector}
    (hstated : t.selector? = some stated) : ofSettings s = .ok stated := by
  rw [Templates.selector?] at hstated
  split at hstated
  · rename_i names hn _
    cases hstated
    exact ofSettings_of_names (hnames.trans (Templates.stated?_eq_some_iff.mp hn).1)
      (Templates.ne_nil_of_stated? hn)
  · rename_i group hn hg
    cases hstated
    refine ofSettings_of_group ?_ (hgroup.trans (Templates.stated?_eq_some_iff.mp hg).1)
      (Templates.ne_nil_of_stated? hg)
    intro names hsome
    have hof := hnames.symm.trans hsome
    have htrim := Templates.stated?_eq_none_iff.mp hn names hof
    exact Decidable.byContradiction fun hne => h ⟨names, hof, htrim, hne⟩
  · cases hstated

end Selector

/-- In an accepted configuration exactly one of the constant names and group of a route is not
blank. A check for a request of the route always has a target, and it is the one that is not blank
if and only if the names are not blank without being empty; otherwise it is the empty name. -/
theorem selection_is_stated_iff {c : Config} (hvalid : c.IsValid) {r : Request} {freshId : Text}
    {client : IpAddress} {d : Dispatched} {s : Settings}
    (hd : (Table.ofConfig c).dispatch r freshId client = .ok d) (hs : d.settings = .ok s)
    (hnames : d.route.templates.IsConstant .names)
    (hgroup : d.route.templates.IsConstant .group) :
    ∃ stated, d.route.templates.selector? = some stated ∧
      (Selector.ofSettings s = .ok stated ↔ ¬d.route.templates.HasBlank .names) ∧
      (d.route.templates.HasBlank .names → Selector.ofSettings s = .ok (.names [[]])) := by
  have hfault := Table.fault?_eq_none_of_dispatch hvalid hd
  obtain ⟨host, route, -, -, rfl⟩ := Table.dispatch_eq_ok_iff.mp hd
  obtain ⟨redirect, -, -, hsettings⟩ := Settings.ofScope_eq_ok_iff.mp hs
  obtain ⟨stated, hstated⟩ :=
    Templates.exists_selector? hnames hgroup (Templates.fault?_eq_none_iff.mp hfault).2.2
  have hsNames : s.names = route.templates.of? .names := by
    rw [hsettings]
    exact Route.scope_of_isConstant hnames _
  have hsGroup : s.group = route.templates.of? .group := by
    rw [hsettings]
    exact Route.scope_of_isConstant hgroup _
  refine ⟨stated, hstated, ⟨?_, ?_⟩, Selector.ofSettings_of_hasBlank_names hsNames⟩
  · intro hselected h
    rw [Selector.ofSettings_of_hasBlank_names hsNames h] at hselected
    exact Templates.selector?_ne_of_hasBlank_names h hstated (Except.ok.inj hselected).symm
  · intro h
    exact Selector.ofSettings_of_not_hasBlank_names hsNames hsGroup h hstated

def Config.ofNamesAndGroup (names group : Text) : Config :=
  single "app.local".toList
    [(.names, names), (.group, group), (.redirect, "@app".toList)]
    [("app".toList, "10.0.0.1:80".toList)]

theorem empty_names_select_group :
    ∃ d, (Table.ofConfig (.ofNamesAndGroup [] "web".toList)).dispatch
        (.ofHost "app.local".toList) [] (.v4 [127, 0, 0, 1]) = .ok d ∧
      ∃ s, d.settings = .ok s ∧ ¬d.route.templates.HasBlank .names ∧
        Selector.ofSettings s = .ok (.group "web".toList) := by
  obtain ⟨d, hd, s, hs, hnames, hgroup, hblank, hweb⟩ :
      ∃ d, (Table.ofConfig (.ofNamesAndGroup [] "web".toList)).dispatch
          (.ofHost "app.local".toList) [] (.v4 [127, 0, 0, 1]) = .ok d ∧
        ∃ s, d.settings = .ok s ∧ d.route.templates.IsConstant .names ∧
          d.route.templates.IsConstant .group ∧ ¬d.route.templates.HasBlank .names ∧
          d.route.templates.selector? = some (.group "web".toList) := by
    decide +kernel
  obtain ⟨stated, hstated, hselected, -⟩ :=
    selection_is_stated_iff (by decide +kernel) hd hs hnames hgroup
  refine ⟨d, hd, s, hs, hblank, ?_⟩
  cases hweb.symm.trans hstated
  exact hselected.mpr hblank

/-- A space in place of names hides the group from the selection, but not from the rules. -/
theorem blank_names_hide_group :
    (Config.ofNamesAndGroup [' '] "web".toList).IsValid ∧
      ∃ d, (Table.ofConfig (.ofNamesAndGroup [' '] "web".toList)).dispatch
          (.ofHost "app.local".toList) [] (.v4 [127, 0, 0, 1]) = .ok d ∧
        ∃ s, d.settings = .ok s ∧ d.route.templates.IsConstant .names ∧
          d.route.templates.IsConstant .group ∧
          d.route.templates.selector? = some (.group "web".toList) ∧
          Selector.ofSettings s = .ok (.names [[]]) := by
  decide +kernel

end Gatekeeper
