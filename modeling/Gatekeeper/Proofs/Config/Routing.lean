import Gatekeeper.Proofs.Config.Accepted
import Gatekeeper.Proofs.Text.LowerCase

/-!
# Routing by accepted configurations

No two hosts of an accepted configuration have the same lower-case form, so the table has a route
for each of them. A look-up finds the route of the one host that has the given lower-case form, or
else the route for all other hosts.
-/

namespace Gatekeeper

/-- All names of the route's own templates and of those that it inherits; where both have a name,
the template is the route's own. -/
def Templates.Merges (t own inherited : Templates) : Prop :=
  ∀ name, t.get? name = (own.get? name).or (inherited.get? name)

namespace Config

variable {c : Config} {key other : Text}

theorem clashes_cons_eq_nil_iff {seen : List (Text × Text)} {host : Text} {rest : List Text} :
    clashes seen (host :: rest) = [] ↔
      Text.lower host ∉ seen.map Prod.fst ∧
        clashes ((Text.lower host, host) :: seen) rest = [] := by
  have hfind : seen.find? (·.1 = Text.lower host) = none ↔
      Text.lower host ∉ seen.map Prod.fst := by
    simp only [List.find?_eq_none, decide_eq_true_eq, List.mem_map, not_exists, not_and]
  rw [← hfind]
  simp only [clashes]
  cases seen.find? (·.1 = Text.lower host) with
  | none => simp
  | some earlier => simp

theorem clashes_eq_nil_iff {seen : List (Text × Text)} {hosts : List Text} :
    clashes seen hosts = [] ↔
      (∀ host ∈ hosts, Text.lower host ∉ seen.map Prod.fst) ∧ (hosts.map Text.lower).Nodup := by
  induction hosts generalizing seen with
  | nil => simp [clashes]
  | cons host rest ih =>
      rw [clashes_cons_eq_nil_iff, ih, List.forall_mem_cons, List.map_cons, List.map_cons,
        List.nodup_cons]
      constructor
      · rintro ⟨hhost, hrest, hnodup⟩
        refine ⟨⟨hhost, ?_⟩, ?_, hnodup⟩
        · exact fun later hlater => (not_or.mp (mt List.mem_cons.mpr (hrest later hlater))).2
        · intro hmem
          obtain ⟨later, hlater, hlower⟩ := List.mem_map.mp hmem
          exact hrest later hlater (hlower ▸ List.mem_cons_self)
      · rintro ⟨⟨hhost, hrest⟩, hnew, hnodup⟩
        refine ⟨hhost, ?_, hnodup⟩
        intro later hlater hmem
        rcases List.mem_cons.mp hmem with hlower | hseen
        · exact hnew (List.mem_map.mpr ⟨later, hlater, hlower⟩)
        · exact hrest later hlater hseen

theorem IsValid.nodup_lower_keys (h : c.IsValid) : (c.routes.keys.map Text.lower).Nodup :=
  (clashes_eq_nil_iff.mp (isValid_iff.mp h).2.2.1).2

theorem clashes_keys_eq_nil_iff : clashes [] c.routes.keys = [] ↔
    ∀ host ∈ c.routes.keys, ∀ other ∈ c.routes.keys,
      Text.lower host = Text.lower other → host = other := by
  simp only [clashes_eq_nil_iff, List.map_nil, List.not_mem_nil, not_false_eq_true,
    implies_true, true_and]
  constructor
  · exact fun hnodup host hhost other hother =>
      List.inj_on_of_nodup_map hnodup hhost hother
  · exact fun hinj => c.routes.nodup_keys.map_on hinj

theorem IsValid.eq_of_lower_eq (h : c.IsValid) (hkey : key ∈ c.routes.keys)
    (hother : other ∈ c.routes.keys) (hlower : Text.lower key = Text.lower other) : key = other :=
  clashes_keys_eq_nil_iff.mp (isValid_iff.mp h).2.2.1 key hkey other hother hlower

@[simp] theorem keys_templates (c : Config) : c.templates.keys = c.routes.keys := by
  simp [templates]

@[simp] theorem templatesOf?_eq (c : Config) (key : Text) :
    c.templatesOf? key = (c.routes.get? key).map c.defaults.override := by
  simp [templatesOf?, templates]

theorem override_merges (c : Config) (own : Templates) :
    Templates.Merges (c.defaults.override own) own c.defaults :=
  Dict.get?_override c.defaults own

end Config

namespace Table

variable {c : Config} {host : Text} {route : Route}

/-- The table of a configuration, with its routes put in one after the other. -/
def ofHosts (c : Config) (hosts : List Text) : Table :=
  ofRoutes (hosts.filterMap fun host =>
    (c.templatesOf? host).map fun templates => ⟨Text.lower host, templates⟩) c.backends c.controlUrl

section

variable {routes others : List Route} {backends : Dict Text} {url : Text}

theorem nodup_entries (hnodup : (routes.map Route.host).Nodup) :
    ((routes.map fun route => (route.host, route)).map Prod.fst).Nodup := by
  rw [List.map_map]
  exact hnodup

theorem ofRoutes_eq_of_perm (h : routes.Perm others) (hnodup : (routes.map Route.host).Nodup) :
    ofRoutes routes backends url = ofRoutes others backends url := by
  simp only [ofRoutes, Dict.ofList_eq_of_perm (h.map _) (nodup_entries hnodup)]

theorem route?_ofRoutes_eq_some_iff (hnodup : (routes.map Route.host).Nodup) :
    (ofRoutes routes backends url).route? host = some route ↔
      route ∈ routes ∧ route.host = host := by
  refine ⟨mem_of_route?_ofRoutes, ?_⟩
  rintro ⟨hmem, rfl⟩
  exact (Dict.get?_ofList_eq_some_iff (nodup_entries hnodup)).mpr (List.mem_map_of_mem hmem)

theorem size_ofRoutes (hnodup : (routes.map Route.host).Nodup) :
    (ofRoutes routes backends url).size = routes.length := by
  rw [size, ofRoutes, Dict.size_ofList (nodup_entries hnodup), List.length_map]

end

theorem filterMap_keys (c : Config) :
    (c.routes.keys.filterMap fun host =>
      (c.templatesOf? host).map fun templates => (⟨Text.lower host, templates⟩ : Route)) =
      routesOf c := by
  rw [routesOf, ← Config.keys_templates, ← Dict.filterMap_get?_keys c.templates,
    List.map_filterMap]
  simp only [Option.map_map]
  rfl

theorem nodup_hosts_routesOf (hvalid : c.IsValid) : ((routesOf c).map Route.host).Nodup := by
  have hnodup := hvalid.nodup_lower_keys
  rw [← Config.keys_templates, Dict.keys, List.map_map] at hnodup
  rw [routesOf, List.map_map]
  exact hnodup

theorem ofHosts_eq_of_perm (hvalid : c.IsValid) {hosts : List Text}
    (h : hosts.Perm c.routes.keys) : ofHosts c hosts = ofConfig c := by
  have hperm := h.filterMap fun host =>
    (c.templatesOf? host).map fun templates => (⟨Text.lower host, templates⟩ : Route)
  rw [filterMap_keys] at hperm
  exact (ofRoutes_eq_of_perm hperm.symm (nodup_hosts_routesOf hvalid)).symm

theorem size_ofConfig (hvalid : c.IsValid) : (ofConfig c).size = c.routes.size := by
  have hsize : c.templates.size = c.routes.size := by
    simp [Config.templates]
  rw [ofConfig, size_ofRoutes (nodup_hosts_routesOf hvalid), routesOf, List.length_map, ← hsize,
    Dict.size]

theorem route?_ofConfig_eq_some_iff (hvalid : c.IsValid) :
    (ofConfig c).route? host = some route ↔
      ∃ key own, c.routes.get? key = some own ∧ Text.lower key = host ∧
        route = ⟨host, c.defaults.override own⟩ := by
  rw [ofConfig, route?_ofRoutes_eq_some_iff (nodup_hosts_routesOf hvalid), routesOf, List.mem_map]
  constructor
  · rintro ⟨⟨⟨key, templates⟩, hmem, rfl⟩, rfl⟩
    have htemplates := (c.templatesOf?_eq key).symm.trans (Dict.get?_eq_some_iff.mpr hmem)
    obtain ⟨own, hown, rfl⟩ := Option.map_eq_some_iff.mp htemplates
    exact ⟨key, own, hown, rfl, rfl⟩
  · rintro ⟨key, own, hown, rfl, rfl⟩
    have htemplates : c.templatesOf? key = some (c.defaults.override own) := by
      simp [hown]
    exact ⟨⟨(key, _), Dict.get?_eq_some_iff.mp htemplates, rfl⟩, rfl⟩

theorem lookup_of_route? {t : Table} (h : t.route? host = some route) :
    t.lookup host = some route := by
  rw [lookup, h, Option.some_or]

theorem lower_eq_catchAll_iff {key : Text} : Text.lower key = catchAll ↔ key = catchAll :=
  Text.lower_eq_singleton_iff (by decide)

theorem lookup_of_forall_lower_ne (hvalid : c.IsValid)
    (h : ∀ key ∈ c.routes.keys, Text.lower key ≠ host) :
    (ofConfig c).lookup host = (c.routes.get? catchAll).map fun own =>
      ⟨catchAll, c.defaults.override own⟩ := by
  have hnone : (ofConfig c).route? host = none := by
    refine Option.eq_none_iff_forall_ne_some.mpr fun route hroute => ?_
    obtain ⟨key, own, hown, hlower, -⟩ := (route?_ofConfig_eq_some_iff hvalid).mp hroute
    exact h key (Dict.mem_keys_iff.mpr ⟨own, hown⟩) hlower
  rw [lookup, hnone, Option.none_or]
  refine Option.ext fun route => ?_
  rw [route?_ofConfig_eq_some_iff hvalid, Option.map_eq_some_iff]
  constructor
  · rintro ⟨key, own, hown, hlower, rfl⟩
    rw [lower_eq_catchAll_iff.mp hlower] at hown
    exact ⟨own, hown, rfl⟩
  · rintro ⟨own, hown, rfl⟩
    exact ⟨catchAll, own, hown, lower_eq_catchAll_iff.mpr rfl, rfl⟩

end Table

/-- The table of an accepted configuration has as many routes as the configuration has hosts, and
it is the same in whatever order they are put in. A look-up finds the route of the only host with
the given lower-case form, if there is one. Otherwise it finds the route for all other hosts, if
that is configured, and else nothing. -/
theorem routing_of_accepted {c : Config} (hvalid : c.IsValid) :
    (Table.ofConfig c).size = c.routes.size ∧
      (∀ hosts : List Text, hosts.Perm c.routes.keys →
        Table.ofHosts c hosts = Table.ofConfig c) ∧
      ∀ host,
        (∀ key own, c.routes.get? key = some own → Text.lower key = host →
          (∀ other ∈ c.routes.keys, Text.lower other = host → other = key) ∧
            ∃ route, (Table.ofConfig c).lookup host = some route ∧ route.host = host ∧
              route.templates.Merges own c.defaults) ∧
        ((∀ key ∈ c.routes.keys, Text.lower key ≠ host) →
          (∀ own, c.routes.get? Table.catchAll = some own →
            ∃ route, (Table.ofConfig c).lookup host = some route ∧ route.host = Table.catchAll ∧
              route.templates.Merges own c.defaults) ∧
          (c.routes.get? Table.catchAll = none → (Table.ofConfig c).lookup host = none)) := by
  refine ⟨Table.size_ofConfig hvalid, fun hosts => Table.ofHosts_eq_of_perm hvalid, ?_⟩
  intro host
  refine ⟨?_, ?_⟩
  · rintro key own hown rfl
    have hkey : key ∈ c.routes.keys := Dict.mem_keys_iff.mpr ⟨own, hown⟩
    refine ⟨fun other hother hlower => hvalid.eq_of_lower_eq hother hkey hlower, ?_⟩
    have hroute := (Table.route?_ofConfig_eq_some_iff hvalid).mpr ⟨key, own, hown, rfl, rfl⟩
    exact ⟨_, Table.lookup_of_route? hroute, rfl, c.override_merges own⟩
  · intro hnew
    rw [Table.lookup_of_forall_lower_ne hvalid hnew]
    refine ⟨?_, ?_⟩
    · intro own hown
      rw [hown]
      exact ⟨_, rfl, rfl, c.override_merges own⟩
    · intro hnone
      rw [hnone]
      rfl

/-- A host with capital letters beyond ASCII, and a route for all other hosts; both inherit a
theme, which the second one replaces. -/
def Config.withCatchAll : Config :=
  { standard with
    backends := Dict.ofList [("app".toList, "10.0.0.1:80".toList)]
    defaults := Dict.ofList [(Setting.theme.key, "ghost".toList)]
    routes := Dict.ofList [
      ("ÀPP.Local".toList, Dict.ofList [(Setting.names.key, "app".toList),
        (Setting.redirect.key, "@app".toList)]),
      (Table.catchAll, Dict.ofList [(Setting.group.key, "web".toList),
        (Setting.redirect.key, "@app".toList), (Setting.theme.key, "matrix".toList)])] }

theorem capital_host_is_found_and_others_are_caught :
    (∃ route, (Table.ofConfig .withCatchAll).lookup "àpp.local".toList = some route ∧
      route.host = "àpp.local".toList ∧
      route.templates.of? .theme = some "ghost".toList) ∧
      ∃ route, (Table.ofConfig .withCatchAll).lookup "ÀPP.Local".toList = some route ∧
        route.host = Table.catchAll ∧ route.templates.of? .theme = some "matrix".toList := by
  have hvalid : Config.withCatchAll.IsValid := by
    decide +kernel
  obtain ⟨-, -, hlookup⟩ := routing_of_accepted hvalid
  obtain ⟨own, hown, htheme⟩ : ∃ own,
      Config.withCatchAll.routes.get? "ÀPP.Local".toList = some own ∧
        own.get? Setting.theme.key = none := by
    refine ⟨_, rfl, ?_⟩
    decide +kernel
  obtain ⟨all, hall, hothers⟩ : ∃ all,
      Config.withCatchAll.routes.get? Table.catchAll = some all ∧
        all.get? Setting.theme.key = some "matrix".toList := by
    refine ⟨_, rfl, ?_⟩
    decide +kernel
  refine ⟨?_, ?_⟩
  · obtain ⟨-, route, hroute, hhost, hmerges⟩ :=
      (hlookup "àpp.local".toList).1 _ own hown (by decide +kernel)
    refine ⟨route, hroute, hhost, ?_⟩
    rw [Templates.of?, hmerges, htheme, Option.none_or]
    decide +kernel
  · obtain ⟨route, hroute, hhost, hmerges⟩ :=
      ((hlookup "ÀPP.Local".toList).2 (by decide +kernel)).1 all hall
    refine ⟨route, hroute, hhost, ?_⟩
    rw [Templates.of?, hmerges, hothers, Option.some_or]

end Gatekeeper
