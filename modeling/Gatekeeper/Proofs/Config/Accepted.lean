import Gatekeeper.Proofs.Dict
import Gatekeeper.Table

namespace Gatekeeper

namespace Templates

theorem fault?_eq_none_iff {backends : Dict Text} {t : Templates} :
    t.fault? backends = none ↔
      t.urlFault? = none ∧ t.redirectFault? backends = none ∧ t.targetFault? = none := by
  rw [fault?, Option.or_eq_none_iff, Option.or_eq_none_iff]

end Templates

namespace Config

variable {c : Config}

theorem isValid_iff :
    c.IsValid ↔ c.controlFaults = [] ∧ c.backendFaults = [] ∧ clashes [] c.routes.keys = [] ∧
      c.routeFaults = [] := by
  rw [IsValid, faults, List.append_eq_nil_iff, List.append_eq_nil_iff, List.append_eq_nil_iff,
    and_assoc, and_assoc]

theorem validate_eq_ok_iff {accepted : Config} :
    c.validate = .ok accepted ↔ c.IsValid ∧ c = accepted := by
  simp only [validate, IsValid, List.isEmpty_iff]
  split
  · rename_i h
    simp [h]
  · rename_i h
    simp [h]

theorem controlFaults_eq_nil_iff :
    c.controlFaults = [] ↔ Uri.isPlainHttpText c.controlUrl = true := by
  rw [controlFaults]
  split <;> simp_all

theorem backendFaults_eq_nil_iff : c.backendFaults = [] ↔
    ∀ name address, c.backends.get? name = some address →
      ∃ authority, Authority.parse address = .ok authority := by
  rw [backendFaults, List.filterMap_eq_nil_iff, Prod.forall]
  simp only [Dict.get?_eq_some_iff]
  refine forall₂_congr fun name address => imp_congr_right fun _ => ?_
  cases Authority.parse address with
  | ok authority => simp
  | error cause => simp

theorem IsValid.isPlainHttpText_controlUrl (h : c.IsValid) :
    Uri.isPlainHttpText c.controlUrl = true :=
  controlFaults_eq_nil_iff.mp (isValid_iff.mp h).1

theorem IsValid.parse_address (h : c.IsValid) {name address : Text}
    (haddress : c.backends.get? name = some address) :
    ∃ authority, Authority.parse address = .ok authority :=
  backendFaults_eq_nil_iff.mp (isValid_iff.mp h).2.1 name address haddress

theorem IsValid.fault?_eq_none (h : c.IsValid) {host : Text} {t : Templates}
    (ht : c.templatesOf? host = some t) : t.fault? c.backends = none := by
  have hroutes := List.filterMap_eq_nil_iff.mp (isValid_iff.mp h).2.2.2
  exact Option.map_eq_none_iff.mp (hroutes (host, t) (Dict.get?_eq_some_iff.mp ht))

end Config

namespace Table

variable {c : Config}

theorem mem_of_route?_ofRoutes {routes : List Route} {backends : Dict Text} {url host : Text}
    {route : Route} (h : (ofRoutes routes backends url).route? host = some route) :
    route ∈ routes ∧ route.host = host := by
  obtain ⟨_, hmem, hentry⟩ := List.mem_map.mp (Dict.mem_of_get?_ofList h)
  cases hentry
  exact ⟨hmem, rfl⟩

theorem templatesOf?_of_route? {host : Text} {route : Route}
    (h : (ofConfig c).route? host = some route) :
    ∃ key, c.templatesOf? key = some route.templates ∧ Text.lower key = route.host := by
  obtain ⟨hroute, -⟩ := mem_of_route?_ofRoutes h
  obtain ⟨⟨key, templates⟩, hmem, rfl⟩ := List.mem_map.mp hroute
  exact ⟨key, Dict.get?_eq_some_iff.mpr hmem, rfl⟩

theorem templatesOf?_of_lookup {host : Text} {route : Route}
    (h : (ofConfig c).lookup host = some route) :
    ∃ key, c.templatesOf? key = some route.templates ∧ Text.lower key = route.host := by
  rcases Option.or_eq_some_iff.mp h with hown | ⟨-, hcatchAll⟩
  · exact templatesOf?_of_route? hown
  · exact templatesOf?_of_route? hcatchAll

theorem fault?_eq_none_of_lookup (hvalid : c.IsValid) {host : Text} {route : Route}
    (h : (ofConfig c).lookup host = some route) : route.templates.fault? c.backends = none := by
  obtain ⟨key, hkey, -⟩ := templatesOf?_of_lookup h
  exact hvalid.fault?_eq_none hkey

end Table

/-- The configuration with one route. -/
def Config.single (host : Text) (settings : List (Setting × Text)) (backends : List (Text × Text)) :
    Config :=
  { standard with
    backends := Dict.ofList backends
    routes := Dict.ofList [(host, Dict.ofList (settings.map fun e => (e.1.key, e.2)))] }

def Config.toBackend (name address : Text) : Config :=
  single "app.local".toList [(.names, name), (.redirect, '@' :: name)] [(name, address)]

end Gatekeeper
