import Gatekeeper.Proofs.Config.Routing
import Gatekeeper.Proofs.Proxy.Dispatch
import Gatekeeper.Proofs.Proxy.Hostname

/-!
# Routes that requests reach

A request for the host of a route reaches the route if the host is a hostname. The rules also let
hosts pass that are none, and no request reaches their routes by naming them.
-/

namespace Gatekeeper

namespace Table

variable {t : Table} {c : Config} {r : Request} {freshId : Text} {client : IpAddress}
  {d : Dispatched} {key host : Text} {own : Templates}

theorem host_of_lookup {route : Route} (h : t.lookup host = some route) :
    route.host = host ∨ route.host = catchAll := by
  rw [lookup, Option.or_eq_some_iff] at h
  rcases h with hroute | ⟨-, hroute⟩
  · exact Or.inl (t.host_eq hroute)
  · exact Or.inr (t.host_eq hroute)

theorem exists_dispatch_of_isHostname (hvalid : c.IsValid) (hown : c.routes.get? key = some own)
    (hkey : Request.IsHostname key) {others : List HeaderValue}
    (hhost : Headers.values r.headers "host".toList = .ofText key :: others) (freshId : Text)
    (client : IpAddress) :
    ∃ d, (ofConfig c).dispatch r freshId client = .ok d ∧
      d.route = ⟨Text.lower key, c.defaults.override own⟩ := by
  have hroute := (route?_ofConfig_eq_some_iff hvalid).mpr ⟨key, own, hown, rfl, rfl⟩
  refine ⟨_, dispatch_eq_ok_iff.mpr ⟨Text.lower key, _, ?_, lookup_of_route? hroute, rfl⟩, rfl⟩
  exact Request.hostname?_of_isHostname hkey hhost

theorem host_ne_of_hostText? (htext : r.hostText? = some key) (hcatchAll : key ≠ catchAll)
    (hkey : ¬Request.IsHostname key) (hd : t.dispatch r freshId client = .ok d) :
    d.route.host ≠ Text.lower key := by
  obtain ⟨host, route, hhost, hroute, rfl⟩ := dispatch_eq_ok_iff.mp hd
  obtain ⟨hname, rfl⟩ := (Request.hostname?_of_hostText? htext).mp hhost
  have hcolon : ':' ∈ key := by
    refine Decidable.byContradiction fun hcolon => hkey ?_
    rwa [Request.hostWithoutPort_of_not_mem hcolon] at hname
  intro heq
  rcases host_of_lookup hroute with hown | hall
  · have hmem : ':' ∈ Text.lower (hostWithoutPort key) := by
      rw [← hown, heq]
      exact (Text.mem_lower_iff (by decide)).mpr hcolon
    exact hname.colon_not_mem ((Text.mem_lower_iff (by decide)).mp hmem)
  · exact hcatchAll (lower_eq_catchAll_iff.mp (heq.symm.trans hall))

end Table

/-- In an accepted configuration a request whose only Host field has the host of a route as its
value reaches the route if the host is a hostname, and does not reach it otherwise. Only where the
value cannot be read, a URI may name the host in its place. -/
theorem route_is_reached_by_hostname {c : Config} (hvalid : c.IsValid) {key : Text}
    {own : Templates} (hown : c.routes.get? key = some own) (hcatchAll : key ≠ Table.catchAll)
    {value : HeaderValue} (hvalue : HeaderValue.ofText? key = some value) {r : Request}
    (hhost : Headers.values r.headers "host".toList = [value]) (freshId : Text)
    (client : IpAddress) :
    (Request.IsHostname key → ∃ d, (Table.ofConfig c).dispatch r freshId client = .ok d ∧
      d.route.host = Text.lower key ∧ d.route.host ≠ Table.catchAll ∧
      d.route.templates.Merges own c.defaults) ∧
      (¬Request.IsHostname key → value.text?.isSome = true ∨ r.uri.host? = none →
        ∀ d, (Table.ofConfig c).dispatch r freshId client = .ok d →
          d.route.host ≠ Text.lower key) := by
  cases HeaderValue.eq_ofText_of_ofText? hvalue
  refine ⟨?_, ?_⟩
  · intro hkey
    obtain ⟨d, hd, hroute⟩ :=
      Table.exists_dispatch_of_isHostname hvalid hown hkey hhost freshId client
    refine ⟨d, hd, ?_⟩
    rw [hroute]
    refine ⟨rfl, ?_, c.override_merges own⟩
    exact fun hlower => hcatchAll (Table.lower_eq_catchAll_iff.mp hlower)
  · intro hkey hreadable d hd
    have htext := Request.hostText?_of_values hhost
    rw [HeaderValue.text?_ofText] at htext hreadable
    split at htext
    · exact Table.host_ne_of_hostText? htext hcatchAll hkey hd
    · rename_i hunreadable
      rw [if_neg hunreadable] at hreadable
      rw [hreadable.resolve_left (by simp)] at htext
      obtain ⟨host, -, hhost, -, -⟩ := Table.dispatch_eq_ok_iff.mp hd
      rw [Request.hostname?_of_hostText?_eq_none htext] at hhost
      cases hhost

/-- Routes to one backend for several hosts. -/
def Config.ofHosts (hosts : List Text) : Config :=
  { standard with
    backends := Dict.ofList [("app".toList, "10.0.0.1:80".toList)]
    routes := Dict.ofList (hosts.map fun host => (host, Dict.ofList
      [(Setting.names.key, "app".toList), (Setting.redirect.key, "@app".toList)])) }

theorem capital_hostname_reaches_its_route :
    ∃ d, (Table.ofConfig (.ofHosts ["App-1.Local".toList, Table.catchAll])).dispatch
        (.ofHost "App-1.Local".toList) [] (.v4 [127, 0, 0, 1]) = .ok d ∧
      d.route.host = "app-1.local".toList := by
  have hvalid : (Config.ofHosts ["App-1.Local".toList, Table.catchAll]).IsValid := by
    decide +kernel
  have hvalue : HeaderValue.ofText? "App-1.Local".toList = some (.ofText "App-1.Local".toList) := by
    decide +kernel
  have hhost : Headers.values (Request.ofHost "App-1.Local".toList).headers "host".toList =
      [.ofText "App-1.Local".toList] := by
    decide +kernel
  obtain ⟨hreached, -⟩ := route_is_reached_by_hostname hvalid rfl (by decide) hvalue hhost []
    (.v4 [127, 0, 0, 1])
  obtain ⟨d, hd, hlower, -⟩ := hreached (by decide)
  exact ⟨d, hd, hlower.trans (by decide +kernel)⟩

/-- The rules let a host with an underscore and one with a port pass. A request for the first is
refused, and one for the second goes to the route for all other hosts. -/
theorem hosts_with_underscore_or_port_are_not_reached :
    let c := Config.ofHosts
      ["my_app.local".toList, "app.local:8080".toList, Table.catchAll]
    c.IsValid ∧
      (∀ key ∈ ["my_app.local".toList, "app.local:8080".toList],
        (c.routes.get? key).isSome = true ∧ key ≠ Table.catchAll ∧
          HeaderValue.ofText? key = some (.ofText key) ∧
          Headers.values (Request.ofHost key).headers "host".toList = [.ofText key]) ∧
      (Table.ofConfig c).dispatch (.ofHost "my_app.local".toList) [] (.v4 [127, 0, 0, 1]) =
        .error ⟨.missingHostHeader, "Missing or invalid Host header".toList⟩ ∧
      ∃ d, (Table.ofConfig c).dispatch (.ofHost "app.local:8080".toList) []
          (.v4 [127, 0, 0, 1]) = .ok d ∧ d.route.host = Table.catchAll := by
  decide +kernel

end Gatekeeper
