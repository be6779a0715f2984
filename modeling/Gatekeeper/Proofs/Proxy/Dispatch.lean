import Gatekeeper.Proofs.Config.Accepted
import Gatekeeper.Proofs.Except
import Gatekeeper.Proxy.Dispatch

namespace Gatekeeper

theorem Settings.ofScope_eq_ok_iff {scope : Setting → Option Text} {defaultUrl : Text}
    {s : Settings} :
    ofScope scope defaultUrl = .ok s ↔
      ∃ redirect, scope .redirect = some redirect ∧ Text.isBlank redirect = false ∧ s = {
        controlUrl := ((scope .url).filter (!·.isEmpty)).getD defaultUrl
        names := scope .names
        group := scope .group
        sessionDuration := (scope .sessionDuration).getD []
        redirect := redirect
        displayName := (scope .displayName).getD []
        theme := (scope .theme).getD []
        refreshFrequency := (scope .refreshFrequency).getD []
        showDetails := (scope .showDetails).getD []
        blockingTimeout := scope .blockingTimeout } := by
  constructor
  · intro h
    rw [ofScope] at h
    split at h
    · cases h
    · rename_i redirect hredirect
      cases h
      obtain ⟨hscope, hblank⟩ := Option.filter_eq_some_iff.mp hredirect
      exact ⟨redirect, hscope, by simpa using hblank, rfl⟩
  · rintro ⟨redirect, hscope, hblank, rfl⟩
    simp [ofScope, hscope, hblank, Option.filter]

theorem Table.dispatch_eq_ok_iff {t : Table} {r : Request} {freshId : Text} {client : IpAddress}
    {d : Dispatched} :
    t.dispatch r freshId client = .ok d ↔
      ∃ host route, r.hostname? = some host ∧ t.lookup host = some route ∧ d = {
        route
        request := r.marked freshId client
        settings := Settings.ofScope (route.scope (RequestValues.capture r client false))
          t.controlUrl } := by
  constructor
  · intro h
    rw [dispatch] at h
    split at h
    · cases h
    · rename_i host hhost
      split at h
      · cases h
      · rename_i route hroute
        cases h
        exact ⟨host, route, hhost, hroute, rfl⟩
  · rintro ⟨host, route, hhost, hroute, rfl⟩
    simp [dispatch, hhost, hroute]

theorem Table.fault?_eq_none_of_dispatch {c : Config} (hvalid : c.IsValid) {r : Request}
    {freshId : Text} {client : IpAddress} {d : Dispatched}
    (hd : (ofConfig c).dispatch r freshId client = .ok d) :
    d.route.templates.fault? c.backends = none := by
  obtain ⟨host, route, -, hroute, rfl⟩ := dispatch_eq_ok_iff.mp hd
  exact fault?_eq_none_of_lookup hvalid hroute

/-- A request for the root of a host. -/
def Request.ofHost (host : Text) : Request :=
  ⟨"GET".toList, ⟨none, none, ['/'], none⟩, [("host".toList, .ofText host)], ByteArray.empty⟩

end Gatekeeper
