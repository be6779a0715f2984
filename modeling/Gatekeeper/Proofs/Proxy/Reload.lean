import Gatekeeper.Proofs.Proxy.FailClosed
import Gatekeeper.Proofs.Proxy.World
import Gatekeeper.Proofs.Table.Resolve

/-!
# Reloads under way

A request reads its route from one table and has its redirect resolved by another, if the table is
replaced while the request waits for its check. For an address that makes no difference. The name
of a backend means what the later table says.
-/

namespace Gatekeeper

namespace World

variable {limits : Limits} {w : World} {i : Nat} {peers : Peers}

theorem flights_of_stage? {s : Stage} (h : w.stage? i = some s) :
    ∃ checks forwards, w.flights[i]? = some ⟨s, checks, forwards⟩ := by
  obtain ⟨⟨s', checks, forwards⟩, hflight, hs⟩ := Option.map_eq_some_iff.mp h
  cases hs
  exact ⟨checks, forwards, hflight⟩

theorem stage?_step_of_ready {e : Errand} (h : w.stage? i = some (.ready e)) :
    (w.step limits (.advance i peers)).stage? i = some (match w.table.resolve e.target with
      | .error _ => .answered unknownRedirect
      | .ok authority => .forwarding e authority) := by
  obtain ⟨checks, forwards, hflight⟩ := flights_of_stage? h
  rw [stage?, getElem?_step hflight, seen, if_pos rfl, Flight.run_cons, Flight.step_ready]
  cases w.table.resolve e.target with
  | error cause => rfl
  | ok authority => rfl

theorem stage?_step_eq_forwarding_iff {e : Errand} {authority : Text}
    (h : w.stage? i = some (.ready e)) :
    (w.step limits (.advance i peers)).stage? i = some (.forwarding e authority) ↔
      w.table.resolve e.target = .ok authority := by
  rw [stage?_step_of_ready h]
  cases w.table.resolve e.target with
  | error cause => simp
  | ok found => simp

theorem stage?_step_eq_answered_iff {e : Errand} (h : w.stage? i = some (.ready e)) :
    (w.step limits (.advance i peers)).stage? i = some (.answered unknownRedirect) ↔
      ∃ cause, w.table.resolve e.target = .error cause := by
  rw [stage?_step_of_ready h]
  cases w.table.resolve e.target with
  | error cause => simp
  | ok found => simp

theorem errand_of_ready {r : Request} {freshId : Text} {client : IpAddress}
    (hstart : w.flights[i]? = some (.start r freshId client)) {later : List Event} {e : Errand}
    (hready : (w.run limits (.advance i peers :: later)).stage? i = some (.ready e)) :
    w.table.errand r freshId client = .ok e := by
  obtain ⟨checks, forwards, hflight⟩ := flights_of_stage? hready
  rw [getElem?_run hstart, moments, seen, if_pos rfl, List.singleton_append] at hflight
  exact Flight.errand_of_run_start_eq_ready (Option.some.inj hflight)

end World

/-- Requests arrive, take steps and see the table replaced by accepted ones in any order. A request
whose route has a constant redirect, and that is ready, is sent to where the table of its own
look-up leads if and only if the backend that the redirect names, if it names one, still has the
same address. It is told that there is no such place if and only if there is no such backend any
more. -/
theorem ready_request_reads_later_table {limits : Limits} {c : Config} (hvalid : c.IsValid)
    (before between : List Event) {i : Nat} (looked asked : Peers) {r : Request} {freshId : Text}
    {client : IpAddress} {d : Dispatched} {e : Errand} {own later : World}
    (hown : own = (World.start c).run limits before)
    (hlater : later = own.run limits (.advance i looked :: between))
    (hstart : own.flights[i]? = some (.start r freshId client))
    (hd : own.table.dispatch r freshId client = .ok d)
    (hconstant : d.route.templates.IsConstant .redirect)
    (hready : later.stage? i = some (.ready e)) :
    ∃ redirect authority, d.route.templates.of? .redirect = some redirect ∧ e.target = redirect ∧
      own.table.resolve redirect = .ok authority ∧
      ((later.step limits (.advance i asked)).stage? i = some (.forwarding e authority) ↔
        ∀ name, Redirect.parse redirect = .ok (.backend name) →
          later.table.backends.get? name = own.table.backends.get? name) ∧
      ((later.step limits (.advance i asked)).stage? i = some (.answered unknownRedirect) ↔
        ∃ name, Redirect.parse redirect = .ok (.backend name) ∧
          later.table.backends.get? name = none) := by
  subst hlater
  obtain ⟨accepted, haccepted, htable⟩ : own.IsAccepted := by
    rw [hown]
    exact World.IsAccepted.run ⟨c, hvalid, rfl⟩ before
  obtain ⟨redirect, authority, hredirect, hresolve⟩ :
      ∃ redirect authority, d.route.templates.of? .redirect = some redirect ∧
        own.table.resolve redirect = .ok authority := by
    rw [htable] at hd ⊢
    have hfault := Table.fault?_eq_none_of_dispatch haccepted hd
    exact Table.exists_resolve_of_redirectFault? (Templates.fault?_eq_none_iff.mp hfault).2.1
      hconstant
  obtain ⟨host, route, hhost, hroute, rfl⟩ := Table.dispatch_eq_ok_iff.mp hd
  -- The errand and the dispatch are of one look-up, so the errand has the constant redirect.
  have htarget : e.target = redirect := by
    obtain ⟨host', route', s, check, uri, hhost', hroute', hs, -, -, rfl⟩ :=
      Table.errand_eq_ok_iff.mp (World.errand_of_ready hstart hready)
    cases hhost.symm.trans hhost'
    cases hroute.symm.trans hroute'
    obtain ⟨target, hscope, -, rfl⟩ := Settings.ofScope_eq_ok_iff.mp hs
    rw [Route.scope_of_isConstant hconstant, hredirect] at hscope
    exact (Option.some.inj hscope).symm
  refine ⟨redirect, authority, hredirect, htarget, hresolve, ?_, ?_⟩
  · rw [World.stage?_step_eq_forwarding_iff hready, htarget,
      Table.resolve_eq_ok_iff_of_resolve hresolve]
  · rw [World.stage?_step_eq_answered_iff hready, htarget,
      Table.exists_resolve_eq_error_iff_of_resolve hresolve]

namespace World

/-- A request has arrived for a route to a backend. -/
def waiting : World :=
  (start (.toBackend "app".toList "10.0.0.1:80".toList)).run ServerOptions.standard.limits
    [.arrive (.ofHost "app.local".toList) [] (.v4 [127, 0, 0, 1])]

/-- The request has become ready, and then the table has been replaced. -/
def reloaded (c : Config) (hvalid : c.IsValid) : World :=
  waiting.run ServerOptions.standard.limits
    [.advance 0 (.ready 0), .advance 0 (.ready 0), .reload c hvalid]

end World

/-- The route of the request is gone, and its backend is still there. -/
def Config.withoutRoute : Config :=
  single "other.local".toList [(.names, "app".toList), (.redirect, "@app".toList)]
    [("app".toList, "10.0.0.1:80".toList)]

theorem Config.withoutRoute_isValid : withoutRoute.IsValid := by
  decide +kernel

theorem removed_route_is_followed :
    ∃ (e : Errand) (authority : Text), World.waiting.table.resolve e.target = .ok authority ∧
      ((World.reloaded _ Config.withoutRoute_isValid).step ServerOptions.standard.limits
        (.advance 0 (.ready 0))).stage? 0 = some (.forwarding e authority) := by
  obtain ⟨d, hd, hconstant⟩ :
      ∃ d, World.waiting.table.dispatch (.ofHost "app.local".toList) [] (.v4 [127, 0, 0, 1]) =
        .ok d ∧ d.route.templates.IsConstant .redirect := by
    decide +kernel
  obtain ⟨e, -, hready⟩ :
      ∃ e, World.waiting.table.errand (.ofHost "app.local".toList) [] (.v4 [127, 0, 0, 1]) = .ok e ∧
        (World.reloaded _ Config.withoutRoute_isValid).stage? 0 = some (.ready e) := by
    decide +kernel
  obtain ⟨redirect, authority, -, htarget, hresolve, hforwarding, -⟩ :=
    ready_request_reads_later_table (by decide +kernel) _ _ (.ready 0) (.ready 0)
      (rfl : World.waiting = _) (rfl : World.reloaded _ Config.withoutRoute_isValid = _) rfl hd
      hconstant hready
  refine ⟨e, authority, htarget ▸ hresolve, hforwarding.mpr ?_⟩
  intro name _
  rfl

/-- A request that is ready goes to another place, or to none, after its backend was moved or
removed. -/
theorem moved_backend_diverts_request :
    ∃ (hmoved : (Config.toBackend "app".toList "10.0.0.2:80".toList).IsValid)
      (hremoved : (Config.toBackend "web".toList "10.0.0.1:80".toList).IsValid),
      ∃ d, World.waiting.table.dispatch (.ofHost "app.local".toList) [] (.v4 [127, 0, 0, 1]) =
          .ok d ∧ d.route.templates.IsConstant .redirect ∧
        ∃ e, World.waiting.table.errand (.ofHost "app.local".toList) [] (.v4 [127, 0, 0, 1]) =
            .ok e ∧ World.waiting.table.resolve e.target = .ok "10.0.0.1:80".toList ∧
          (World.reloaded _ hmoved).stage? 0 = some (.ready e) ∧
          ((World.reloaded _ hmoved).step ServerOptions.standard.limits
            (.advance 0 (.ready 0))).stage? 0 =
              some (.forwarding e "10.0.0.2:80".toList) ∧
          (World.reloaded _ hremoved).stage? 0 = some (.ready e) ∧
          ((World.reloaded _ hremoved).step ServerOptions.standard.limits
            (.advance 0 (.ready 0))).stage? 0 = some (.answered unknownRedirect) := by
  refine ⟨by decide +kernel, by decide +kernel, ?_⟩
  decide +kernel

end Gatekeeper
