import Gatekeeper.Proofs.Counters
import Gatekeeper.Proofs.Proxy.Check
import Gatekeeper.Proofs.Proxy.Dispatch
import Gatekeeper.Proxy.Handle

namespace Gatekeeper

/-- What has been read from a table for a request: the request as backends will see it, the
redirect, and the check as it is sent. -/
structure Errand where
  request : Request
  target : Text
  check : Request
deriving DecidableEq

/-- What is kept of a dispatched request until its check is answered. -/
def Dispatched.errand (d : Dispatched) : Except Fault Errand := do
  let settings ← d.settings
  let uri ← settings.checkUri
  return ⟨d.request, settings.redirect, Check.request uri⟩

/-- All that is read from a table before a check is sent. -/
def Table.errand (t : Table) (r : Request) (freshId : Text) (client : IpAddress) :
    Except ErrorReply Errand :=
  match t.dispatch r freshId client with
  | .error reply => .error reply
  | .ok d =>
    match d.errand with
    | .error fault => .error (.ofFault fault)
    | .ok e => .ok e

theorem Dispatched.errand_eq_ok_iff {d : Dispatched} {e : Errand} :
    d.errand = .ok e ↔ ∃ s uri, d.settings = .ok s ∧ s.checkUri = .ok uri ∧
      e = ⟨d.request, s.redirect, Check.request uri⟩ := by
  rw [errand]
  cases hsettings : d.settings with
  | error fault => simp [bind, Except.bind]
  | ok s =>
      cases huri : s.checkUri with
      | error fault => simp [huri, bind, Except.bind]
      | ok uri => simp [huri, bind, Except.bind, pure, Except.pure, eq_comm]

theorem Dispatched.run_ask (d : Dispatched) (limits : Limits) (network : Network)
    (counters : Counters) : (d.ask limits network).run counters =
      match d.errand with
      | .error fault => (⟨none, some (.error fault)⟩, counters)
      | .ok e => (⟨some e.check, (limits.check.judge (network.control e.check)).map fun result =>
          result.map (Action.ofVerdict · e.target)⟩, counters.addCheck) := by
  rw [ask, errand]
  cases d.settings with
  | error fault => rfl
  | ok settings =>
      cases huri : settings.checkUri with
      | error fault =>
          simp [Settings.run_ask_of_checkUri_eq_error _ _ _ huri, huri, bind, Except.bind]
      | ok uri =>
          simp [Settings.run_ask_of_checkUri_eq_ok _ _ _ huri, huri, bind, Except.bind, pure,
            Except.pure]

namespace Table

variable {t : Table} {limits : Limits} {network : Network} {freshId : Text} {client : IpAddress}
  {r sent : Request} {e : Errand} {target authority : Text} {limit : Duration}
  {backend : Request → Exchange} {counters : Counters}

theorem forward_of_resolve_eq_error {cause : RedirectError} (h : t.resolve target = .error cause) :
    t.forward r target limit backend = ⟨none, unknownRedirect⟩ := by
  simp [forward, Counted.result, send, h]

theorem forward_of_resolve (h : t.resolve target = .ok authority) :
    t.forward r target limit backend =
      match r.forward? authority with
      | none => ⟨none, connectionFailed⟩
      | some sent => ⟨some sent, forwardedResponse limit (backend sent)⟩ := by
  cases hsent : r.forward? authority <;> simp [forward, Counted.result, send, h, hsent]

theorem run_send : (t.send r target limit backend).run counters =
    (t.forward r target limit backend,
      counters.after [] (t.forward r target limit backend).sent.toList) := by
  cases hresolve : t.resolve target with
  | error cause => simp [forward_of_resolve_eq_error hresolve, send, hresolve]
  | ok authority =>
      cases hsent : r.forward? authority <;>
        simp [forward_of_resolve hresolve, send, hresolve, hsent]

theorem run_perform {result : Except Fault Action} :
    (t.perform r limits network result).run counters =
      (t.act r limits network result,
        counters.after [] (t.act r limits network result).1.toList) := by
  rcases result with fault | ⟨target⟩ | ⟨page, contentType⟩
  · simp [act, perform, Counted.result]
  · simp [act, perform, Counted.result, run_send]
  · simp [act, perform, Counted.result]

/-- Handling a request takes its errand from the table, asks, and does what the answer says. What
it sends counts before it is known what comes back. -/
theorem run_serve : (t.serve limits network freshId client r).run counters =
    match t.errand r freshId client with
    | .error reply => (⟨none, none, some reply.response⟩, counters)
    | .ok e =>
      match limits.check.judge (network.control e.check) with
      | none => (⟨some e.check, none, none⟩, counters.addCheck)
      | some result =>
        let (forwarded, response) := t.act e.request limits network
          (result.map (Action.ofVerdict · e.target))
        (⟨some e.check, forwarded, some response⟩,
          counters.addCheck.after [] forwarded.toList) := by
  simp only [serve, errand]
  cases t.dispatch r freshId client with
  | error reply => rfl
  | ok d =>
      rw [Counted.run_bind, Dispatched.run_ask]
      cases herrand : d.errand with
      | error fault => simp [herrand, perform]
      | ok e =>
          have hrequest : e.request = d.request := by
            obtain ⟨s, uri, -, -, rfl⟩ := Dispatched.errand_eq_ok_iff.mp herrand
            rfl
          cases hjudge : limits.check.judge (network.control e.check) with
          | none => simp [herrand, hjudge]
          | some result => simp [herrand, hjudge, run_perform, hrequest]

theorem handle_eq (t : Table) (limits : Limits) (network : Network) (freshId : Text)
    (client : IpAddress) (r : Request) :
    t.handle limits network freshId client r =
      match t.errand r freshId client with
      | .error reply => ⟨none, none, some reply.response⟩
      | .ok e =>
        match limits.check.judge (network.control e.check) with
        | none => ⟨some e.check, none, none⟩
        | some result =>
          let (forwarded, response) := t.act e.request limits network
            (result.map (Action.ofVerdict · e.target))
          ⟨some e.check, forwarded, some response⟩ := by
  rw [handle, Counted.result, run_serve]
  cases t.errand r freshId client with
  | error reply => rfl
  | ok e =>
      dsimp only
      cases limits.check.judge (network.control e.check) <;> rfl

theorem run_serve_eq : (t.serve limits network freshId client r).run counters =
    (t.handle limits network freshId client r,
      counters.after (t.handle limits network freshId client r).check.toList
        (t.handle limits network freshId client r).forwarded.toList) := by
  rw [run_serve, handle_eq]
  cases t.errand r freshId client with
  | error reply => simp
  | ok e =>
      dsimp only
      cases limits.check.judge (network.control e.check) with
      | none => simp
      | some result =>
          have happend := counters.after_append [e.check] [] [] (t.act e.request limits network
            (result.map (Action.ofVerdict · e.target))).1.toList
          rw [List.append_nil, List.nil_append, Counters.after_check] at happend
          simp [happend]

theorem sent_of_resolve (h : t.resolve target = .ok authority) :
    (t.forward r target limit backend).sent = r.forward? authority := by
  rw [forward_of_resolve h]
  cases r.forward? authority with
  | none => rfl
  | some sent => rfl

theorem sent_eq_some_iff :
    (t.forward r target limit backend).sent = some sent ↔
      ∃ authority, t.resolve target = .ok authority ∧ r.forward? authority = some sent := by
  cases hresolve : t.resolve target with
  | error cause => simp [forward_of_resolve_eq_error hresolve]
  | ok authority =>
      rw [sent_of_resolve hresolve]
      simp

theorem handle_of_ready (he : t.errand r freshId client = .ok e)
    (hready : limits.check.judge (network.control e.check) = some (.ok .ready)) :
    t.handle limits network freshId client r =
      let forwarded := t.forward e.request e.target limits.request network.backend
      ⟨some e.check, forwarded.sent, some forwarded.response⟩ := by
  rw [handle_eq, he]
  simp only [hready]
  rfl

theorem handle_of_notReady (he : t.errand r freshId client = .ok e) {page : ByteArray}
    {contentType : Option HeaderValue} (hpage : limits.check.judge (network.control e.check) =
      some (.ok (.notReady page contentType))) :
    t.handle limits network freshId client r =
      ⟨some e.check, none, some (Action.pageResponse page contentType)⟩ := by
  rw [handle_eq, he]
  simp only [hpage]
  rfl

theorem check_eq_some_iff {check : Request} :
    (t.handle limits network freshId client r).check = some check ↔
      ∃ e, t.errand r freshId client = .ok e ∧ e.check = check := by
  rw [handle_eq]
  cases t.errand r freshId client with
  | error reply => simp
  | ok e =>
      dsimp only
      split <;> simp

theorem forwarded_eq_some_iff :
    (t.handle limits network freshId client r).forwarded = some sent ↔
      ∃ e authority, t.errand r freshId client = .ok e ∧
        limits.check.judge (network.control e.check) = some (.ok .ready) ∧
        t.resolve e.target = .ok authority ∧ e.request.forward? authority = some sent := by
  constructor
  · rw [handle_eq]
    cases herrand : t.errand r freshId client with
    | error reply =>
        intro h
        cases h
    | ok e =>
        dsimp only
        rcases hjudge : limits.check.judge (network.control e.check) with _ | fault | _ | page
        · intro h
          cases h
        · intro h
          cases h
        · intro h
          obtain ⟨authority, hresolve, hsent⟩ := sent_eq_some_iff.mp h
          exact ⟨e, authority, rfl, hjudge, hresolve, hsent⟩
        · intro h
          cases h
  · rintro ⟨e, authority, he, hready, hresolve, hsent⟩
    rw [handle_of_ready he hready]
    exact sent_eq_some_iff.mpr ⟨authority, hresolve, hsent⟩

end Table

/-- Why no check is sent for a request. -/
inductive Table.Unasked (t : Table) (r : Request) (client : IpAddress) : Prop where
  | noHost (hhost : r.hostname? = none)
  | noRoute {host : Text} (hhost : r.hostname? = some host) (hroute : t.lookup host = none)
  | noSettings {host : Text} {route : Route} {fault : Fault} (hhost : r.hostname? = some host)
      (hroute : t.lookup host = some route)
      (hsettings : Settings.ofScope (route.scope (RequestValues.capture r client false))
        t.controlUrl = .error fault)
  | noTarget {host : Text} {route : Route} {s : Settings} {fault : Fault}
      (hhost : r.hostname? = some host) (hroute : t.lookup host = some route)
      (hsettings : Settings.ofScope (route.scope (RequestValues.capture r client false))
        t.controlUrl = .ok s)
      (hselector : Selector.ofSettings s = .error fault)
  | badUri {host : Text} {route : Route} {s : Settings} {check : Check} {fault : Fault}
      (hhost : r.hostname? = some host) (hroute : t.lookup host = some route)
      (hsettings : Settings.ofScope (route.scope (RequestValues.capture r client false))
        t.controlUrl = .ok s)
      (hcheck : Check.ofSettings s = .ok check) (huri : check.uri = .error fault)

namespace Table

variable {t : Table} {r : Request} {freshId : Text} {client : IpAddress}

theorem errand_eq_ok_iff_dispatched {e : Errand} :
    t.errand r freshId client = .ok e ↔
      ∃ d, t.dispatch r freshId client = .ok d ∧ d.errand = .ok e := by
  rw [errand]
  cases hdispatch : t.dispatch r freshId client with
  | error reply => simp
  | ok d => cases herrand : d.errand <;> simp [herrand]

theorem errand_eq_ok_iff {e : Errand} :
    t.errand r freshId client = .ok e ↔
      ∃ host route s check uri, r.hostname? = some host ∧ t.lookup host = some route ∧
        Settings.ofScope (route.scope (RequestValues.capture r client false)) t.controlUrl = .ok s ∧
        Check.ofSettings s = .ok check ∧ check.uri = .ok uri ∧
        e = ⟨r.marked freshId client, s.redirect, Check.request uri⟩ := by
  rw [errand_eq_ok_iff_dispatched]
  constructor
  · rintro ⟨d, hd, he⟩
    obtain ⟨host, route, hhost, hroute, rfl⟩ := dispatch_eq_ok_iff.mp hd
    obtain ⟨s, uri, hs, hcheckUri, rfl⟩ := Dispatched.errand_eq_ok_iff.mp he
    obtain ⟨check, hcheck, huri⟩ := Settings.checkUri_eq_ok_iff.mp hcheckUri
    exact ⟨host, route, s, check, uri, hhost, hroute, hs, hcheck, huri, rfl⟩
  · rintro ⟨host, route, s, check, uri, hhost, hroute, hs, hcheck, huri, rfl⟩
    refine ⟨_, dispatch_eq_ok_iff.mpr ⟨host, route, hhost, hroute, rfl⟩, ?_⟩
    have hcheckUri := Settings.checkUri_eq_ok_iff.mpr ⟨check, hcheck, huri⟩
    exact Dispatched.errand_eq_ok_iff.mpr ⟨s, uri, hs, hcheckUri, rfl⟩

theorem target_of_errand {d : Dispatched} {s : Settings} {e : Errand}
    (hd : t.dispatch r freshId client = .ok d) (hs : d.settings = .ok s)
    (he : t.errand r freshId client = .ok e) : e.target = s.redirect := by
  obtain ⟨d', hd', he'⟩ := errand_eq_ok_iff_dispatched.mp he
  cases hd.symm.trans hd'
  obtain ⟨s', uri, hs', -, rfl⟩ := Dispatched.errand_eq_ok_iff.mp he'
  cases hs.symm.trans hs'
  rfl

theorem request_of_errand {e : Errand} (h : t.errand r freshId client = .ok e) :
    e.request = r.marked freshId client := by
  obtain ⟨host, route, s, check, uri, -, -, -, -, -, rfl⟩ := errand_eq_ok_iff.mp h
  rfl

/-- The identifier is all of an errand that a fresh one changes. -/
theorem errand_of_errand {e : Errand} (h : t.errand r freshId client = .ok e) (freshId' : Text) :
    t.errand r freshId' client = .ok { e with request := r.marked freshId' client } := by
  obtain ⟨host, route, s, check, uri, hhost, hroute, hs, hcheck, huri, rfl⟩ :=
    errand_eq_ok_iff.mp h
  exact errand_eq_ok_iff.mpr ⟨host, route, s, check, uri, hhost, hroute, hs, hcheck, huri, rfl⟩

theorem exists_errand_of_not_unasked (h : ¬t.Unasked r client) :
    ∃ e, t.errand r freshId client = .ok e := by
  cases hhost : r.hostname? with
  | none => exact absurd (.noHost hhost) h
  | some host =>
      cases hroute : t.lookup host with
      | none => exact absurd (.noRoute hhost hroute) h
      | some route =>
          cases hsettings : Settings.ofScope (route.scope (RequestValues.capture r client false))
              t.controlUrl with
          | error fault => exact absurd (.noSettings hhost hroute hsettings) h
          | ok s =>
              cases hselector : Selector.ofSettings s with
              | error fault => exact absurd (.noTarget hhost hroute hsettings hselector) h
              | ok selector =>
                  have hcheck := Check.ofSettings_eq_ok_iff.mpr ⟨selector, hselector, rfl⟩
                  cases huri : Check.uri _ with
                  | error fault => exact absurd (.badUri hhost hroute hsettings hcheck huri) h
                  | ok uri =>
                      exact ⟨_, errand_eq_ok_iff.mpr
                        ⟨host, route, s, _, uri, hhost, hroute, hsettings, hcheck, huri, rfl⟩⟩

theorem not_unasked_of_errand {e : Errand} (he : t.errand r freshId client = .ok e) :
    ¬t.Unasked r client := by
  obtain ⟨host, route, s, check, uri, hhost, hroute, hsettings, hcheck, huri, -⟩ :=
    errand_eq_ok_iff.mp he
  rintro (hnone | ⟨hhost', hnone⟩ | ⟨hhost', hroute', herror⟩ | ⟨hhost', hroute', hok, herror⟩ |
    ⟨hhost', hroute', hok, hcheck', herror⟩)
  · cases hhost.symm.trans hnone
  · cases hhost.symm.trans hhost'
    cases hroute.symm.trans hnone
  · cases hhost.symm.trans hhost'
    cases hroute.symm.trans hroute'
    cases hsettings.symm.trans herror
  · cases hhost.symm.trans hhost'
    cases hroute.symm.trans hroute'
    cases hsettings.symm.trans hok
    obtain ⟨selector, hselector, -⟩ := Check.ofSettings_eq_ok_iff.mp hcheck
    cases hselector.symm.trans herror
  · cases hhost.symm.trans hhost'
    cases hroute.symm.trans hroute'
    cases hsettings.symm.trans hok
    cases hcheck.symm.trans hcheck'
    cases huri.symm.trans herror

theorem exists_errand_iff : (∃ e, t.errand r freshId client = .ok e) ↔ ¬t.Unasked r client :=
  ⟨fun ⟨_, he⟩ => not_unasked_of_errand he, exists_errand_of_not_unasked⟩

end Table

end Gatekeeper
