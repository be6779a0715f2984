import Mathlib.Algebra.Group.Nat.Defs
import Gatekeeper.Proofs.Proxy.Tally
import Gatekeeper.Proofs.Server.Inspection
import Gatekeeper.Proofs.Table.Updates

/-!
# Sessions of a server

A session is a list of requests, questions of an operator and reloads. The counters of the server
say at each point how many checks were asked and how many requests were sent on, and the operator is
shown just these numbers.
-/

namespace Gatekeeper

/-- The response is a success, and the statistics in its object are these numbers. -/
def Response.TellsCounters (response : Response) (checks forwards : Nat) : Prop :=
  response.status = 200 ∧ ∃ whole stats,
    Json.ofBytes? response.body.data.toList = some whole ∧
      whole.field? "stats".toList = some stats ∧
      stats.field? "readiness_checks".toList = some (.number checks) ∧
      stats.field? "forwarded_requests".toList = some (.number forwards)

namespace Server

/-- What a server is given: a request with the servers behind it, a question of an operator, or a
file. -/
inductive Event where
  | request (peers : Peers) (freshId : Text) (client : IpAddress) (r : Request)
  | inspect (r : Request)
  | reload (content : FileContent)

def step (s : Server) : Event → Server
  | .request peers freshId client r => (s.handle (peers.within s.limits) freshId client r).1
  | .inspect _ => s
  | .reload content => (s.reload content).1

def run (s : Server) (events : List Event) : Server :=
  events.foldl step s

/-- The events of a session, each with the server that it finds. -/
def trace : Server → List Event → List (Server × Event)
  | _, [] => []
  | s, event :: rest => (s, event) :: trace (s.step event) rest

/-- A request for which there is a check with a URI. -/
inductive Asks : Server × Event → Prop where
  | request {s : Server} {peers : Peers} {freshId : Text} {client : IpAddress} {r : Request}
      {e : Errand} (he : s.table.errand r freshId client = .ok e) :
      Asks (s, .request peers freshId client r)

/-- A request whose check opens the way, whose redirect leads somewhere, and that has a URI
there. -/
inductive Forwards : Server × Event → Prop where
  | request {s : Server} {peers : Peers} {freshId : Text} {client : IpAddress} {r sent : Request}
      {e : Errand} {authority : Text} (he : s.table.errand r freshId client = .ok e)
      (hopens : Moment.Opens ⟨s.table, peers⟩ s.limits.check e.check)
      (hresolve : s.table.resolve e.target = .ok authority)
      (hsent : e.request.forward? authority = some sent) :
      Forwards (s, .request peers freshId client r)

section

variable {s : Server} {peers : Peers} {freshId : Text} {client : IpAddress} {r : Request}

theorem asks_request_iff : Asks (s, .request peers freshId client r) ↔
    (s.table.handle s.limits (peers.within s.limits) freshId client r).check.isSome = true := by
  rw [Option.isSome_iff_exists]
  constructor
  · rintro ⟨he⟩
    exact ⟨_, Table.check_eq_some_iff.mpr ⟨_, he, rfl⟩⟩
  · rintro ⟨check, hcheck⟩
    obtain ⟨e, he, -⟩ := Table.check_eq_some_iff.mp hcheck
    exact .request he

theorem forwards_request_iff : Forwards (s, .request peers freshId client r) ↔
    (s.table.handle s.limits (peers.within s.limits) freshId client r).forwarded.isSome = true := by
  rw [Option.isSome_iff_exists]
  constructor
  · rintro ⟨he, hopens, hresolve, hsent⟩
    have hready := Moment.judge_eq_ready_iff.mpr hopens
    exact ⟨_, Table.forwarded_eq_some_iff.mpr ⟨_, _, he, hready, hresolve, hsent⟩⟩
  · rintro ⟨sent, hsent⟩
    obtain ⟨e, authority, he, hready, hresolve, hforward⟩ :=
      Table.forwarded_eq_some_iff.mp hsent
    exact .request he (Moment.judge_eq_ready_iff (m := ⟨s.table, peers⟩).mp hready) hresolve
      hforward

end

instance : DecidablePred Asks
  | (_, .request _ _ _ _) => decidable_of_iff _ asks_request_iff.symm
  | (_, .inspect _) => isFalse nofun
  | (_, .reload _) => isFalse nofun

instance : DecidablePred Forwards
  | (_, .request _ _ _ _) => decidable_of_iff _ forwards_request_iff.symm
  | (_, .inspect _) => isFalse nofun
  | (_, .reload _) => isFalse nofun

theorem Forwards.asks {found : Server × Event} (h : Forwards found) : Asks found := by
  rcases h with ⟨he, -, -, -⟩
  exact .request he

variable {s : Server}

theorem counters_step_of_not_asks {event : Event} (hasks : ¬Asks (s, event))
    (hcounters : (s.step event).counters = s.counters) : (s.step event).counters =
      ⟨s.counters.checks + UInt64.ofNat (if Asks (s, event) then 1 else 0),
        s.counters.forwarded + UInt64.ofNat (if Forwards (s, event) then 1 else 0)⟩ := by
  rw [if_neg hasks, if_neg (mt Forwards.asks hasks), hcounters]
  simp

theorem counters_step (event : Event) : (s.step event).counters =
    ⟨s.counters.checks + UInt64.ofNat (if Asks (s, event) then 1 else 0),
      s.counters.forwarded + UInt64.ofNat (if Forwards (s, event) then 1 else 0)⟩ := by
  cases event with
  | request peers freshId client r =>
      simp only [step, handle, Table.run_serve_eq, Counters.after, Option.length_toList,
        asks_request_iff, forwards_request_iff]
  | inspect r => exact counters_step_of_not_asks nofun rfl
  | reload content => exact counters_step_of_not_asks nofun rfl

theorem counters_run (events : List Event) : (s.run events).counters =
    ⟨s.counters.checks + UInt64.ofNat ((s.trace events).countP (Asks ·)),
      s.counters.forwarded + UInt64.ofNat ((s.trace events).countP (Forwards ·))⟩ := by
  induction events generalizing s with
  | nil => simp [run, trace]
  | cons event rest ih =>
      -- The rest of the session starts from the server that the first event leaves.
      rw [run, List.foldl_cons, ← run, ih, counters_step, trace]
      simp only [List.countP_cons, decide_eq_true_eq, UInt64.ofNat_add, UInt64.add_assoc,
        UInt64.add_comm]

@[simp] theorem length_trace (events : List Event) : (s.trace events).length = events.length := by
  induction events generalizing s with
  | nil => rfl
  | cons event rest ih => rw [trace, List.length_cons, ih, List.length_cons]

theorem countP_trace_lt {events : List Event} (h : events.length < 2 ^ 64)
    (p : Server × Event → Bool) : (s.trace events).countP p < 2 ^ 64 := by
  apply Nat.lt_of_le_of_lt List.countP_le_length
  rw [length_trace]
  exact h

theorem countP_forwards_le (events : List Event) :
    (s.trace events).countP (Forwards ·) ≤ (s.trace events).countP (Asks ·) := by
  apply List.countP_mono_left
  intro found _ hforwards
  simp only [decide_eq_true_eq] at hforwards ⊢
  exact hforwards.asks

/-- The server before any request has arrived. -/
def world (s : Server) : World :=
  ⟨s.table, s.counters, []⟩

theorem counters_run_world (s : Server) (peers : Peers) (freshId : Text) (client : IpAddress)
    (r : Request) (n : Nat) :
    (s.world.run s.limits
      (.arrive r freshId client :: List.replicate (n + 4) (.advance 0 peers))).counters =
      (s.step (.request peers freshId client r)).counters :=
  World.counters_run_alone s.limits s.table peers r freshId client s.counters n

theorem tellsCounters_inspect {r : Request} (hmethod : r.method = "GET".toList)
    (hpath : r.uri.path = "/routes".toList)
    (hauthorized : Admin.isAuthorized r s.adminToken = true) :
    (s.inspect r).TellsCounters s.counters.checks.toNat s.counters.forwarded.toNat := by
  rw [inspect_routes hmethod hpath hauthorized]
  exact ⟨rfl, _, _, Json.ofBytes?_bodyOfText _, rfl, rfl, rfl⟩

end Server

/-- After a session of a server that started with counters at zero, the counters are the numbers of
requests with a check and of requests sent on, and an operator with the token reads these numbers.
Nothing but a request changes them. A request that is handled at one go counts what its steps count,
and after any steps of requests that are under way side by side, whatever tables and peers they
find, the counters are the numbers of messages that were handed over. -/
theorem counters_are_exact {s : Server} (hzero : s.counters = .zero) (events : List Server.Event)
    (hlength : events.length < 2 ^ 64) :
    let reached := s.run events
    let checks := (s.trace events).countP (Server.Asks ·)
    let forwards := (s.trace events).countP (Server.Forwards ·)
    reached.counters.checks.toNat = checks ∧ reached.counters.forwarded.toNat = forwards ∧
      forwards ≤ checks ∧
      (∀ content, (reached.step (.reload content)).counters = reached.counters) ∧
      (∀ r, (reached.step (.inspect r)).counters = reached.counters) ∧
      (∀ r, r.method = "GET".toList → r.uri.path = "/routes".toList →
        Admin.isAuthorized r reached.adminToken = true →
        (reached.inspect r).TellsCounters checks forwards) ∧
      (∀ peers freshId client r n,
        (reached.world.run reached.limits
          (.arrive r freshId client :: List.replicate (n + 4) (.advance 0 peers))).counters =
          (reached.step (.request peers freshId client r)).counters) ∧
      ∀ steps, (s.world.run s.limits steps).HasCounted .zero := by
  intro reached checks forwards
  have hcounters : reached.counters = ⟨UInt64.ofNat checks, UInt64.ofNat forwards⟩ := by
    rw [Server.counters_run, hzero, Counters.zero, UInt64.zero_add, UInt64.zero_add]
  have hchecks : reached.counters.checks.toNat = checks := by
    rw [hcounters, UInt64.toNat_ofNat_of_lt' (Server.countP_trace_lt hlength _)]
  have hforwards : reached.counters.forwarded.toNat = forwards := by
    rw [hcounters, UInt64.toNat_ofNat_of_lt' (Server.countP_trace_lt hlength _)]
  refine ⟨hchecks, hforwards, Server.countP_forwards_le events, fun _ => rfl, fun _ => rfl, ?_,
    reached.counters_run_world, ?_⟩
  · intro r hmethod hpath hauthorized
    rw [← hchecks, ← hforwards]
    exact Server.tellsCounters_inspect hmethod hpath hauthorized
  · intro steps
    have hstart : s.world.HasCounted .zero := by
      rw [World.HasCounted, Server.world, hzero]
      exact Counters.zero.after_nil.symm
    exact hstart.run s.limits steps

namespace Server

def Event.ofHost (host : Text) (peers : Peers) : Event :=
  .request peers [] (.v4 [127, 0, 0, 1]) (.ofHost host)

/-- Requests that pass, that have no route, or that meet servers without an answer, and two
reloads. -/
def session : List Event :=
  let mute (_ : Request) : Reaction := ⟨.silent, 0⟩
  [.ofHost "app.local".toList (.ready 0), .ofHost "other.local".toList (.ready 0),
    .ofHost "app.local".toList ⟨mute, mute⟩, .reload .missing,
    .ofHost "app.local".toList { Peers.ready 0 with backend := mute },
    .inspect (.ofHost "app.local".toList), .reload (.ofRedirect "@app"),
    .ofHost "app.local".toList (.ready 0)]

end Server

theorem counters_of_session :
    let reached := (Server.start (.toBackend "app".toList "10.0.0.1:80".toList)
      "token".toList).run Server.session
    let r : Request := { Request.ofHost "localhost".toList with
      uri := ⟨none, none, "/routes".toList, none⟩
      headers := [("authorization".toList, .ofText "Bearer token".toList)] }
    reached.counters.checks.toNat = 3 ∧ reached.counters.forwarded.toNat = 2 ∧
      (reached.inspect r).TellsCounters 3 2 := by
  dsimp only
  obtain ⟨hchecks, hforwards, -, -, -, htells, -⟩ := counters_are_exact
    (s := .start (.toBackend "app".toList "10.0.0.1:80".toList) "token".toList) rfl
    Server.session (by decide)
  have htally : ((Server.start (.toBackend "app".toList "10.0.0.1:80".toList)
      "token".toList).trace Server.session).countP (Server.Asks ·) = 3 ∧
      ((Server.start (.toBackend "app".toList "10.0.0.1:80".toList)
        "token".toList).trace Server.session).countP (Server.Forwards ·) = 2 := by
    decide +kernel
  rw [htally.1] at hchecks htells
  rw [htally.2] at hforwards htells
  exact ⟨hchecks, hforwards, htells _ rfl (by decide) (by decide +kernel)⟩

end Gatekeeper
