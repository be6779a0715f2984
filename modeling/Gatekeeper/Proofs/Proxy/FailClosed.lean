import Gatekeeper.Proofs.Config.Accepted
import Gatekeeper.Proofs.Proxy.Flight

/-!
# Closed unless opened

Handling a request asks at most once and sends the request on at most once, and it sends the
request on only after a reply that opens the way. Everything else leads to an answer that no
backend has a part in.
-/

namespace Gatekeeper

/-- The reply to a check comes in time, is not too long, and its first status is `ready`. -/
def Moment.Opens (m : Moment) (limits : CheckLimits) (check : Request) : Prop :=
  ∃ reply others, (m.peers.control check).exchange = .response reply ∧
    (m.peers.control check).isInTime limits.timeout = true ∧
    reply.body.size ≤ limits.maxReplyBytes ∧
    reply.headers.values Verdict.statusField = .ofText "ready".toList :: others

theorem Verdict.ofReply_eq_ready_iff {headers : Headers} {body : ByteArray} :
    ofReply headers body = .ready ↔
      ∃ others, headers.values statusField = .ofText "ready".toList :: others := by
  rw [← List.head?_eq_some_iff, ofReply]
  constructor
  · intro h
    split at h
    · assumption
    · cases h
  · intro h
    exact if_pos h

theorem CheckLimits.judge_eq_ready_iff {limits : CheckLimits} {exchange : Exchange} :
    limits.judge exchange = some (.ok .ready) ↔
      ∃ reply others, exchange = .response reply ∧ reply.body.size ≤ limits.maxReplyBytes ∧
        reply.headers.values Verdict.statusField = .ofText "ready".toList :: others := by
  constructor
  · intro h
    cases exchange with
    | response reply =>
        rw [judge] at h
        split at h
        · cases h
        · rename_i hsize
          obtain ⟨others, hothers⟩ :=
            Verdict.ofReply_eq_ready_iff.mp (Except.ok.inj (Option.some.inj h))
          exact ⟨reply, others, rfl, Nat.le_of_not_lt hsize, hothers⟩
    | failed failure => cases h
    | silent =>
        obtain ⟨limit, -, hlimit⟩ := Option.map_eq_some_iff.mp h
        cases hlimit
  · rintro ⟨reply, others, rfl, hsize, hothers⟩
    rw [judge, if_neg (Nat.not_lt_of_le hsize),
      Verdict.ofReply_eq_ready_iff.mpr ⟨others, hothers⟩]

theorem Reaction.within_eq_response_iff {reaction : Reaction} {limit : Option Duration}
    {reply : Response} :
    reaction.within limit = .response reply ↔
      reaction.exchange = .response reply ∧ reaction.isInTime limit = true := by
  rw [within]
  split
  · rename_i htime
    simp [htime]
  · rename_i hlate
    simp [hlate]

theorem Moment.judge_eq_ready_iff {m : Moment} {limits : Limits} {check : Request} :
    limits.check.judge ((m.peers.within limits).control check) = some (.ok .ready) ↔
      m.Opens limits.check check := by
  rw [CheckLimits.judge_eq_ready_iff]
  constructor
  · rintro ⟨reply, others, hreply, hsize, hothers⟩
    obtain ⟨hexchange, htime⟩ := Reaction.within_eq_response_iff.mp hreply
    exact ⟨reply, others, hexchange, htime, hsize, hothers⟩
  · rintro ⟨reply, others, hexchange, htime, hsize, hothers⟩
    have hreply := Reaction.within_eq_response_iff.mpr ⟨hexchange, htime⟩
    exact ⟨reply, others, hreply, hsize, hothers⟩

/-- An earlier moment opens the way for a check, and at a later one the target is resolved. -/
def Errand.ClearedIn (e : Errand) (limits : CheckLimits) (authority : Text)
    (moments : List Moment) : Prop :=
  ∃ answer resolution, [answer, resolution].Sublist moments ∧ answer.Opens limits e.check ∧
    resolution.table.resolve e.target = .ok authority

/-- How far an errand may have come, and what may have been sent for it, through the moments since
it began. -/
inductive Errand.Follows (limits : CheckLimits) (e : Errand) (past : List Moment) : Flight → Prop
  | checking : Follows limits e past ⟨.checking e, [e.check], []⟩
  | ready {answer : Moment} (hmem : answer ∈ past) (hopens : answer.Opens limits e.check) :
      Follows limits e past ⟨.ready e, [e.check], []⟩
  | refused {response : Response} : Follows limits e past ⟨.answered response, [e.check], []⟩
  | forwarding {authority : Text} (h : e.ClearedIn limits authority past) :
      Follows limits e past
        ⟨.forwarding e authority, [e.check], (e.request.forward? authority).toList⟩
  | answered {authority : Text} {response : Response} (h : e.ClearedIn limits authority past) :
      Follows limits e past
        ⟨.answered response, [e.check], (e.request.forward? authority).toList⟩

namespace Errand

variable {e : Errand} {limits : Limits} {past : List Moment} {f : Flight}

theorem ClearedIn.append {authority : Text} (h : e.ClearedIn limits.check authority past)
    (later : List Moment) : e.ClearedIn limits.check authority (past ++ later) := by
  obtain ⟨answer, resolution, hsub, hopens, hresolve⟩ := h
  exact ⟨answer, resolution, hsub.trans (List.sublist_append_left past later), hopens, hresolve⟩

theorem Follows.step (h : e.Follows limits.check past f) (m : Moment) :
    e.Follows limits.check (past ++ [m]) (f.step limits m) := by
  cases h with
  | checking =>
      rw [Flight.step_checking]
      split
      · exact .checking
      · exact .refused
      · rename_i hready
        exact .ready (List.mem_append_right past (List.mem_singleton_self m))
          (Moment.judge_eq_ready_iff.mp hready)
      · exact .refused
  | ready hmem hopens =>
      rw [Flight.step_ready]
      split
      · exact .refused
      · rename_i answer authority hresolve
        -- The answer lies in the past, so it comes before the moment that resolves.
        have hsub : [_, m].Sublist (past ++ [m]) :=
          (List.singleton_sublist.mpr hmem).append (List.Sublist.refl [m])
        exact .forwarding ⟨_, m, hsub, hopens, hresolve⟩
  | refused => exact .refused
  | forwarding hcleared =>
      rw [Flight.step_forwarding]
      split
      · exact .answered (hcleared.append [m])
      · exact .answered (hcleared.append [m])
  | answered hcleared => exact .answered (hcleared.append [m])

theorem Follows.run (h : e.Follows limits.check past f) (moments : List Moment) :
    e.Follows limits.check (past ++ moments) (f.run limits moments) := by
  induction moments generalizing past f with
  | nil =>
      rw [List.append_nil]
      exact h
  | cons m rest ih =>
      rw [Flight.run_cons, List.append_cons]
      exact ih (h.step m)

theorem Follows.checks_eq (h : e.Follows limits.check past f) : f.checks = [e.check] := by
  cases h <;> rfl

theorem Follows.length_forwards_le (h : e.Follows limits.check past f) :
    f.forwards.length ≤ 1 := by
  cases h with
  | checking | ready | refused => exact Nat.zero_le 1
  | forwarding | answered => exact Option.length_toList_le

theorem Follows.clearedIn_of_mem_forwards (h : e.Follows limits.check past f) {sent : Request}
    (hsent : sent ∈ f.forwards) :
    ∃ authority, e.ClearedIn limits.check authority past ∧
      e.request.forward? authority = some sent := by
  cases h with
  | checking | ready | refused => cases hsent
  | forwarding hcleared | answered hcleared =>
      exact ⟨_, hcleared, Option.mem_toList.mp hsent⟩

end Errand

namespace Flight

variable {r : Request} {freshId : Text} {client : IpAddress} {limits : Limits} {first : Moment}

theorem run_start_of_unasked (h : first.table.Unasked r client) (rest : List Moment) :
    ∃ response, (start r freshId client).run limits (first :: rest) =
      ⟨.answered response, [], []⟩ := by
  rw [run_cons, start, step_received]
  cases herrand : first.table.errand r freshId client with
  | error reply => exact ⟨reply.response, run_answered rest⟩
  | ok e => exact absurd h (Table.not_unasked_of_errand herrand)

theorem follows_run_start {e : Errand} (h : first.table.errand r freshId client = .ok e)
    (rest : List Moment) :
    e.Follows limits.check rest ((start r freshId client).run limits (first :: rest)) := by
  rw [run_cons, start, step_received, h]
  have hstart : e.Follows limits.check [] ⟨.checking e, [e.check], []⟩ := .checking
  exact hstart.run rest

theorem exists_errand_of_mem_forwards {rest : List Moment} {sent : Request}
    (h : sent ∈ ((start r freshId client).run limits (first :: rest)).forwards) :
    ∃ e authority, first.table.errand r freshId client = .ok e ∧
      ((start r freshId client).run limits (first :: rest)).checks = [e.check] ∧
      e.ClearedIn limits.check authority rest ∧ e.request.forward? authority = some sent := by
  cases herrand : first.table.errand r freshId client with
  | error reply =>
      simp [start, step_received, herrand] at h
  | ok e =>
      have hfollows : e.Follows limits.check rest _ := follows_run_start herrand rest
      obtain ⟨authority, hcleared, hforward⟩ := hfollows.clearedIn_of_mem_forwards h
      exact ⟨e, authority, rfl, hfollows.checks_eq, hcleared, hforward⟩

theorem errand_of_run_start_eq_ready {e : Errand} {rest : List Moment}
    {checks forwards : List Request}
    (h : (start r freshId client).run limits (first :: rest) = ⟨.ready e, checks, forwards⟩) :
    first.table.errand r freshId client = .ok e := by
  cases herrand : first.table.errand r freshId client with
  | error reply =>
      simp [start, step_received, herrand] at h
  | ok own =>
      have hfollows : own.Follows limits.check rest _ := follows_run_start herrand rest
      rw [h] at hfollows
      cases hfollows
      rfl

end Flight

/-- All that a check says of a request is its URI, which is that of the settings for the request. -/
structure Table.Prescribes (t : Table) (r : Request) (client : IpAddress) (check : Request) :
    Prop where
  method : check.method = "GET".toList
  headers : check.headers = [("connection".toList, .ofText "keep-alive".toList)]
  body : check.body = ByteArray.empty
  uri : ∃ host route s c, r.hostname? = some host ∧ t.lookup host = some route ∧
    Settings.ofScope (route.scope (RequestValues.capture r client false)) t.controlUrl = .ok s ∧
    Check.ofSettings s = .ok c ∧ c.uri = .ok check.uri

theorem Table.prescribes_of_errand {t : Table} {r : Request} {freshId : Text} {client : IpAddress}
    {e : Errand} (h : t.errand r freshId client = .ok e) : t.Prescribes r client e.check := by
  obtain ⟨host, route, s, c, uri, hhost, hroute, hsettings, hcheck, huri, rfl⟩ :=
    errand_eq_ok_iff.mp h
  exact ⟨rfl, rfl, rfl, host, route, s, c, hhost, hroute, hsettings, hcheck, huri⟩

/-- Whatever the peers do, and whatever tables the steps of a request find, at most one check and at
most one request are sent. The check is sent unless there is a reason against it in the first table.
It is the one that the table prescribes, and the request is sent on only after a reply that opened
the way, to where a table resolved its target. Handling a request with one table is a run of this
kind. -/
theorem handling_fails_closed (limits : Limits) (r : Request) (freshId : Text)
    (client : IpAddress) :
    (∀ (first : Moment) (rest : List Moment),
      let f := (Flight.start r freshId client).run limits (first :: rest)
      f.checks.length ≤ 1 ∧ f.forwards.length ≤ 1 ∧
        (first.table.Unasked r client → f.checks = []) ∧
        (¬first.table.Unasked r client → ∃ e, first.table.errand r freshId client = .ok e ∧
          f.checks = [e.check] ∧ first.table.Prescribes r client e.check) ∧
        ∀ sent ∈ f.forwards, ∃ e authority,
          first.table.errand r freshId client = .ok e ∧ f.checks = [e.check] ∧
            e.ClearedIn limits.check authority rest ∧
            e.request.forward? authority = some sent) ∧
      ∀ (t : Table) (p : Peers) (n : Nat),
        ((Flight.start r freshId client).run limits (List.replicate (n + 4) ⟨t, p⟩)).handled =
          t.handle limits (p.within limits) freshId client r := by
  refine ⟨?_, fun t p n => Flight.handled_run_start t p r freshId client n⟩
  intro first rest f
  by_cases hunasked : first.table.Unasked r client
  · obtain ⟨response, hf⟩ : ∃ response, f = ⟨.answered response, [], []⟩ :=
      Flight.run_start_of_unasked hunasked rest
    rw [hf]
    refine ⟨Nat.zero_le 1, Nat.zero_le 1, fun _ => rfl, absurd hunasked, ?_⟩
    intro sent hsent
    cases hsent
  · obtain ⟨e, he⟩ : ∃ e, first.table.errand r freshId client = .ok e :=
      Table.exists_errand_iff.mpr hunasked
    have hfollows : e.Follows limits.check rest f := Flight.follows_run_start he rest
    have hchecks := hfollows.checks_eq
    refine ⟨?_, hfollows.length_forwards_le, fun h => absurd h hunasked, ?_, ?_⟩
    · exact Nat.le_of_eq (congrArg List.length hchecks)
    · exact fun _ => ⟨e, he, hchecks, Table.prescribes_of_errand he⟩
    · intro sent hsent
      obtain ⟨authority, hcleared, hforward⟩ := hfollows.clearedIn_of_mem_forwards hsent
      exact ⟨e, authority, he, hchecks, hcleared, hforward⟩

/-- Peers that let every request pass, after so many nanoseconds. -/
def Peers.ready (delay : Nat) : Peers where
  control := fun _ =>
    ⟨.response ⟨200, [(Verdict.statusField, .ofText "ready".toList)], ByteArray.empty⟩, delay⟩
  backend := fun _ => ⟨.response ⟨200, [], ByteArray.empty⟩, delay⟩

/-- A reply that comes at the last moment still opens the way. -/
theorem reply_at_limit_clears :
    let limits : Limits := ⟨⟨some (.of 1 0), 0⟩, .of 30 0⟩
    let m : Moment := ⟨.ofConfig (.toBackend "app".toList "10.0.0.1:80".toList), .ready 1000000000⟩
    let f := (Flight.start (.ofHost "app.local".toList) [] (.v4 [127, 0, 0, 1])).run limits
      [m, m, m]
    ∃ sent ∈ f.forwards, ∃ (e : Errand) (authority : Text),
      e.ClearedIn limits.check authority [m, m] ∧ e.request.forward? authority = some sent := by
  intro limits m f
  have hlength : f.forwards.length = 1 := by
    decide +kernel
  obtain ⟨sent, hforwards⟩ := List.length_eq_one_iff.mp hlength
  have hsent : sent ∈ f.forwards := by
    rw [hforwards]
    exact List.mem_singleton_self sent
  obtain ⟨-, -, -, -, hclosed⟩ := (handling_fails_closed limits (.ofHost "app.local".toList) []
    (.v4 [127, 0, 0, 1])).1 m [m, m]
  obtain ⟨e, authority, -, -, hcleared, hforward⟩ := hclosed sent hsent
  exact ⟨sent, hsent, e, authority, hcleared, hforward⟩

end Gatekeeper
