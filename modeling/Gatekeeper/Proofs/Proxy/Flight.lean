import Gatekeeper.Proofs.Proxy.Errand

/-!
# Requests in flight

The way of one request, step by step. Each step happens at a moment with a table and peers of its
own, and what is sent on the way is written down. Handling a request with one table is a run
through moments that are all alike.
-/

namespace Gatekeeper

def Duration.total (d : Duration) : Nat :=
  d.seconds * 1000000000 + d.nanoseconds

/-- What comes back for a request, and after how many nanoseconds. -/
structure Reaction where
  exchange : Exchange
  delay : Nat

namespace Reaction

/-- The reaction comes before a limit has passed. -/
def isInTime (r : Reaction) (limit : Option Duration) : Bool :=
  limit.all fun d => r.delay ≤ d.total

/-- What is seen of a reaction by one who does not wait for longer than the limit. -/
def within (r : Reaction) (limit : Option Duration) : Exchange :=
  if r.isInTime limit then r.exchange else .silent

end Reaction

/-- Other servers that take their time. -/
structure Peers where
  control : Request → Reaction
  backend : Request → Reaction

/-- The servers behind, as a proxy with limits finds them. -/
def Peers.within (p : Peers) (limits : Limits) : Network where
  control := fun r => (p.control r).within limits.check.timeout
  backend := fun r => (p.backend r).within (some limits.request)

/-- What a step finds around it. -/
structure Moment where
  table : Table
  peers : Peers

/-- How far a request has come. -/
inductive Stage where
  | received (request : Request) (freshId : Text) (client : IpAddress)
  | checking (errand : Errand)
  | ready (errand : Errand)
  | forwarding (errand : Errand) (authority : Text)
  | answered (response : Response)
deriving DecidableEq

/-- The way of one request, with the messages that were sent on it. -/
structure Flight where
  stage : Stage
  checks : List Request
  forwards : List Request
deriving DecidableEq

namespace Flight

def start (r : Request) (freshId : Text) (client : IpAddress) : Flight :=
  ⟨.received r freshId client, [], []⟩

/-- One step on the way of a request. What is handed over counts in the step that hands it over, and
what comes back is seen in a later one. -/
def advance (limits : Limits) (f : Flight) (m : Moment) : Counted Flight := do
  match f.stage with
  | .received r freshId client =>
    match m.table.errand r freshId client with
    | .error reply => return { f with stage := .answered reply.response }
    | .ok e =>
      modify Counters.addCheck
      return { f with stage := .checking e, checks := f.checks ++ [e.check] }
  | .checking e =>
    match limits.check.judge ((m.peers.within limits).control e.check) with
    | none => return f
    | some (.error fault) =>
      return { f with stage := .answered (ErrorReply.ofFault fault).response }
    | some (.ok .ready) => return { f with stage := .ready e }
    | some (.ok (.notReady page contentType)) =>
      return { f with stage := .answered (Action.pageResponse page contentType) }
  | .ready e =>
    match m.table.resolve e.target with
    | .error _ => return { f with stage := .answered unknownRedirect }
    | .ok authority =>
      match e.request.forward? authority with
      | none => return { f with stage := .forwarding e authority }
      | some request =>
        modify Counters.addForward
        return { f with stage := .forwarding e authority, forwards := f.forwards ++ [request] }
  | .forwarding e authority =>
    match e.request.forward? authority with
    | none => return { f with stage := .answered connectionFailed }
    | some request =>
      let exchange := (m.peers.within limits).backend request
      return { f with stage := .answered (forwardedResponse limits.request exchange) }
  | .answered _ => return f

/-- What a request does at a moment, without the counting. -/
def step (limits : Limits) (f : Flight) (m : Moment) : Flight :=
  Counted.result (f.advance limits m)

def run (limits : Limits) (f : Flight) (moments : List Moment) : Flight :=
  moments.foldl (step limits) f

/-- What has been done for the request so far. -/
def handled (f : Flight) : Handled where
  check := f.checks.head?
  forwarded := f.forwards.head?
  response :=
    match f.stage with
    | .answered response => some response
    | _ => none

section

variable {limits : Limits} {m : Moment} {checks forwards : List Request}

theorem step_received {r : Request} {freshId : Text} {client : IpAddress} :
    step limits ⟨.received r freshId client, checks, forwards⟩ m =
      match m.table.errand r freshId client with
      | .error reply => ⟨.answered reply.response, checks, forwards⟩
      | .ok e => ⟨.checking e, checks ++ [e.check], forwards⟩ := by
  cases herrand : m.table.errand r freshId client <;>
    simp [step, advance, Counted.result, herrand]

theorem step_checking {e : Errand} :
    step limits ⟨.checking e, checks, forwards⟩ m =
      match limits.check.judge ((m.peers.within limits).control e.check) with
      | none => ⟨.checking e, checks, forwards⟩
      | some (.error fault) => ⟨.answered (ErrorReply.ofFault fault).response, checks, forwards⟩
      | some (.ok .ready) => ⟨.ready e, checks, forwards⟩
      | some (.ok (.notReady page contentType)) =>
        ⟨.answered (Action.pageResponse page contentType), checks, forwards⟩ := by
  rcases hjudge : limits.check.judge ((m.peers.within limits).control e.check) with
    _ | fault | _ | ⟨page, contentType⟩ <;> simp [step, advance, Counted.result, hjudge]

theorem step_ready {e : Errand} :
    step limits ⟨.ready e, checks, forwards⟩ m =
      match m.table.resolve e.target with
      | .error _ => ⟨.answered unknownRedirect, checks, forwards⟩
      | .ok authority =>
        ⟨.forwarding e authority, checks, forwards ++ (e.request.forward? authority).toList⟩ := by
  cases hresolve : m.table.resolve e.target with
  | error cause => simp [step, advance, Counted.result, hresolve]
  | ok authority =>
      cases hforward : e.request.forward? authority <;>
        simp [step, advance, Counted.result, hresolve, hforward]

theorem step_forwarding {e : Errand} {authority : Text} :
    step limits ⟨.forwarding e authority, checks, forwards⟩ m =
      match e.request.forward? authority with
      | none => ⟨.answered connectionFailed, checks, forwards⟩
      | some request =>
        let exchange := (m.peers.within limits).backend request
        ⟨.answered (forwardedResponse limits.request exchange), checks, forwards⟩ := by
  cases hforward : e.request.forward? authority <;>
    simp [step, advance, Counted.result, hforward]

@[simp] theorem step_answered {response : Response} :
    step limits ⟨.answered response, checks, forwards⟩ m =
      ⟨.answered response, checks, forwards⟩ :=
  rfl

/-- A step counts what it hands over, whatever was counted before. -/
theorem exists_run_advance (limits : Limits) (f : Flight) (m : Moment) (counters : Counters) :
    ∃ checks forwards, (f.step limits m).checks = f.checks ++ checks ∧
      (f.step limits m).forwards = f.forwards ++ forwards ∧
      (f.advance limits m).run counters = (f.step limits m, counters.after checks forwards) := by
  obtain ⟨stage, checks, forwards⟩ := f
  cases stage with
  | received r freshId client =>
      rw [step_received]
      cases herrand : m.table.errand r freshId client with
      | error reply => exact ⟨[], [], by simp [advance, herrand]⟩
      | ok e => exact ⟨[e.check], [], by simp [advance, herrand]⟩
  | checking e =>
      refine ⟨[], [], ?_⟩
      rw [step_checking]
      rcases hjudge : limits.check.judge ((m.peers.within limits).control e.check) with
        _ | fault | _ | ⟨page, contentType⟩ <;> simp [advance, hjudge]
  | ready e =>
      rw [step_ready]
      cases hresolve : m.table.resolve e.target with
      | error cause => exact ⟨[], [], by simp [advance, hresolve]⟩
      | ok authority =>
          cases hforward : e.request.forward? authority with
          | none => exact ⟨[], [], by simp [advance, hresolve, hforward]⟩
          | some request => exact ⟨[], [request], by simp [advance, hresolve, hforward]⟩
  | forwarding e authority =>
      refine ⟨[], [], ?_⟩
      rw [step_forwarding]
      cases hforward : e.request.forward? authority <;> simp [advance, hforward]
  | answered response => exact ⟨[], [], by simp [advance]⟩

end

variable {limits : Limits}

@[simp] theorem run_cons (f : Flight) (m : Moment) (rest : List Moment) :
    run limits f (m :: rest) = run limits (f.step limits m) rest :=
  rfl

@[simp] theorem run_append (f : Flight) (before after : List Moment) :
    run limits f (before ++ after) = run limits (run limits f before) after := by
  rw [run, List.foldl_append]
  rfl

@[simp] theorem run_answered {response : Response} {checks forwards : List Request}
    (moments : List Moment) :
    run limits ⟨.answered response, checks, forwards⟩ moments =
      ⟨.answered response, checks, forwards⟩ := by
  induction moments with
  | nil => rfl
  | cons m rest ih => exact ih

theorem run_checking_of_judge_eq_none {e : Errand} {checks forwards : List Request} {m : Moment}
    (h : limits.check.judge ((m.peers.within limits).control e.check) = none) (n : Nat) :
    run limits ⟨.checking e, checks, forwards⟩ (List.replicate n m) =
      ⟨.checking e, checks, forwards⟩ := by
  induction n with
  | zero => rfl
  | succ n ih =>
      simp [List.replicate_succ, step_checking, h, ih]

theorem handled_run_ready (t : Table) (p : Peers) (e : Errand) (checks : List Request) (n : Nat) :
    (run limits ⟨.ready e, checks, []⟩ (List.replicate (n + 2) ⟨t, p⟩)).handled =
      let forwarded := t.forward e.request e.target limits.request (p.within limits).backend
      ⟨checks.head?, forwarded.sent, some forwarded.response⟩ := by
  rw [List.replicate_succ, List.replicate_succ, run_cons, run_cons, step_ready]
  cases hresolve : t.resolve e.target with
  | error cause =>
      simp [Table.forward_of_resolve_eq_error hresolve, handled]
  | ok authority =>
      rw [step_forwarding, Table.forward_of_resolve hresolve]
      cases e.request.forward? authority with
      | none => simp [handled]
      | some request => simp [handled]

theorem handled_run_checking (t : Table) (p : Peers) (e : Errand) (n : Nat) :
    (run limits ⟨.checking e, [e.check], []⟩ (List.replicate (n + 3) ⟨t, p⟩)).handled =
      match limits.check.judge ((p.within limits).control e.check) with
      | none => ⟨some e.check, none, none⟩
      | some result =>
        let (forwarded, response) := t.act e.request limits (p.within limits)
          (result.map (Action.ofVerdict · e.target))
        ⟨some e.check, forwarded, some response⟩ := by
  cases hjudge : limits.check.judge ((p.within limits).control e.check) with
  | none =>
      rw [run_checking_of_judge_eq_none hjudge]
      rfl
  | some result =>
      rw [List.replicate_succ, run_cons, step_checking, hjudge]
      rcases result with fault | _ | ⟨page, contentType⟩
      · rw [run_answered]
        rfl
      · rw [handled_run_ready]
        rfl
      · rw [run_answered]
        rfl

/-- Four steps with one table are enough to handle a request. -/
theorem handled_run_start (t : Table) (p : Peers) (r : Request) (freshId : Text)
    (client : IpAddress) (n : Nat) :
    ((start r freshId client).run limits (List.replicate (n + 4) ⟨t, p⟩)).handled =
      t.handle limits (p.within limits) freshId client r := by
  rw [List.replicate_succ, run_cons, Table.handle_eq, start, step_received]
  cases herrand : t.errand r freshId client with
  | error reply =>
      rw [run_answered]
      rfl
  | ok e => exact handled_run_checking t p e n

end Flight

end Gatekeeper
