import Gatekeeper.Proofs.Config.Accepted
import Gatekeeper.Proofs.Proxy.Flight

/-!
# Requests that share a table

Requests arrive, take steps in any order, and find the table that is there when they take them.
Between the steps of a request the table may be replaced, but only by that of an accepted
configuration.
-/

namespace Gatekeeper

/-- A file that is loaded again leaves the table, or brings that of an accepted configuration. -/
theorem Table.reload_fst_cases (t : Table) (content : FileContent) :
    (t.reload content).1 = t ∨ ∃ c : Config, c.IsValid ∧ (t.reload content).1 = ofConfig c := by
  rw [reload]
  cases hload : Config.load content with
  | error cause => exact Or.inl rfl
  | ok c =>
      right
      rw [Config.load] at hload
      cases hfile : Config.ofFile content with
      | error cause => simp [hfile, bind, Except.bind] at hload
      | ok c' =>
          simp only [hfile, bind, Except.bind] at hload
          obtain ⟨hvalid, rfl⟩ := Config.validate_eq_ok_iff.mp hload
          exact ⟨c', hvalid, rfl⟩

/-- The table that is there, what was counted, and the requests in the order of their arrival. -/
structure World where
  table : Table
  counters : Counters
  flights : List Flight

/-- What can happen next: a request arrives or takes a step, or the table is replaced, directly or
from a file. -/
inductive Event where
  | arrive (r : Request) (freshId : Text) (client : IpAddress)
  /-- One request takes its next step. -/
  | advance (i : Nat) (peers : Peers)
  | reload (c : Config) (hvalid : c.IsValid)
  /-- A file is loaded again. -/
  | load (content : FileContent)

namespace World

def start (c : Config) : World :=
  ⟨.ofConfig c, .zero, []⟩

/-- A request takes its step in the table that is there, and counts where all others count. -/
def step (limits : Limits) (w : World) : Event → World
  | .arrive r freshId client => { w with flights := w.flights ++ [.start r freshId client] }
  | .advance i peers =>
    match w.flights[i]? with
    | none => w
    | some f =>
      let (f, counters) := (f.advance limits ⟨w.table, peers⟩).run w.counters
      { w with counters, flights := w.flights.set i f }
  | .reload c _ => { w with table := .ofConfig c }
  | .load content => { w with table := (w.table.reload content).1 }

def run (limits : Limits) (w : World) (events : List Event) : World :=
  events.foldl (step limits) w

def stage? (w : World) (i : Nat) : Option Stage :=
  w.flights[i]?.map Flight.stage

/-- What a request finds around it at an event, if the event is a step of the request. -/
def seen (w : World) (i : Nat) : Event → List Moment
  | .advance j peers => if j = i then [⟨w.table, peers⟩] else []
  | _ => []

/-- What a request finds around it at its steps. -/
def moments (limits : Limits) (i : Nat) : World → List Event → List Moment
  | _, [] => []
  | w, event :: rest => w.seen i event ++ moments limits i (w.step limits event) rest

/-- The table is that of a configuration that may be used. -/
def IsAccepted (w : World) : Prop :=
  ∃ c : Config, c.IsValid ∧ w.table = .ofConfig c

variable {limits : Limits} {w : World} {i : Nat} {f : Flight} {peers : Peers}

@[simp] theorem run_cons (event : Event) (rest : List Event) :
    w.run limits (event :: rest) = (w.step limits event).run limits rest :=
  rfl

@[simp] theorem run_append (before after : List Event) :
    w.run limits (before ++ after) = (w.run limits before).run limits after := by
  rw [run, List.foldl_append]
  rfl

theorem step_advance_of_none (h : w.flights[i]? = none) :
    w.step limits (.advance i peers) = w := by
  simp only [step, h]

theorem exists_step_advance (limits : Limits) (peers : Peers) (h : w.flights[i]? = some f) :
    ∃ checks forwards, (f.step limits ⟨w.table, peers⟩).checks = f.checks ++ checks ∧
      (f.step limits ⟨w.table, peers⟩).forwards = f.forwards ++ forwards ∧
      w.step limits (.advance i peers) =
        { w with
          counters := w.counters.after checks forwards
          flights := w.flights.set i (f.step limits ⟨w.table, peers⟩) } := by
  obtain ⟨checks, forwards, hchecks, hforwards, hrun⟩ :=
    f.exists_run_advance limits ⟨w.table, peers⟩ w.counters
  refine ⟨checks, forwards, hchecks, hforwards, ?_⟩
  simp only [step, h, hrun]

@[simp] theorem table_step_advance : (w.step limits (.advance i peers)).table = w.table := by
  cases hflight : w.flights[i]? with
  | none => rw [step_advance_of_none hflight]
  | some f =>
      obtain ⟨checks, forwards, -, -, hstep⟩ :=
        exists_step_advance limits peers hflight
      rw [hstep]

theorem IsAccepted.step (h : w.IsAccepted) (event : Event) : (w.step limits event).IsAccepted := by
  cases event with
  | arrive r freshId client => exact h
  | advance j peers =>
      rw [IsAccepted, table_step_advance]
      exact h
  | reload c hvalid => exact ⟨c, hvalid, rfl⟩
  | load content =>
      rcases w.table.reload_fst_cases content with hsame | ⟨c, hvalid, hnew⟩
      · obtain ⟨c, hvalid, htable⟩ := h
        exact ⟨c, hvalid, hsame.trans htable⟩
      · exact ⟨c, hvalid, hnew⟩

theorem IsAccepted.run (h : w.IsAccepted) (events : List Event) :
    (w.run limits events).IsAccepted := by
  induction events generalizing w with
  | nil => exact h
  | cons event rest ih => exact ih (h.step event)

theorem getElem?_step (h : w.flights[i]? = some f) (event : Event) :
    (w.step limits event).flights[i]? = some (f.run limits (w.seen i event)) := by
  cases event with
  | arrive r freshId client =>
      rw [step, List.getElem?_append_left (List.getElem?_eq_some_iff.mp h).1]
      exact h
  | advance j peers =>
      rw [seen]
      split
      · rename_i hij
        subst hij
        obtain ⟨checks, forwards, -, -, hstep⟩ :=
          exists_step_advance limits peers h
        rw [hstep, List.getElem?_set_self (List.getElem?_eq_some_iff.mp h).1]
        rfl
      · rename_i hij
        cases hother : w.flights[j]? with
        | none =>
            rw [step_advance_of_none hother]
            exact h
        | some g =>
            obtain ⟨checks, forwards, -, -, hstep⟩ :=
              exists_step_advance limits peers hother
            rw [hstep, List.getElem?_set_ne hij]
            exact h
  | reload c hvalid => exact h
  | load content => exact h

/-- Among others a request does what it would do alone, at the moments of its own steps. -/
theorem getElem?_run (h : w.flights[i]? = some f) (events : List Event) :
    (w.run limits events).flights[i]? = some (f.run limits (moments limits i w events)) := by
  induction events generalizing w f with
  | nil => exact h
  | cons event rest ih =>
      rw [run_cons, ih (getElem?_step h event), moments, Flight.run_append]

end World

end Gatekeeper
